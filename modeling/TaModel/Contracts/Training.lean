import TaModel.Contracts.Forecasts
import TaModel.Datasets.Snapshots

/-!
# Training contracts

The configuration of a training run and its result (`contracts/training.py`). The result refers to
the snapshot it was trained on by id and hash.
-/

set_option autoImplicit false

namespace TaModel.Contracts

open Datasets (StrLower)

inductive TrainerKind where
  | referenceMeanLabel
deriving DecidableEq

def TrainerKind.value : TrainerKind → String
  | .referenceMeanLabel => "reference_mean_label"

inductive TrainingRunStatus where
  | runnerEvidenceOnly
deriving DecidableEq

def TrainingRunStatus.value : TrainingRunStatus → String
  | .runnerEvidenceOnly => "runner_evidence_only"

instance : ToPayload TrainerKind := ⟨fun x => .text x.value⟩
instance : ToPayload TrainingRunStatus := ⟨fun x => .text x.value⟩

/-- `_GIT_COMMIT_RE`. -/
def isGitCommit (s : String) : Bool :=
  decide (7 ≤ s.length) && decide (s.length ≤ 40) && s.toList.all fun c =>
    c.isDigit || (decide ('a' ≤ c) && decide (c ≤ 'f')) || (decide ('A' ≤ c) && decide (c ≤ 'F'))

/-- `validate_code_commit`. -/
def validateCodeCommit [StrLower] (value : String) : Raises String :=
  let normalized := StrLower.lower (strip value)
  if normalized = "" then .error "code_commit is required"
  else if isGitCommit normalized then .ok normalized
  else .error "code_commit must be a git SHA-like hex string of 7 to 40 chars"

/-- One metric of a training run. -/
structure TrainingMetric where
  name : String
  split : DatasetSplit
  value : Decimal

instance : ToPayload TrainingMetric := ⟨fun m =>
  .record [("name", toPayload m.name), ("split", toPayload m.split),
    ("value", toPayload m.value)]⟩

/-- Reference to an artifact; the proof field is the pattern of its hash. -/
structure TrainingArtifactReference where
  name : String
  uri : String
  contentHash : String
  mediaType : String
  hash_is_digest : isHexDigest contentHash = true

instance : ToPayload TrainingArtifactReference := ⟨fun a =>
  .record [("content_hash", toPayload a.contentHash), ("media_type", toPayload a.mediaType),
    ("name", toPayload a.name), ("uri", toPayload a.uri)]⟩

section Identity

variable [Sha256]

/-- `build_training_config_hash`. -/
def buildTrainingConfigHash (name : String) (trainerKind : TrainerKind) (runnerVersion : String)
    (trainSplit : DatasetSplit) (evaluationSplits : List DatasetSplit) (parameters : List String)
    (seed : Nat) : String :=
  hash (.record
    [ ("evaluation_splits", toPayload evaluationSplits), ("name", toPayload name),
      ("parameters", toPayload parameters), ("runner_version", toPayload runnerVersion),
      ("seed", toPayload seed), ("train_split", toPayload trainSplit),
      ("trainer_kind", toPayload trainerKind) ])

/-- `build_training_config_id`. -/
def buildTrainingConfigId (trainingConfigHash : String) : String :=
  stableIdOfHash "TRAINCONFIG" "training_config_hash" trainingConfigHash

/-- Training configuration; the proof fields are `config_identity_is_deterministic`. -/
structure TrainingConfig where
  trainingConfigId : String
  trainingConfigHash : String
  name : String
  trainerKind : TrainerKind
  runnerVersion : String
  trainSplit : DatasetSplit
  evaluationSplits : List DatasetSplit
  parameters : List String
  seed : Nat
  train_is_train : trainSplit = .train
  evaluation_nonempty : evaluationSplits ≠ []
  evaluation_unique : evaluationSplits.Nodup
  train_not_evaluated : trainSplit ∉ evaluationSplits
  hash_is_deterministic : trainingConfigHash = buildTrainingConfigHash name trainerKind
    runnerVersion trainSplit evaluationSplits parameters seed
  id_is_deterministic : trainingConfigId = buildTrainingConfigId trainingConfigHash

instance : ToPayload TrainingConfig := ⟨fun c =>
  .record
    [ ("evaluation_splits", toPayload c.evaluationSplits), ("name", toPayload c.name),
      ("parameters", toPayload c.parameters), ("runner_version", toPayload c.runnerVersion),
      ("seed", toPayload c.seed), ("train_split", toPayload c.trainSplit),
      ("trainer_kind", toPayload c.trainerKind),
      ("training_config_hash", toPayload c.trainingConfigHash),
      ("training_config_id", toPayload c.trainingConfigId) ]⟩

/-- `build_training_config`. -/
def buildTrainingConfig (name : String) (trainerKind : TrainerKind) (runnerVersion : String)
    (trainSplit : DatasetSplit) (evaluationSplits : List DatasetSplit) (parameters : List String)
    (seed : Nat) : Raises TrainingConfig :=
  if htrain : trainSplit ≠ .train then .error "training runner requires train_split=train"
  else if hempty : evaluationSplits = [] then
    .error "at least one evaluation split is required"
  else if hunique : ¬ evaluationSplits.Nodup then .error "evaluation_splits must be unique"
  else if hmem : trainSplit ∈ evaluationSplits then
    .error "evaluation_splits must not include train_split"
  else
    let configHash := buildTrainingConfigHash name trainerKind runnerVersion trainSplit
      evaluationSplits parameters seed
    .ok
      { trainingConfigId := buildTrainingConfigId configHash, trainingConfigHash := configHash,
        name := name, trainerKind := trainerKind, runnerVersion := runnerVersion,
        trainSplit := trainSplit, evaluationSplits := evaluationSplits, parameters := parameters,
        seed := seed, train_is_train := not_not.mp htrain, evaluation_nonempty := hempty,
        evaluation_unique := not_not.mp hunique, train_not_evaluated := hmem,
        hash_is_deterministic := rfl, id_is_deterministic := rfl }

/-- `build_training_artifact_reference`. -/
def buildTrainingArtifactReference (name uri : String) (payload : Payload) :
    TrainingArtifactReference where
  name := name
  uri := uri
  contentHash := hash payload
  mediaType := "application/json"
  hash_is_digest := isHexDigest_hash payload

/-- Result of a training run. -/
structure TrainingRunResult where
  trainingRunId : String
  trainingRunHash : String
  datasetSnapshotId : String
  datasetHash : String
  trainingConfig : TrainingConfig
  codeCommit : String
  seed : Nat
  status : TrainingRunStatus
  metrics : List TrainingMetric
  artifacts : List TrainingArtifactReference

namespace TrainingRunResult

variable [StrLower]

/-- The checks of a result before its own digest. -/
def validateFields (r : TrainingRunResult) : Raises Unit := do
  require (isHexDigest r.datasetHash) "String should match pattern '^[a-f0-9]\x7b64\x7d$'"
  -- a result stores the normal form of its commit
  let normalized ← validateCodeCommit r.codeCommit
  require (r.codeCommit = normalized) "training_run_hash is not deterministic"
  require (r.seed = r.trainingConfig.seed) "run seed must match training_config seed"
  require (r.metrics ≠ []) "training runs require at least one metric"
  require (r.artifacts ≠ []) "training runs require at least one artifact reference"
  require ((r.metrics.map fun metric => (metric.split, metric.name)).Nodup)
    "metric names must be unique per split"
  require ((r.artifacts.map TrainingArtifactReference.name).Nodup) "artifact names must be unique"

omit [StrLower] in
/-- `build_training_run_hash`. -/
def buildHash (r : TrainingRunResult) : String :=
  hash (.record
    [ ("artifacts", toPayload r.artifacts), ("code_commit", toPayload r.codeCommit),
      ("dataset_hash", toPayload r.datasetHash),
      ("dataset_snapshot_id", toPayload r.datasetSnapshotId), ("metrics", toPayload r.metrics),
      ("seed", toPayload r.seed), ("status", toPayload r.status),
      ("training_config", toPayload r.trainingConfig) ])

/-- Where a result stores its hash and id. -/
def stamping : Library.Stamping TrainingRunResult String String where
  checkFields := validateFields
  storedHash := trainingRunHash
  storedId := trainingRunId
  contentHash := buildHash
  idOfHash := Forecast.buildTrainingRunId
  stamp r newHash newId := { r with trainingRunHash := newHash, trainingRunId := newId }
  hashError := "training_run_hash is not deterministic"
  idError := "training_run_id is not deterministic"
  storedHash_stamp _ _ _ := rfl
  storedId_stamp _ _ _ := rfl
  contentHash_stamp _ _ _ := rfl
  checkFields_stamp _ _ _ := rfl

end TrainingRunResult

end Identity

end TaModel.Contracts
