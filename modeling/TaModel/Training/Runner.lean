import TaModel.Contracts.DecimalRange
import TaModel.Contracts.Training

/-!
# The training runner

`run_training` of `training/runner.py` and the prerequisites it shares with the trainers: a snapshot
whose identity is that of its content, with a train row, distinct row ids and chronological rows.
-/

set_option autoImplicit false

namespace TaModel.Training

open Contracts Datasets

variable [Sha256]

/-- The loop of `_validate_row_order`. -/
def validateRowOrderFrom (seenIds : List String) :
    Option AwareDatetime → List DatasetRow → Raises Unit
  | _, [] => .ok ()
  | previousTs, row :: rows => do
      require (row.rowId ∉ seenIds) "duplicate dataset row_id"
      require (∀ t ∈ previousTs, t ≤ row.featureTs)
        "dataset rows must be chronological by feature_ts"
      require (row.featureTs < row.labelTs) "label_ts must be after feature_ts"
      validateRowOrderFrom (row.rowId :: seenIds) (some row.featureTs) rows

/-- `_validate_row_order`. -/
def validateRowOrder (rows : List DatasetRow) : Raises Unit := validateRowOrderFrom [] none rows

/-- `_validate_prerequisites`. -/
def validatePrerequisites [StrLower] (snapshot : DatasetSnapshot) (config : TrainingConfig)
    (codeCommit : String) : Raises String := do
  let normalizedCodeCommit ← validateCodeCommit codeCommit
  require (snapshot.datasetSnapshotId = buildDatasetSnapshotId snapshot.datasetHash)
    "dataset_snapshot_id does not match dataset_hash"
  require (snapshot.datasetHash = buildDatasetHash snapshot.rows snapshot.splitWindows
      snapshot.labelRule snapshot.sourceFeatureSnapshotIds)
    "dataset_hash does not match snapshot contents"
  require (snapshot.rows ≠ []) "at least one dataset row is required"
  require (∃ row ∈ snapshot.rows, row.split = config.trainSplit)
    "at least one train row is required"
  validateRowOrder snapshot.rows
  return normalizedCodeCommit

omit [Sha256] in
/-- `_mean`. -/
def mean (values : List Decimal) : Raises Decimal := do
  require (values ≠ []) "cannot compute mean of empty values"
  let total ← contextSum values
  finalized (total / values.length)

/-- The metrics of one evaluation split. -/
def evaluationMetrics (snapshot : DatasetSnapshot) (trainLabelMean : Decimal)
    (split : DatasetSplit) : Raises (List TrainingMetric) := do
  let splitRows := snapshot.rows.filter fun row => decide (row.split = split)
  require (splitRows ≠ []) ("evaluation split has no rows: " ++ split.value)
  let errors ← splitRows.mapM fun row => do
    let difference ← finalized (row.labelValue - trainLabelMean)
    return |difference|
  let error ← mean errors
  return [⟨"mean_absolute_error_against_train_mean", split, error⟩,
    ⟨"evaluation_row_count", split, splitRows.length⟩]

/-- `_build_metrics`. -/
def buildMetrics (snapshot : DatasetSnapshot) (config : TrainingConfig)
    (trainLabelMean : Decimal) : Raises (List TrainingMetric) := do
  let evaluated ← config.evaluationSplits.mapM (evaluationMetrics snapshot trainLabelMean)
  return [⟨"train_label_mean", config.trainSplit, trainLabelMean⟩,
    ⟨"train_row_count", config.trainSplit, snapshot.rowCountsBySplit config.trainSplit⟩] ++
      evaluated.flatten

/-- `_build_artifacts`. -/
def buildArtifacts (snapshot : DatasetSnapshot) (config : TrainingConfig) (labelMean : Decimal) :
    List TrainingArtifactReference :=
  let payload := Payload.record
    [ ("dataset_hash", toPayload snapshot.datasetHash),
      ("dataset_snapshot_id", toPayload snapshot.datasetSnapshotId),
      ("runner_scope",
        .text "S7-001 reproducibility evidence only; not a probabilistic candidate"),
      ("seed", toPayload config.seed), ("train_label_mean", toPayload labelMean),
      ("trainer_kind", toPayload config.trainerKind),
      ("training_config_id", toPayload config.trainingConfigId) ]
  let uri := "/".intercalate
    [ "artifact://s7-001-training-runner", snapshot.datasetSnapshotId, config.trainingConfigId,
      toString config.seed, "reference_model.json" ]
  [buildTrainingArtifactReference "reference_model" uri payload]

/-- `run_training`. -/
def runTraining [StrLower] (snapshot : DatasetSnapshot) (config : TrainingConfig)
    (codeCommit : String) : Raises TrainingRunResult := do
  let codeCommit ← validatePrerequisites snapshot config codeCommit
  require (config.trainerKind = .referenceMeanLabel)
    ("unsupported trainer_kind: " ++ config.trainerKind.value)
  let trainRows := snapshot.rows.filter fun row => decide (row.split = config.trainSplit)
  let labelMean ← mean (trainRows.map DatasetRow.labelValue)
  let metrics ← buildMetrics snapshot config labelMean
  TrainingRunResult.stamping.construct
    { trainingRunId := "", trainingRunHash := "",
      datasetSnapshotId := snapshot.datasetSnapshotId, datasetHash := snapshot.datasetHash,
      trainingConfig := config, codeCommit := codeCommit, seed := config.seed,
      status := .runnerEvidenceOnly, metrics := metrics,
      artifacts := buildArtifacts snapshot config labelMean }

/-! ## What the checks establish -/

/-- Rows that pass the loop have distinct new ids and do not go back in time. -/
theorem validateRowOrderFrom_eq_ok {seenIds : List String} {previousTs : Option AwareDatetime}
    {rows : List DatasetRow} (h : validateRowOrderFrom seenIds previousTs rows = .ok ()) :
    (∀ row ∈ rows, row.rowId ∉ seenIds ∧ ∀ t ∈ previousTs, t ≤ row.featureTs) ∧
      (rows.map DatasetRow.rowId).Nodup ∧
      rows.Pairwise fun row row' => row.featureTs ≤ row'.featureTs := by
  induction rows generalizing seenIds previousTs with
  | nil => exact ⟨nofun, .nil, .nil⟩
  | cons row rows ih =>
      simp only [validateRowOrderFrom, check_bind_eq_ok_iff, require_eq_ok_iff] at h
      obtain ⟨hnew, hforward, -, hrest⟩ := h
      obtain ⟨hall, hnodup, hordered⟩ := ih hrest
      refine ⟨?_, ?_, ?_⟩
      · intro row' hrow'
        rcases List.mem_cons.mp hrow' with rfl | hmem
        · exact ⟨hnew, hforward⟩
        · obtain ⟨hid, hts⟩ := hall row' hmem
          refine ⟨fun hseen => hid (List.mem_cons_of_mem _ hseen), fun t ht => ?_⟩
          exact le_trans (hforward t ht) (hts row.featureTs rfl)
      · rw [List.map_cons, List.nodup_cons]
        refine ⟨fun hmem => ?_, hnodup⟩
        obtain ⟨row', hrow', heq⟩ := List.mem_map.mp hmem
        exact (hall row' hrow').1 (heq ▸ List.mem_cons_self)
      · refine List.pairwise_cons.mpr ⟨fun row' hrow' => ?_, hordered⟩
        exact (hall row' hrow').2 row.featureTs rfl

/-- A snapshot that passes the prerequisites has distinct row ids and chronological rows. -/
theorem rows_of_validatePrerequisites [StrLower] {snapshot : DatasetSnapshot}
    {config : TrainingConfig} {codeCommit normalized : String}
    (h : validatePrerequisites snapshot config codeCommit = .ok normalized) :
    (snapshot.rows.map DatasetRow.rowId).Nodup ∧
      snapshot.rows.Pairwise fun row row' => row.featureTs ≤ row'.featureTs := by
  simp only [validatePrerequisites, bind_eq_ok_iff, require_eq_ok_iff] at h
  obtain ⟨_, -, _, -, _, -, _, -, _, -, _, horder, -⟩ := h
  exact (validateRowOrderFrom_eq_ok horder).2

end TaModel.Training
