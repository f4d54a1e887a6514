import TaModel.Contracts.DecimalContext
import TaModel.Contracts.StringDict
import TaModel.Library.Stamping

/-!
# Forecast contracts

The probabilistic forecast of `contracts/forecasts.py` and the candidate output that collects
forecasts. A forecast has an id but no hash of its own: the id is derived from the lineage and the
prediction, the model version from the training run and the candidate name.
-/

set_option autoImplicit false

namespace TaModel.Contracts

/-- Chronological dataset split names. -/
inductive DatasetSplit where
  | train | validation | test
deriving DecidableEq

def DatasetSplit.value : DatasetSplit → String
  | .train => "train"
  | .validation => "validation"
  | .test => "test"

/-- Calibration state of a forecast. -/
inductive CalibrationStatus where
  | uncalibrated | trainPriorOnly | sequenceConditionedTrainOnly | calibrated
deriving DecidableEq

def CalibrationStatus.value : CalibrationStatus → String
  | .uncalibrated => "uncalibrated"
  | .trainPriorOnly => "train_prior_only"
  | .sequenceConditionedTrainOnly => "sequence_conditioned_train_only"
  | .calibrated => "calibrated"

instance : ToPayload DatasetSplit := ⟨fun x => .text x.value⟩
instance : ToPayload CalibrationStatus := ⟨fun x => .text x.value⟩

/-- One quantile prediction for the supervised label distribution. -/
structure ForecastQuantile where
  level : {q : Decimal // 0 < q ∧ q < 1}
  value : Decimal

instance : ToPayload ForecastQuantile := ⟨fun q =>
  .record [("level", toPayload q.level), ("value", toPayload q.value)]⟩

/-- One strict probabilistic forecast with dataset, feature and run lineage. -/
structure Forecast where
  forecastId : String
  datasetSnapshotId : String
  datasetHash : String
  datasetRowId : String
  featureVectorId : String
  featureInputSnapshotId : String
  featureVersion : String
  sourceFeatureSnapshotIds : List String
  instrumentId : String
  venueId : String
  featureTs : AwareDatetime
  labelRuleId : String
  split : DatasetSplit
  trainingRunId : String
  trainingRunHash : String
  modelVersionId : String
  modelVersionHash : String
  probabilities : StringDict Decimal
  quantiles : List ForecastQuantile
  uncertainty : NonNegativeDecimal
  calibrationStatus : CalibrationStatus
  calibrationMetadata : StringDict String

namespace Forecast

/-- `probabilities_are_valid`. -/
def validateProbabilities (f : Forecast) : Raises Unit := do
  require (2 ≤ f.probabilities.entries.length)
    "Dictionary should have at least 2 items after validation"
  f.probabilities.entries.forM fun entry =>
    require (0 ≤ entry.2 ∧ entry.2 ≤ 1) "probabilities must be between 0 and 1"
  require (decimalSum (f.probabilities.entries.map Prod.snd) = 1) "probabilities must sum to 1"

/-- The loop over the quantiles: levels increase strictly, values do not decrease. -/
def validateQuantiles : List ForecastQuantile → Raises Unit
  | [] => .ok ()
  | [_] => .ok ()
  | previous :: quantile :: rest => do
      require (previous.level.val < quantile.level.val)
        "quantile levels must be strictly increasing"
      require (previous.value ≤ quantile.value) "quantile values must be monotonic"
      validateQuantiles (quantile :: rest)

section Identity

variable [Sha256]

/-- `build_training_run_id`. -/
def buildTrainingRunId (trainingRunHash : String) : String :=
  stableIdOfHash "TRAINRUN" "training_run_hash" trainingRunHash

/-- `build_model_version_hash`. -/
def buildModelVersionHash (trainingRunId trainingRunHash candidateName : String) : String :=
  hash (.record
    [ ("candidate_name", .text candidateName),
      ("scope", .text "s7-002-non-promotable-probabilistic-candidate"),
      ("training_run_hash", .text trainingRunHash), ("training_run_id", .text trainingRunId) ])

/-- `build_model_version_id`. -/
def buildModelVersionId (modelVersionHash : String) : String :=
  stableIdOfHash "MODELVERSION" "model_version_hash" modelVersionHash

/-- `build_forecast_id`. -/
def buildId (f : Forecast) : String :=
  stableId "FORECAST" (.record
    [ ("calibration_metadata", toPayload f.calibrationMetadata),
      ("calibration_status", toPayload f.calibrationStatus),
      ("dataset_hash", toPayload f.datasetHash), ("dataset_row_id", toPayload f.datasetRowId),
      ("dataset_snapshot_id", toPayload f.datasetSnapshotId),
      ("model_version_hash", toPayload f.modelVersionHash),
      ("model_version_id", toPayload f.modelVersionId),
      ("probabilities", toPayload f.probabilities), ("quantiles", toPayload f.quantiles),
      ("split", toPayload f.split), ("training_run_hash", toPayload f.trainingRunHash),
      ("training_run_id", toPayload f.trainingRunId), ("uncertainty", toPayload f.uncertainty) ])

/-- The validators `Forecast(...)` runs. -/
def validate (f : Forecast) : Raises Unit := do
  require (isHexDigest f.datasetHash ∧ isHexDigest f.trainingRunHash)
    "String should match pattern '^[a-f0-9]\x7b64\x7d$'"
  f.validateProbabilities
  require (f.quantiles ≠ []) "Tuple should have at least 1 item after validation"
  validateQuantiles f.quantiles
  require (f.split ≠ .train) "forecasts must be out-of-sample"
  require (f.trainingRunId = buildTrainingRunId f.trainingRunHash)
    "training_run_id must match training_run_hash"
  match f.calibrationMetadata.get "candidate_name" with
  | none => .error "calibration_metadata requires candidate_name"
  | some candidateName => do
      require (f.modelVersionHash =
          buildModelVersionHash f.trainingRunId f.trainingRunHash candidateName)
        "model_version_hash must match training run and candidate"
      require (f.modelVersionId = buildModelVersionId f.modelVersionHash)
        "model_version_id must match model_version_hash"
      require (f.forecastId = f.buildId) "forecast_id is not deterministic"

/-- A forecast passes when its distribution does and its ids are those of its lineage. -/
theorem validate_of_lineage {f : Forecast} {name : String}
    (hdigests : isHexDigest f.datasetHash = true ∧ isHexDigest f.trainingRunHash = true)
    (hodds : f.validateProbabilities = .ok ()) (hquantiles : f.quantiles ≠ [])
    (hmonotone : validateQuantiles f.quantiles = .ok ()) (hsplit : f.split ≠ .train)
    (hrun : f.trainingRunId = buildTrainingRunId f.trainingRunHash)
    (hname : f.calibrationMetadata.get "candidate_name" = some name)
    (hversion : f.modelVersionHash = buildModelVersionHash f.trainingRunId f.trainingRunHash name)
    (hversionId : f.modelVersionId = buildModelVersionId f.modelVersionHash)
    (hid : f.forecastId = f.buildId) : f.validate = .ok () := by
  simp only [validate, hodds, hmonotone, hname, check_bind_eq_ok_iff, require_eq_ok_iff]
  exact ⟨hdigests, trivial, hquantiles, trivial, hsplit, hrun, hversion, hversionId, hid⟩

end Identity

instance : ToPayload Forecast := ⟨fun f =>
  .record
    [ ("calibration_metadata", toPayload f.calibrationMetadata),
      ("calibration_status", toPayload f.calibrationStatus),
      ("dataset_hash", toPayload f.datasetHash), ("dataset_row_id", toPayload f.datasetRowId),
      ("dataset_snapshot_id", toPayload f.datasetSnapshotId),
      ("feature_input_snapshot_id", toPayload f.featureInputSnapshotId),
      ("feature_ts", toPayload f.featureTs), ("feature_vector_id", toPayload f.featureVectorId),
      ("feature_version", toPayload f.featureVersion), ("forecast_id", toPayload f.forecastId),
      ("instrument_id", toPayload f.instrumentId), ("label_rule_id", toPayload f.labelRuleId),
      ("model_version_hash", toPayload f.modelVersionHash),
      ("model_version_id", toPayload f.modelVersionId),
      ("probabilities", toPayload f.probabilities), ("quantiles", toPayload f.quantiles),
      ("source_feature_snapshot_ids", toPayload f.sourceFeatureSnapshotIds),
      ("split", toPayload f.split), ("training_run_hash", toPayload f.trainingRunHash),
      ("training_run_id", toPayload f.trainingRunId), ("uncertainty", toPayload f.uncertainty),
      ("venue_id", toPayload f.venueId) ]⟩

end Forecast

/-- The forecasts of one training run on one snapshot. -/
structure ProbabilisticCandidateOutput where
  outputId : String
  outputHash : String
  datasetSnapshotId : String
  datasetHash : String
  trainingRunId : String
  trainingRunHash : String
  modelVersionId : String
  modelVersionHash : String
  forecastIds : List String
  forecasts : List Forecast

namespace ProbabilisticCandidateOutput

/-- The loop of `output_identity_is_deterministic` over the forecasts. -/
def validateForecast (o : ProbabilisticCandidateOutput) (f : Forecast) : Raises Unit := do
  require (f.datasetSnapshotId = o.datasetSnapshotId)
    "forecast dataset_snapshot_id must match output"
  require (f.datasetHash = o.datasetHash) "forecast dataset_hash must match output"
  require (f.trainingRunId = o.trainingRunId) "forecast training_run_id must match output"
  require (f.trainingRunHash = o.trainingRunHash) "forecast training_run_hash must match output"
  require (f.modelVersionId = o.modelVersionId) "forecast model_version_id must match output"
  require (f.modelVersionHash = o.modelVersionHash)
    "forecast model_version_hash must match output"

/-- The checks of an output before its own digest. -/
def validateFields (o : ProbabilisticCandidateOutput) : Raises Unit := do
  require (isHexDigest o.datasetHash ∧ isHexDigest o.trainingRunHash ∧
      isHexDigest o.modelVersionHash) "String should match pattern '^[a-f0-9]\x7b64\x7d$'"
  require (o.forecastIds ≠ [] ∧ o.forecasts ≠ [])
    "Tuple should have at least 1 item after validation"
  require (o.forecastIds = o.forecasts.map Forecast.forecastId)
    "forecast_ids must match forecasts"
  o.forecasts.forM o.validateForecast

variable [Sha256]

/-- `build_probabilistic_output_hash`. -/
def buildHash (o : ProbabilisticCandidateOutput) : String :=
  hash (.record
    [ ("dataset_hash", toPayload o.datasetHash),
      ("dataset_snapshot_id", toPayload o.datasetSnapshotId),
      ("forecasts", toPayload o.forecasts),
      ("model_version_hash", toPayload o.modelVersionHash),
      ("model_version_id", toPayload o.modelVersionId),
      ("training_run_hash", toPayload o.trainingRunHash),
      ("training_run_id", toPayload o.trainingRunId) ])

/-- Where an output stores its hash and id. -/
def stamping : Library.Stamping ProbabilisticCandidateOutput String String where
  checkFields := validateFields
  storedHash := outputHash
  storedId := outputId
  contentHash := buildHash
  idOfHash := stableIdOfHash "PROBOUTPUT" "output_hash"
  stamp o newHash newId := { o with outputHash := newHash, outputId := newId }
  hashError := "output_hash is not deterministic"
  idError := "output_id is not deterministic"
  storedHash_stamp _ _ _ := rfl
  storedId_stamp _ _ _ := rfl
  contentHash_stamp _ _ _ := rfl
  checkFields_stamp _ _ _ := rfl

end ProbabilisticCandidateOutput

end TaModel.Contracts
