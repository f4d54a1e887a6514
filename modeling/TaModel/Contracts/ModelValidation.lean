import TaModel.Contracts.DecimalContext
import TaModel.Contracts.Evaluation
import TaModel.Contracts.ModelRegistry

/-!
# Model validation contracts

The validation report of a forecast candidate and its parts, from `contracts/model_validation.py`.
-/

set_option autoImplicit false

namespace TaModel.Contracts

open Datasets (StrLower)

inductive ModelGateRecommendation where
  | pass | fail | continueResearch | blocked
deriving DecidableEq

def ModelGateRecommendation.value : ModelGateRecommendation → String
  | .pass => "pass"
  | .fail => "fail"
  | .continueResearch => "continue_research"
  | .blocked => "blocked"

instance : ToPayload ModelGateRecommendation := ⟨fun x => .text x.value⟩

/-- Core probabilistic metrics over one evaluated forecast set. -/
structure ModelMetricSet where
  observationCount : {n : Nat // 0 < n}
  nll : Decimal
  brier : Decimal
  calibrationError : NonNegativeDecimal

instance : ToPayload ModelMetricSet := ⟨fun m =>
  .record
    [ ("brier", toPayload m.brier), ("calibration_error", toPayload m.calibrationError),
      ("nll", toPayload m.nll), ("observation_count", toPayload m.observationCount.val) ]⟩

/-- Observed coverage of one predicted level; the proof fields are the ranges and
`coverage_error_matches_level`. -/
structure QuantileCoverageMetric where
  level : {q : Decimal // 0 < q ∧ q < 1}
  observedCoverage : Decimal
  coverageError : Decimal
  observed_in_range : 0 ≤ observedCoverage ∧ observedCoverage ≤ 1
  error_in_range : 0 ≤ coverageError ∧ coverageError ≤ 1
  error_matches_level : coverageError = |rounded (observedCoverage - level.val)|

/-- `QuantileCoverageMetric(...)`. -/
def QuantileCoverageMetric.make (level : {q : Decimal // 0 < q ∧ q < 1})
    (observedCoverage coverageError : Decimal) : Raises QuantileCoverageMetric :=
  if hobserved : ¬ (0 ≤ observedCoverage ∧ observedCoverage ≤ 1) then
    .error "observed_coverage: Input should be between 0 and 1"
  else if herror : ¬ (0 ≤ coverageError ∧ coverageError ≤ 1) then
    .error "coverage_error: Input should be between 0 and 1"
  else if hmatches : coverageError ≠ |rounded (observedCoverage - level.val)| then
    .error "coverage_error must equal abs(observed_coverage - level)"
  else
    .ok ⟨level, observedCoverage, coverageError, not_not.mp hobserved, not_not.mp herror,
      not_not.mp hmatches⟩

instance : ToPayload QuantileCoverageMetric := ⟨fun m =>
  .record
    [ ("coverage_error", toPayload m.coverageError), ("level", toPayload m.level),
      ("observed_coverage", toPayload m.observedCoverage) ]⟩

/-- Summary of uncertainties; the proof field is `uncertainty_range_is_valid`. -/
structure UncertaintySummary where
  meanUncertainty : NonNegativeDecimal
  minUncertainty : NonNegativeDecimal
  maxUncertainty : NonNegativeDecimal
  range_is_valid : minUncertainty.val ≤ meanUncertainty.val ∧
    meanUncertainty.val ≤ maxUncertainty.val

/-- `UncertaintySummary(...)`. -/
def UncertaintySummary.make (meanUncertainty : Decimal)
    (minUncertainty maxUncertainty : NonNegativeDecimal) : Raises UncertaintySummary :=
  if hmean : ¬ 0 ≤ meanUncertainty then
    .error "mean_uncertainty: Input should be greater than or equal to 0"
  else if hrange : ¬ (minUncertainty.val ≤ meanUncertainty ∧
      meanUncertainty ≤ maxUncertainty.val) then
    .error "uncertainty summary must satisfy min <= mean <= max"
  else
    .ok ⟨⟨meanUncertainty, not_not.mp hmean⟩, minUncertainty, maxUncertainty, not_not.mp hrange⟩

instance : ToPayload UncertaintySummary := ⟨fun u =>
  .record
    [ ("max_uncertainty", toPayload u.maxUncertainty),
      ("mean_uncertainty", toPayload u.meanUncertainty),
      ("min_uncertainty", toPayload u.minUncertainty) ]⟩

/-- Fixed S5 baseline evidence. -/
structure BaselineEvidenceReference where
  scorecardId : String
  scorecardHash : String
  gateReportPath : String
  scorecardReportPath : String

instance : ToPayload BaselineEvidenceReference := ⟨fun e =>
  .record
    [ ("baseline_gate_status", .text "PASS"), ("gate_report_path", toPayload e.gateReportPath),
      ("scorecard_hash", toPayload e.scorecardHash), ("scorecard_id", toPayload e.scorecardId),
      ("scorecard_report_path", toPayload e.scorecardReportPath) ]⟩

/-- Candidate-vs-comparator metric comparison. -/
structure ModelComparison where
  comparatorName : String
  comparatorDescription : String
  metrics : ModelMetricSet
  candidateNllDelta : Decimal
  candidateBrierDelta : Decimal
  candidateImprovedNll : Bool
  candidateImprovedBrier : Bool

instance : ToPayload ModelComparison := ⟨fun c =>
  .record
    [ ("candidate_brier_delta", toPayload c.candidateBrierDelta),
      ("candidate_improved_brier", toPayload c.candidateImprovedBrier),
      ("candidate_improved_nll", toPayload c.candidateImprovedNll),
      ("candidate_nll_delta", toPayload c.candidateNllDelta),
      ("comparator_description", toPayload c.comparatorDescription),
      ("comparator_name", toPayload c.comparatorName), ("metrics", toPayload c.metrics) ]⟩

/-- Read-only registry metadata consumed by the report. -/
structure RegistryMetadataReference where
  registryRecordId : String
  registryRecordHash : String
  modelVersionId : String
  sourceModelVersionId : String
  sourceModelVersionHash : String
  currentState : String

instance : ToPayload RegistryMetadataReference := ⟨fun m =>
  .record
    [ ("auto_promotion_enabled", toPayload false), ("current_state", toPayload m.currentState),
      ("model_version_id", toPayload m.modelVersionId),
      ("registry_record_hash", toPayload m.registryRecordHash),
      ("registry_record_id", toPayload m.registryRecordId),
      ("source_model_version_hash", toPayload m.sourceModelVersionHash),
      ("source_model_version_id", toPayload m.sourceModelVersionId) ]⟩

/-- Deterministic forecast-only validation report. -/
structure ModelValidationReport where
  reportId : String
  reportHash : String
  requirementIds : List String
  datasetSnapshotId : String
  datasetHash : String
  trainingRunId : String
  trainingRunHash : String
  modelVersionId : String
  modelVersionHash : String
  forecastOutputId : String
  forecastOutputHash : String
  evaluatedSplits : List DatasetSplit
  evaluatedForecastIds : List String
  candidateMetrics : ModelMetricSet
  quantileCoverage : List QuantileCoverageMetric
  uncertaintySummary : UncertaintySummary
  trainPriorBaseline : ModelComparison
  sequenceAblation : ModelComparison
  baselineEvidence : BaselineEvidenceReference
  registryMetadata : Option RegistryMetadataReference
  recommendation : ModelGateRecommendation
  reasons : List String
  caveats : List String

namespace ModelValidationReport

variable [Sha256] [StrLower]

/-- The checks of `report_identity_is_deterministic` before its own digest. -/
def validateFields (r : ModelValidationReport) : Raises Unit := do
  require (isHexDigest r.datasetHash ∧ isHexDigest r.trainingRunHash ∧
      isHexDigest r.modelVersionHash ∧ isHexDigest r.forecastOutputHash)
    "String should match pattern '^[a-f0-9]\x7b64\x7d$'"
  require (r.evaluatedSplits ≠ []) "model validation reports require evaluated_splits"
  require (r.evaluatedForecastIds ≠ []) "model validation reports require forecast IDs"
  require r.evaluatedForecastIds.Nodup "evaluated_forecast_ids must be unique"
  require (r.datasetSnapshotId = buildDatasetSnapshotId r.datasetHash)
    "dataset_snapshot_id does not match dataset_hash"
  require (r.trainingRunId = Forecast.buildTrainingRunId r.trainingRunHash)
    "training_run_id does not match training_run_hash"
  require (r.modelVersionId = Forecast.buildModelVersionId r.modelVersionHash)
    "model_version_id does not match model_version_hash"
  require (r.forecastOutputId = stableIdOfHash "PROBOUTPUT" "output_hash" r.forecastOutputHash)
    "forecast_output_id does not match forecast_output_hash"
  require (∀ metadata ∈ r.registryMetadata, metadata.sourceModelVersionId = r.modelVersionId)
    "registry source_model_version_id does not match report"
  require (∀ metadata ∈ r.registryMetadata, metadata.sourceModelVersionHash = r.modelVersionHash)
    "registry source_model_version_hash does not match report"
  require (¬ (r.recommendation = .pass ∧
      ∃ caveat ∈ r.caveats, occursIn "forecast-only" (StrLower.lower caveat) = true))
    "forecast-only reports cannot be pass recommendations"
  require (r.recommendation = .pass ∨ r.reasons ≠ []) "non-pass recommendations require reasons"

omit [StrLower] in
/-- `build_model_validation_report_hash`. -/
def buildHash (r : ModelValidationReport) : String :=
  hash (.record
    [ ("baseline_evidence", toPayload r.baselineEvidence),
      ("candidate_metrics", toPayload r.candidateMetrics), ("caveats", toPayload r.caveats),
      ("dataset_hash", toPayload r.datasetHash),
      ("dataset_snapshot_id", toPayload r.datasetSnapshotId),
      ("evaluated_forecast_ids", toPayload r.evaluatedForecastIds),
      ("evaluated_splits", toPayload r.evaluatedSplits),
      ("forecast_output_hash", toPayload r.forecastOutputHash),
      ("forecast_output_id", toPayload r.forecastOutputId),
      ("model_version_hash", toPayload r.modelVersionHash),
      ("model_version_id", toPayload r.modelVersionId),
      ("quantile_coverage", toPayload r.quantileCoverage), ("reasons", toPayload r.reasons),
      ("recommendation", toPayload r.recommendation),
      ("registry_metadata", toPayload r.registryMetadata),
      ("requirement_ids", toPayload r.requirementIds),
      ("scope", .text "s7-004-forecast-only-model-validation-report"),
      ("sequence_ablation", toPayload r.sequenceAblation),
      ("train_prior_baseline", toPayload r.trainPriorBaseline),
      ("training_run_hash", toPayload r.trainingRunHash),
      ("training_run_id", toPayload r.trainingRunId),
      ("uncertainty_summary", toPayload r.uncertaintySummary) ])

/-- Where a report stores its hash and id. -/
def stamping : Library.Stamping ModelValidationReport String String where
  checkFields := validateFields
  storedHash := reportHash
  storedId := reportId
  contentHash := buildHash
  idOfHash := stableIdOfHash "MODELVALIDATION" "report_hash"
  stamp r newHash newId := { r with reportHash := newHash, reportId := newId }
  hashError := "report_hash is not deterministic"
  idError := "report_id is not deterministic"
  storedHash_stamp _ _ _ := rfl
  storedId_stamp _ _ _ := rfl
  contentHash_stamp _ _ _ := rfl
  checkFields_stamp _ _ _ := rfl

end ModelValidationReport

end TaModel.Contracts
