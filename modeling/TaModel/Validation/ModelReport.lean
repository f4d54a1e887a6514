import TaModel.Contracts.ModelValidation
import TaModel.Library.Occurrences
import TaModel.Training.Distribution

/-!
# The model validation report

`build_model_validation_report` of `validation/model_validation.py`: forecasts of a candidate are
aligned with the dataset rows they were made for, scored against the labels of these rows and
compared with the prior of the train labels. The scores themselves are computed in binary floating
point; they are a parameter here (`FloatMetrics`).
-/

set_option autoImplicit false

namespace TaModel.Validation

open Contracts Datasets Library Training

section Report

variable [Sha256]

/-! ## Scores -/

/-- What `_metric_set` reads of one evaluated row. -/
structure Observation where
  isNonNegative : Bool
  negativeProbability : Decimal
  nonNegativeProbability : Decimal

/-- The floating-point scores, as `_decimal` rounds them. -/
class FloatMetrics where
  nll : List Observation → Decimal
  brier : List Observation → Decimal
  calibrationError : List Observation → NonNegativeDecimal

/-- `_class_label`. -/
def classLabel (labelValue : Decimal) : String :=
  if 0 ≤ labelValue then "non_negative" else "negative"

/-- `row_probabilities[name]`. -/
def classProbability (probabilities : StringDict Decimal) (name : String) : Raises Decimal :=
  match probabilities.get name with
  | some probability => .ok probability
  | none => .error ("KeyError: '" ++ name ++ "'")

/-- The readings of one turn of the loop in `_metric_set`. -/
def observation (entry : String × StringDict Decimal) : Raises Observation := do
  let _ ← classProbability entry.2 entry.1
  let negative ← classProbability entry.2 "negative"
  let nonNegative ← classProbability entry.2 "non_negative"
  .ok ⟨decide (entry.1 = "non_negative"), negative, nonNegative⟩

/-- `_metric_set`, on the labels with their probabilities. -/
def metricSet [FloatMetrics] (entries : List (String × StringDict Decimal)) :
    Raises ModelMetricSet :=
  if hnone : entries = [] then .error "at least one evaluation row is required"
  else do
    let observations ← entries.mapM observation
    .ok { observationCount := ⟨entries.length, List.length_pos_iff.mpr hnone⟩,
          nll := FloatMetrics.nll observations, brier := FloatMetrics.brier observations,
          calibrationError := FloatMetrics.calibrationError observations }

/-- `_metrics_for_forecasts`. -/
def metricsForForecasts [FloatMetrics] (pairs : List (Forecast × DatasetRow)) :
    Raises ModelMetricSet :=
  metricSet (pairs.map fun pair => (classLabel pair.2.labelValue, pair.1.probabilities))

/-- `_metrics_for_prior`. -/
def metricsForPrior [FloatMetrics] (rows : List DatasetRow) (probabilities : StringDict Decimal) :
    Raises ModelMetricSet :=
  metricSet (rows.map fun row => (classLabel row.labelValue, probabilities))

/-! ## The train prior -/

omit [Sha256] in
theorem class_names_nodup (negative nonNegative : Decimal) :
    ([("negative", negative), ("non_negative", nonNegative)].map Prod.fst).Nodup := by
  simp

/-- `_train_prior_probabilities`. -/
def trainPriorProbabilities (train : List DatasetRow) : StringDict Decimal :=
  let nonNegative := rounded ((train.countP fun row => decide (0 ≤ row.labelValue) : Nat) /
    (train.length : Decimal))
  ⟨[("negative", rounded (1 - nonNegative)), ("non_negative", nonNegative)],
    class_names_nodup _ _⟩

/-- `_train_prior_quantiles`. -/
def trainPriorQuantiles (train : List DatasetRow) : Raises (List Decimal) :=
  [1 / 10, 1 / 2, 9 / 10].mapM fun level =>
    nearestQuantile (train.map DatasetRow.labelValue) level

/-! ## Coverage and uncertainty -/

/-- The quantiles of one level that the label does not exceed. -/
def coveredBy (level : Decimal) (pair : Forecast × DatasetRow) : Nat :=
  pair.1.quantiles.countP fun quantile =>
    decide (quantile.level.val = level ∧ pair.2.labelValue ≤ quantile.value)

/-- The observed coverage of a level. -/
def observedCoverage (pairs : List (Forecast × DatasetRow)) (level : Decimal) : Decimal :=
  rounded (((pairs.map (coveredBy level)).sum : Nat) / (pairs.length : Decimal))

/-- `_quantile_coverage`. -/
def quantileCoverage (pairs : List (Forecast × DatasetRow)) :
    Raises (List QuantileCoverageMetric) :=
  match pairs with
  | [] => .error "tuple index out of range"
  | first :: _ => (first.1.quantiles.map ForecastQuantile.level).mapM fun level =>
      let observed := observedCoverage pairs level.val
      QuantileCoverageMetric.make level observed |rounded (observed - level.val)|

/-- The mean of the uncertainties, rounded at every step. -/
def meanUncertainty (forecasts : List Forecast) : Decimal :=
  rounded (decimalSum (forecasts.map fun f => f.uncertainty.val) / forecasts.length)

/-- `_uncertainty_summary`. -/
def uncertaintySummary (forecasts : List Forecast) : Raises UncertaintySummary :=
  match forecasts with
  | [] => .error "[<class 'decimal.DivisionUndefined'>]"
  | first :: rest =>
      UncertaintySummary.make (meanUncertainty forecasts)
        ((rest.map Forecast.uncertainty).foldl min first.uncertainty)
        ((rest.map Forecast.uncertainty).foldl max first.uncertainty)

/-! ## Comparisons -/

/-- `_comparison`. -/
def comparison (name description : String) (candidate comparator : ModelMetricSet) :
    ModelComparison where
  comparatorName := name
  comparatorDescription := description
  metrics := comparator
  candidateNllDelta := rounded (candidate.nll - comparator.nll)
  candidateBrierDelta := rounded (candidate.brier - comparator.brier)
  candidateImprovedNll := decide (candidate.nll < comparator.nll)
  candidateImprovedBrier := decide (candidate.brier < comparator.brier)

/-- The train-prior comparison. -/
def trainPriorComparison (candidate comparator : ModelMetricSet) : ModelComparison :=
  comparison "unconditional_train_prior_no_skill"
    ("Train-split label prior applied to each OOS forecast row; " ++
      "validation/test labels are evaluation outcomes only.")
    candidate comparator

/-- The sequence ablation. -/
def sequenceAblation (candidate comparator : ModelMetricSet) : ModelComparison :=
  comparison "ablated_global_prior_no_sequence"
    ("Feature/sequence ablation using the same train-only global prior " ++
      "on the exact evaluated rows.")
    candidate comparator

/-! ## The recommendation -/

/-- `_REQUIREMENT_IDS`. -/
def requirementIds : List String := ["FR-008", "FR-014", "FR-007", "NFR-005"]

/-- The reasons of `_recommendation`. -/
def recommendationReasons (baseline ablation : ModelComparison)
    (registryMetadata : Option RegistryMetadataReference) : List String :=
  [ "Forecast-only metrics are insufficient for promotion; strategy, portfolio, " ++
      "execution, and risk gates remain unevidenced.",
    "No product-approved S7 pass thresholds were available, so the conservative " ++
      "gate recommendation is continue_research." ] ++
  (if baseline.candidateImprovedNll && baseline.candidateImprovedBrier then []
    else ["Candidate did not improve both NLL and Brier against the unconditional " ++
      "train-prior baseline."]) ++
  (if ablation.candidateImprovedNll && ablation.candidateImprovedBrier then []
    else ["Sequence-conditioned candidate did not improve both NLL and Brier against " ++
      "the no-sequence ablation."]) ++
  (if registryMetadata.isSome then []
    else ["Registry metadata was not supplied; validation remains report-only with " ++
      "no registry state transition."])

/-- The caveats of `_recommendation`. -/
def recommendationCaveats : List String :=
  [ "Forecast-only evidence does not claim strategy, portfolio, paper-trading, " ++
      "or live-capital outperformance.",
    "Report performs no auto-promotion and does not route orders to paper/live gateways." ]

/-! ## Baseline evidence -/

/-- `_validate_baseline_evidence_paths`. -/
def validateBaselineEvidencePaths (files : EvidenceFiles) (evidence : BaselineEvidenceReference) :
    Raises Unit := do
  match files evidence.gateReportPath, files evidence.scorecardReportPath with
  | some gate, some scorecard => do
      let gateText ← gate
      let scorecardText ← scorecard
      require (occursIn "Decision: PASS" gateText = true)
        "S5 baseline gate evidence must contain a PASS decision"
      [("gate", gateText), ("scorecard", scorecardText)].forM fun entry => do
        require (occursIn evidence.scorecardId entry.2 = true)
          ("S5 " ++ entry.1 ++ " evidence does not contain scorecard ID")
        require (occursIn evidence.scorecardHash entry.2 = true)
          ("S5 " ++ entry.1 ++ " evidence does not contain scorecard hash")
  | _, _ =>
      let missing := [evidence.gateReportPath, evidence.scorecardReportPath].filter fun path =>
        (files path).isNone
      .error ("fixed S5 baseline evidence is missing: " ++ ", ".intercalate missing)

/-! ## Alignment -/

/-- The fields of a forecast that contradict its row or the snapshot. -/
def mismatches (f : Forecast) (row : DatasetRow) (snapshot : DatasetSnapshot) : List String :=
  let checks : List (String × Bool) :=
    [ ("dataset_snapshot_id", decide (f.datasetSnapshotId = snapshot.datasetSnapshotId)),
      ("dataset_hash", decide (f.datasetHash = snapshot.datasetHash)),
      ("feature_vector_id", decide (f.featureVectorId = row.featureVectorId)),
      ("feature_input_snapshot_id",
        decide (f.featureInputSnapshotId = row.featureInputSnapshotId)),
      ("feature_version", decide (f.featureVersion = row.featureVersion)),
      ("source_feature_snapshot_ids",
        decide (f.sourceFeatureSnapshotIds = row.sourceFeatureSnapshotIds.map Subtype.val)),
      ("feature_ts", f.featureTs.sameInstant row.featureTs),
      ("split", decide (f.split = row.split)),
      ("instrument_id", decide (f.instrumentId = row.instrumentId)),
      ("venue_id", decide (f.venueId = row.venueId)),
      ("label_rule_id", decide (f.labelRuleId = row.labelRuleId)) ]
  (checks.filter fun check => !check.2).map Prod.fst

/-- `_validate_forecast_row`. -/
def validateForecastRow (f : Forecast) (row : DatasetRow) (snapshot : DatasetSnapshot) :
    Raises Unit := do
  require (mismatches f row snapshot = [])
    ("forecast/dataset alignment mismatch: " ++ ", ".intercalate (mismatches f row snapshot))
  require (f.split ≠ .train) "model validation forecasts must be out-of-sample"

/-- The loop of `_validate_forecast_alignment`: the rows of the forecasts, in forecast order. -/
def alignForecasts (snapshot : DatasetSnapshot) :
    Option (List {q : Decimal // 0 < q ∧ q < 1}) → List Forecast →
      Raises (List (Forecast × DatasetRow))
  | _, [] => .ok []
  | expectedLevels, f :: forecasts => do
      let levels := f.quantiles.map ForecastQuantile.level
      require (∀ expected ∈ expectedLevels, levels = expected)
        "all forecasts must use identical quantile levels"
      match snapshot.rows.find? fun row => decide (row.rowId = f.datasetRowId) with
      | none => .error "forecast references an unknown dataset row"
      | some row => do
          validateForecastRow f row snapshot
          let aligned ← alignForecasts snapshot (some levels) forecasts
          .ok ((f, row) :: aligned)

/-- `_validate_forecast_alignment`, with the forecast of each row kept beside it. -/
def validateForecastAlignment (snapshot : DatasetSnapshot)
    (output : ProbabilisticCandidateOutput) : Raises (List (Forecast × DatasetRow)) := do
  require (output.datasetSnapshotId = snapshot.datasetSnapshotId)
    "forecast output dataset_snapshot_id does not match snapshot"
  require (output.datasetHash = snapshot.datasetHash)
    "forecast output dataset_hash does not match snapshot"
  require (snapshot.rows.map DatasetRow.rowId).Nodup "dataset snapshot contains duplicate row IDs"
  let forecastRowIds := output.forecasts.map Forecast.datasetRowId
  require forecastRowIds.Nodup "duplicate forecast dataset_row_id values are not allowed"
  let forecastSplits := output.forecasts.map Forecast.split
  let expectedRowIds :=
    (snapshot.rows.filter fun row => decide (row.split ∈ forecastSplits)).map DatasetRow.rowId
  require ((∀ id ∈ forecastRowIds, id ∈ expectedRowIds) ∧ ∀ id ∈ expectedRowIds, id ∈ forecastRowIds)
    "forecasts must cover exactly the dataset rows for evaluated splits"
  alignForecasts snapshot none output.forecasts

/-! ## The report -/

/-- `_registry_metadata`. -/
def registryMetadata (record : ModelRegistryRecord) (output : ProbabilisticCandidateOutput) :
    Raises RegistryMetadataReference := do
  require (record.trainingRunId = output.trainingRunId)
    "registry record training_run_id does not match forecasts"
  require (record.trainingRunHash = output.trainingRunHash)
    "registry record training_run_hash does not match forecasts"
  require (record.datasetSnapshotId = output.datasetSnapshotId)
    "registry record dataset_snapshot_id does not match forecasts"
  require (record.datasetHash = output.datasetHash)
    "registry record dataset_hash does not match forecasts"
  require (record.currentState = .candidate)
    "S7-004 validation expects registry record state=candidate"
  require (record.sourceModelVersionId = some output.modelVersionId)
    "registry source_model_version_id does not match forecasts"
  require (record.sourceModelVersionHash = some output.modelVersionHash)
    "registry source_model_version_hash does not match forecasts"
  .ok { registryRecordId := record.registryRecordId,
        registryRecordHash := record.registryRecordHash, modelVersionId := record.modelVersionId,
        sourceModelVersionId := output.modelVersionId,
        sourceModelVersionHash := output.modelVersionHash,
        currentState := record.currentState.value }

/-- The metadata of the record, when one is given. -/
def suppliedMetadata (record : Option ModelRegistryRecord) (output : ProbabilisticCandidateOutput) :
    Raises (Option RegistryMetadataReference) :=
  match record with
  | none => .ok none
  | some record => do
      let metadata ← registryMetadata record output
      .ok (some metadata)

/-- `build_model_validation_report`. -/
def buildModelValidationReport [StrLower] [FloatMetrics] (files : EvidenceFiles)
    (snapshot : DatasetSnapshot) (output : ProbabilisticCandidateOutput)
    (evidence : BaselineEvidenceReference) (record : Option ModelRegistryRecord) :
    Raises ModelValidationReport := do
  validateBaselineEvidencePaths files evidence
  let pairs ← validateForecastAlignment snapshot output
  let train := trainRows snapshot.rows
  require (train ≠ []) "train split rows are required for train-prior baseline"
  let candidateMetrics ← metricsForForecasts pairs
  let priorProbabilities := trainPriorProbabilities train
  -- the prior quantiles are computed and then left out of the report
  let _ ← trainPriorQuantiles train
  let baselineMetrics ← metricsForPrior (pairs.map Prod.snd) priorProbabilities
  let ablationMetrics ← metricsForPrior (pairs.map Prod.snd) priorProbabilities
  let coverage ← quantileCoverage pairs
  let uncertainty ← uncertaintySummary output.forecasts
  let baseline := trainPriorComparison candidateMetrics baselineMetrics
  let ablation := sequenceAblation candidateMetrics ablationMetrics
  let metadata ← suppliedMetadata record output
  ModelValidationReport.stamping.construct
    { reportId := "", reportHash := "", requirementIds := requirementIds,
      datasetSnapshotId := snapshot.datasetSnapshotId, datasetHash := snapshot.datasetHash,
      trainingRunId := output.trainingRunId, trainingRunHash := output.trainingRunHash,
      modelVersionId := output.modelVersionId, modelVersionHash := output.modelVersionHash,
      forecastOutputId := output.outputId, forecastOutputHash := output.outputHash,
      evaluatedSplits := firstOccurrences (output.forecasts.map Forecast.split),
      evaluatedForecastIds := output.forecastIds, candidateMetrics := candidateMetrics,
      quantileCoverage := coverage, uncertaintySummary := uncertainty,
      trainPriorBaseline := baseline, sequenceAblation := ablation, baselineEvidence := evidence,
      registryMetadata := metadata, recommendation := .continueResearch,
      reasons := recommendationReasons baseline ablation metadata,
      caveats := recommendationCaveats }

end Report

end TaModel.Validation
