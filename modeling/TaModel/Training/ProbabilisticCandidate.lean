import TaModel.Contracts.CanonicalJson
import TaModel.Contracts.DecimalRange
import TaModel.Library.Disclosure
import TaModel.Library.Grouping
import TaModel.Training.Runner

/-!
# The probabilistic candidate

`train_probabilistic_candidate` of `training/probabilistic_candidate.py`: the train labels are
grouped by the sign of the feature sequence that led to their row, a distribution is fitted to each
group and to all of them, and every evaluated row is given the distribution of its own group.
-/

set_option autoImplicit false

namespace TaModel.Training

open Contracts Datasets Library

/-- `_CANDIDATE_NAME`. -/
def candidateName : String := "s7-002-sequence-conditioned-candidate-v1"

/-- `_BANNED_FEATURE_NAMES`. -/
def bannedFeatureNames : List String := ["label", "label_value", "future_return", "target"]

/-- `_SEQUENCE_FEATURE_NAME`. -/
def sequenceFeatureName : String := "one_bar_return"

/-- `_SEQUENCE_LOOKBACK`. -/
def sequenceLookback : Nat := 2

inductive SequenceBucket where
  | nonNegative | negative
deriving DecidableEq

def SequenceBucket.value : SequenceBucket → String
  | .nonNegative => "sequence_non_negative"
  | .negative => "sequence_negative"

/-- `_DistributionStats`. -/
structure DistributionStats where
  probabilities : StringDict Decimal
  quantiles : List ForecastQuantile
  uncertainty : NonNegativeDecimal
  rowCount : Nat

/-- `_FittedSequenceCandidate`; the order of `stats_by_bucket` is read by nobody. -/
structure FittedSequenceCandidate where
  globalStats : DistributionStats
  statsByBucket : List (SequenceBucket × DistributionStats)

/-! ## Distributions -/

theorem decimalSqrt_nonneg (q : Decimal) : 0 ≤ decimalSqrt q := by
  simp only [decimalSqrt]
  split
  · exact le_refl 0
  · refine mul_nonneg ?_ (zpow_nonneg (by norm_num) _)
    positivity

/-- `_nearest_quantile`: `ROUND_HALF_UP` of the index. -/
def nearestQuantile (labels : List Decimal) (level : Decimal) : Raises Decimal :=
  let ordered := labels.insertionSort (· ≤ ·)
  let index := ⌊rounded ((ordered.length - 1 : Nat) * level) + 1 / 2⌋₊
  match ordered[index]? with
  | some value => .ok value
  | none => .error "tuple index out of range"

/-- The levels of the quantiles. -/
def quantileLevels : List {q : Decimal // 0 < q ∧ q < 1} :=
  [⟨1 / 10, by decide +kernel⟩, ⟨1 / 2, Decimal.half_is_level⟩, ⟨9 / 10, by decide +kernel⟩]

/-- `(label - mean) * (label - mean)`. -/
def squaredDeviation (mean label : Decimal) : Raises Decimal := do
  let deviation ← finalized (label - mean)
  finalized (deviation * deviation)

/-- `_distribution_stats`. -/
def distributionStats (labels : List Decimal) : Raises DistributionStats := do
  require (labels ≠ []) "at least one fitted label is required"
  let count : Decimal := labels.length
  let nonNegativeProbability :=
    rounded ((labels.countP fun label => decide (0 ≤ label) : Nat) / count)
  let negativeProbability := rounded (1 - nonNegativeProbability)
  let total ← contextSum labels
  let mean ← finalized (total / count)
  let squares ← labels.mapM (squaredDeviation mean)
  let squareTotal ← contextSum squares
  let variance ← finalized (squareTotal / count)
  let quantiles ← quantileLevels.mapM fun level => do
    let value ← nearestQuantile labels level.val
    return (⟨level, value⟩ : ForecastQuantile)
  return { probabilities := ⟨[("negative", negativeProbability),
             ("non_negative", nonNegativeProbability)], by simp⟩,
           quantiles := quantiles,
           uncertainty := ⟨decimalSqrt variance, decimalSqrt_nonneg variance⟩,
           rowCount := labels.length }

section Training

variable [Sha256]

/-! ## Feature sequences -/

/-- The test of the rows that `_sequence_values` looks back on. -/
def isEligible (row candidate : DatasetRow) : Bool :=
  decide (candidate.instrumentId = row.instrumentId) && decide (candidate.venueId = row.venueId) &&
    decide (candidate.featureTs ≤ row.featureTs)

/-- The sequence feature of one row. -/
def sequenceValue (row : DatasetRow) : Raises Decimal :=
  match row.featureValues.get sequenceFeatureName with
  | some (some value) => .ok value
  | some none => .error "sequence feature must be Decimal"
  | none => .error "KeyError: 'one_bar_return'"

/-- `_sequence_values`: the last rows of the instrument at the venue up to the row. -/
def sequenceValues (row : DatasetRow) (rows : List DatasetRow) : Raises (List Decimal) :=
  let eligibleRows := rows.filter (isEligible row)
  (eligibleRows.drop (eligibleRows.length - sequenceLookback)).mapM sequenceValue

/-- `_sequence_bucket`. -/
def sequenceBucket (row : DatasetRow) (rows : List DatasetRow) : Raises SequenceBucket := do
  let values ← sequenceValues row rows
  let score ← contextSum values
  return if 0 ≤ score then .nonNegative else .negative

/-- `_reject_label_like_features`. -/
def rejectLabelLikeFeatures [StrLower] (rows : List DatasetRow) : Raises Unit :=
  rows.forM fun row =>
    require (∀ entry ∈ row.featureValues.entries,
        StrLower.lower (strip entry.1) ∉ bannedFeatureNames)
      "label-like feature names are not allowed"

/-- `_validate_sequence_feature`. -/
def validateSequenceFeature (rows : List DatasetRow) : Raises Unit :=
  rows.forM fun row =>
    match row.featureValues.get sequenceFeatureName with
    | some (some _) => .ok ()
    | _ => .error "sequence feature is required and must be Decimal: one_bar_return"

/-! ## Fitting and scoring -/

/-- The rows with `row.split is DatasetSplit.TRAIN`. -/
def trainRows (rows : List DatasetRow) : List DatasetRow :=
  rows.filter fun row => decide (row.split = .train)

/-- `_fit_sequence_candidate`. -/
def fitSequenceCandidate (rows train : List DatasetRow) : Raises FittedSequenceCandidate := do
  require (train ≠ []) "at least one train row is required"
  let labelled ← train.mapM fun row => do
    let bucket ← sequenceBucket row rows
    return (bucket, row.labelValue)
  let globalStats ← distributionStats (train.map DatasetRow.labelValue)
  let statsByBucket ← (grouped labelled).mapM fun group => do
    let stats ← distributionStats group.2
    return (group.1, stats)
  return ⟨globalStats, statsByBucket⟩

/-- `_score_row`. -/
def scoreRow (row : DatasetRow) (snapshot : DatasetSnapshot) (trainingRun : TrainingRunResult)
    (modelVersionId modelVersionHash : String) (candidate : FittedSequenceCandidate) :
    Raises Forecast := do
  let bucket ← sequenceBucket row snapshot.rows
  let stats := (candidate.statsByBucket.lookup bucket).getD candidate.globalStats
  let values ← sequenceValues row snapshot.rows
  let draft : Forecast :=
    { forecastId := "", datasetSnapshotId := snapshot.datasetSnapshotId,
      datasetHash := snapshot.datasetHash, datasetRowId := row.rowId,
      featureVectorId := row.featureVectorId,
      featureInputSnapshotId := row.featureInputSnapshotId, featureVersion := row.featureVersion,
      sourceFeatureSnapshotIds := row.sourceFeatureSnapshotIds.map Subtype.val,
      instrumentId := row.instrumentId, venueId := row.venueId, featureTs := row.featureTs,
      labelRuleId := row.labelRuleId, split := row.split,
      trainingRunId := trainingRun.trainingRunId, trainingRunHash := trainingRun.trainingRunHash,
      modelVersionId := modelVersionId, modelVersionHash := modelVersionHash,
      probabilities := stats.probabilities, quantiles := stats.quantiles,
      uncertainty := stats.uncertainty, calibrationStatus := .sequenceConditionedTrainOnly,
      calibrationMetadata :=
        ⟨[ ("candidate_name", candidateName), ("condition_bucket", bucket.value),
           ("fit_split", DatasetSplit.train.value),
           ("fit_source", "sequence_conditioned_train_labels_only"),
           ("sequence_feature", sequenceFeatureName),
           ("sequence_lookback", toString sequenceLookback),
           ("sequence_values", ",".intercalate (values.map fun value =>
             String.ofList (decimalText value))),
           ("train_bucket_row_count", toString stats.rowCount),
           ("train_global_row_count", toString candidate.globalStats.rowCount) ],
          by simp⟩ }
  let forecast := { draft with forecastId := draft.buildId }
  forecast.validate
  return forecast

/-- `_validate_training_run_lineage`. -/
def validateTrainingRunLineage (snapshot : DatasetSnapshot) (trainingRun : TrainingRunResult) :
    Raises Unit := do
  require (trainingRun.datasetSnapshotId = snapshot.datasetSnapshotId)
    "training_run dataset_snapshot_id must match snapshot"
  require (trainingRun.datasetHash = snapshot.datasetHash)
    "training_run dataset_hash must match snapshot"

/-- `evaluation_splits or training_run.training_config.evaluation_splits`. -/
def evaluatedSplits (evaluationSplits : Option (List DatasetSplit))
    (trainingRun : TrainingRunResult) : List DatasetSplit :=
  match evaluationSplits with
  | some (split :: splits) => split :: splits
  | _ => trainingRun.trainingConfig.evaluationSplits

/-- `train_probabilistic_candidate`. -/
def trainProbabilisticCandidate [StrLower] (snapshot : DatasetSnapshot)
    (trainingRun : TrainingRunResult) (evaluationSplits : Option (List DatasetSplit)) :
    Raises ProbabilisticCandidateOutput := do
  let _ ← validatePrerequisites snapshot trainingRun.trainingConfig trainingRun.codeCommit
  validateTrainingRunLineage snapshot trainingRun
  let splits := evaluatedSplits evaluationSplits trainingRun
  require (splits ≠ []) "at least one evaluation split is required"
  require (DatasetSplit.train ∉ splits) "probabilistic forecasts must be out-of-sample"
  require splits.Nodup "evaluation_splits must be unique"
  rejectLabelLikeFeatures snapshot.rows
  validateSequenceFeature snapshot.rows
  let candidate ← fitSequenceCandidate snapshot.rows (trainRows snapshot.rows)
  let modelVersionHash := Forecast.buildModelVersionHash trainingRun.trainingRunId
    trainingRun.trainingRunHash candidateName
  let modelVersionId := Forecast.buildModelVersionId modelVersionHash
  let forecasts ← (snapshot.rows.filter fun row => decide (row.split ∈ splits)).mapM fun row =>
    scoreRow row snapshot trainingRun modelVersionId modelVersionHash candidate
  require (forecasts ≠ []) "evaluation split has no rows"
  ProbabilisticCandidateOutput.stamping.construct
    { outputId := "", outputHash := "", datasetSnapshotId := snapshot.datasetSnapshotId,
      datasetHash := snapshot.datasetHash, trainingRunId := trainingRun.trainingRunId,
      trainingRunHash := trainingRun.trainingRunHash, modelVersionId := modelVersionId,
      modelVersionHash := modelVersionHash,
      forecastIds := forecasts.map Forecast.forecastId, forecasts := forecasts }

end Training

end TaModel.Training
