import TaModel.Datasets.LabelFrame
import TaModel.Library.StateFold
import TaModel.Training.Moments

/-!
# The labels behind a forecast

`predicts_of_train`: the probabilities, quantiles and uncertainty of a forecast are the distribution
of the labels of `fittedRows`, the train rows in the bucket of the forecast's row, or all train rows
when that bucket has none. Nothing else of the snapshot's labels is read.
-/

set_option autoImplicit false

namespace TaModel.Training

open Contracts Datasets Library

section Runs

variable [Sha256]

/-- The train rows of a bucket. -/
def bucketRows (bucket : SequenceBucket) (rows : List DatasetRow) : List DatasetRow :=
  (trainRows rows).filter fun row => decide (sequenceBucket row rows = .ok bucket)

/-- The train rows that the distribution of a bucket is fitted on. -/
def fittedRows (bucket : SequenceBucket) (rows : List DatasetRow) : List DatasetRow :=
  if bucketRows bucket rows = [] then trainRows rows else bucketRows bucket rows

omit [Sha256] in
/-- A forecast with the given distribution. -/
structure Predicts (stats : DistributionStats) (f : Forecast) : Prop where
  probabilities : f.probabilities = stats.probabilities
  quantiles : f.quantiles = stats.quantiles
  uncertainty : f.uncertainty = stats.uncertainty

/-! ## Fitting -/

/-- The values collected for a bucket are the labels of its train rows. -/
theorem valuesOf_labelled {rows train : List DatasetRow}
    {labelled : List (SequenceBucket × Decimal)}
    (h : List.Forall₂ (fun row entry => sequenceBucket row rows = .ok entry.1 ∧
      entry.2 = row.labelValue) train labelled) (bucket : SequenceBucket) :
    valuesOf bucket labelled =
      (train.filter fun row => decide (sequenceBucket row rows = .ok bucket)).map
        DatasetRow.labelValue := by
  induction h with
  | nil => rfl
  | @cons row entry train labelled hhead _ ih =>
      obtain ⟨hbucket, hlabel⟩ := hhead
      simp only [valuesOf] at ih ⊢
      by_cases heq : entry.1 = bucket
      · have hrow : sequenceBucket row rows = .ok bucket := heq ▸ hbucket
        rw [List.filter_cons_of_pos (by simpa using heq),
          List.filter_cons_of_pos (by simpa using hrow), List.map_cons, List.map_cons, hlabel, ih]
      · have hrow : ¬ sequenceBucket row rows = .ok bucket := by
          rw [hbucket]
          exact fun h => heq (Except.ok.inj h)
        rw [List.filter_cons_of_neg (by simpa using heq),
          List.filter_cons_of_neg (by simpa using hrow), ih]

/-- The fitted candidate holds, for every bucket, the distribution of its fitted rows. -/
theorem distributionStats_of_fit {rows : List DatasetRow} {candidate : FittedSequenceCandidate}
    (h : fitSequenceCandidate rows (trainRows rows) = .ok candidate) (bucket : SequenceBucket) :
    distributionStats ((fittedRows bucket rows).map DatasetRow.labelValue) =
      .ok ((candidate.statsByBucket.lookup bucket).getD candidate.globalStats) := by
  simp only [fitSequenceCandidate, bind_eq_ok_iff, require_eq_ok_iff] at h
  obtain ⟨-, -, labelled, hlabelled, globalStats, hglobal, statsByBucket, hstats, hcandidate⟩ := h
  obtain rfl : (⟨globalStats, statsByBucket⟩ : FittedSequenceCandidate) = candidate :=
    Except.ok.inj hcandidate
  have hlabels : List.Forall₂ (fun row entry => sequenceBucket row rows = .ok entry.1 ∧
      entry.2 = row.labelValue) (trainRows rows) labelled := by
    refine ((mapM_eq_ok_iff _ _ _).mp hlabelled).imp fun row entry hentry => ?_
    obtain ⟨b, hb, hpair⟩ := (bind_eq_ok_iff _ _ _).mp hentry
    cases hpair
    exact ⟨hb, rfl⟩
  have hvalues := valuesOf_labelled hlabels bucket
  have hfitted : List.Forall₂ (fun group result => result.1 = group.1 ∧
      distributionStats group.2 = .ok result.2) (grouped labelled) statsByBucket := by
    refine ((mapM_eq_ok_iff _ _ _).mp hstats).imp fun group result hresult => ?_
    obtain ⟨stats, hfit, hpair⟩ := (bind_eq_ok_iff _ _ _).mp hresult
    cases hpair
    exact ⟨rfl, hfit⟩
  have hgroups := lookup_of_forall₂ (R := fun labels stats => distributionStats labels = .ok stats)
    hfitted bucket
  have hlookup := lookup_grouped bucket labelled
  rw [hvalues] at hlookup
  by_cases hnone : bucketRows bucket rows = []
  · -- no train row in the bucket: it has no group and falls back to all of them
    rw [if_pos (by simpa [bucketRows] using hnone)] at hlookup
    rw [hgroups.1 hlookup, fittedRows, if_pos hnone]
    exact hglobal
  · rw [if_neg (by simpa [bucketRows] using hnone)] at hlookup
    obtain ⟨stats, hfound, hfit⟩ := hgroups.2 _ hlookup
    rw [hfound, fittedRows, if_neg hnone]
    exact hfit

/-! ## Scoring -/

/-- What a scored row is given. -/
theorem predicts_of_scoreRow {row : DatasetRow} {snapshot : DatasetSnapshot}
    {trainingRun : TrainingRunResult} {versionId versionHash : String}
    {candidate : FittedSequenceCandidate} {f : Forecast}
    (h : scoreRow row snapshot trainingRun versionId versionHash candidate = .ok f) :
    f.datasetRowId = row.rowId ∧ ∃ bucket, sequenceBucket row snapshot.rows = .ok bucket ∧
      Predicts ((candidate.statsByBucket.lookup bucket).getD candidate.globalStats) f := by
  simp only [scoreRow, bind_eq_ok_iff] at h
  obtain ⟨bucket, hbucket, values, -, -, -, hf⟩ := h
  cases hf
  exact ⟨rfl, bucket, hbucket, rfl, rfl, rfl⟩

variable [StrLower]

/-- A training run on a snapshot with distinct, chronological rows; the forecast of a row has the
distribution of the rows it is fitted on. -/
theorem predicts_of_train {snapshot : DatasetSnapshot} {trainingRun : TrainingRunResult}
    {splits : Option (List DatasetSplit)} {output : ProbabilisticCandidateOutput}
    (h : trainProbabilisticCandidate snapshot trainingRun splits = .ok output) :
    (snapshot.rows.Pairwise fun row row' => row.featureTs ≤ row'.featureTs) ∧
      ∀ row ∈ snapshot.rows, ∀ f ∈ output.forecasts, f.datasetRowId = row.rowId →
        ∃ bucket stats, sequenceBucket row snapshot.rows = .ok bucket ∧
          distributionStats ((fittedRows bucket snapshot.rows).map DatasetRow.labelValue) =
            .ok stats ∧ Predicts stats f := by
  simp only [trainProbabilisticCandidate, bind_eq_ok_iff, require_eq_ok_iff] at h
  obtain ⟨_, hprerequisites, _, -, _, -, _, -, _, -, _, -, _, -, candidate, hfit, forecasts,
    hforecasts, _, -, hconstruct⟩ := h
  obtain ⟨hnodup, hordered⟩ := rows_of_validatePrerequisites hprerequisites
  obtain ⟨-, rfl⟩ := (ProbabilisticCandidateOutput.stamping.construct_eq_ok_iff _ _).mp hconstruct
  refine ⟨hordered, fun row hrow f hf hid => ?_⟩
  obtain ⟨scored, hscored, hscore⟩ :=
    exists_of_mem_right ((mapM_eq_ok_iff _ _ _).mp hforecasts) hf
  obtain ⟨hscoredId, bucket, hbucket, hpredicts⟩ := predicts_of_scoreRow hscore
  -- row ids are distinct, so the row that was scored is the one asked for
  obtain rfl : scored = row := by
    refine List.inj_on_of_nodup_map hnodup (List.mem_of_mem_filter hscored) hrow ?_
    exact hscoredId.symm.trans hid
  exact ⟨bucket, _, hbucket, distributionStats_of_fit hfit bucket, hpredicts⟩

end Runs

/-! ## One train row and one validation row -/

section Samples

theorem nearestQuantile_singleton (x level : Decimal) : nearestQuantile [x] level = .ok x := by
  have hindex : ⌊rounded (((1 - 1 : Nat) : Decimal) * level) + 1 / 2⌋₊ = 0 := by
    rw [Nat.sub_self, Nat.cast_zero, zero_mul, rounded, if_pos rfl, zero_add]
    exact Nat.floor_eq_zero.mpr (by norm_num)
  have hordered : [x].insertionSort (· ≤ ·) = [x] := rfl
  simp only [nearestQuantile, hordered, List.length_singleton, hindex]
  rfl

/-- The distribution of a single label. -/
theorem distributionStats_singleton {x : Decimal} (hx : Moderate x) :
    ∃ stats, distributionStats [x] = .ok stats ∧
      stats.quantiles = quantileLevels.map (fun level => ⟨level, x⟩) ∧
      stats.probabilities.entries =
        [("negative", if 0 ≤ x then 0 else 1), ("non_negative", if 0 ≤ x then 1 else 0)] := by
  have hquantiles : (quantileLevels.mapM fun level => do
      let value ← nearestQuantile [x] level.val
      return (⟨level, value⟩ : ForecastQuantile)) =
        .ok (quantileLevels.map fun level => ⟨level, x⟩) := by
    simp only [nearestQuantile_singleton, ok_bind]
    rfl
  have hone : rounded 1 = 1 := by decide +kernel
  have hzero : rounded 0 = 0 := if_pos rfl
  obtain ⟨total, mean, squares, squareTotal, variance, htotal, hmean, hsquares, hsquareTotal,
    hvariance⟩ := @exists_moments [x] (by simpa using hx) [x].length
  simp only [distributionStats, hquantiles, require_of (List.cons_ne_nil x []), ok_bind, htotal,
    hmean, hsquares, hsquareTotal, hvariance]
  refine ⟨_, rfl, rfl, ?_⟩
  by_cases hx : 0 ≤ x
  · simp [hx, hone, hzero]
  · simp [hx, hone, hzero]

variable [Sha256]

def sampleRule (horizon : Nat) (hpos : 0 < horizon) : LabelRule where
  labelRuleId := buildLabelRuleId "value" horizon .futureValue
  name := "value"
  horizonSeconds := horizon
  method := .futureValue
  horizon_pos := hpos
  id_is_deterministic := rfl

theorem label_after_sample (rule : LabelRule) (seconds : Nat) :
    (⟨seconds * 1000000, 0⟩ : AwareDatetime) < rule.labelTs ⟨seconds * 1000000, 0⟩ := by
  have hpos := rule.horizon_pos
  simp only [AwareDatetime.lt_def, LabelRule.labelTs]
  omega

theorem sampleIds_canonical (rule : LabelRule) (vectorId : CanonicalId) :
    ∀ id ∈ [vectorId.val, "I", "E", "F", rule.labelRuleId, vectorId.val],
      isCanonicalId id = true := by
  have hids : isCanonicalId "I" = true ∧ isCanonicalId "E" = true ∧ isCanonicalId "F" = true := by
    decide
  simp only [List.forall_mem_cons, List.not_mem_nil, false_implies, implies_true, and_true]
  exact ⟨vectorId.property, hids.1, hids.2.1, hids.2.2, rule.id_canonical, vectorId.property⟩

omit [Sha256] in
/-- A one-bar return of one. -/
def risenByOne : StringDict FeatureValue := ⟨[("one_bar_return", some 1)], List.nodup_singleton _⟩

/-- A row at the given second with a return of one; its observation is named as its vector. -/
def sampleRow (rule : LabelRule) (vectorId : CanonicalId) (seconds : Nat) (split : DatasetSplit)
    (label : Decimal) : DatasetRow where
  rowId := buildDatasetRowId vectorId.val "I" "E" ⟨seconds * 1000000, 0⟩ "v1" risenByOne "F" split
    rule.labelRuleId label (rule.labelTs ⟨seconds * 1000000, 0⟩) vectorId.val []
  featureVectorId := vectorId.val
  instrumentId := "I"
  venueId := "E"
  featureTs := ⟨seconds * 1000000, 0⟩
  featureVersion := "v1"
  featureValues := risenByOne
  featureInputSnapshotId := "F"
  split := split
  labelRuleId := rule.labelRuleId
  labelValue := label
  labelTs := rule.labelTs ⟨seconds * 1000000, 0⟩
  labelObservationId := vectorId.val
  sourceFeatureSnapshotIds := []
  ids_canonical := sampleIds_canonical rule vectorId
  version_nonempty := v1_nonempty
  values_nonempty := List.cons_ne_nil _ _
  label_after_feature := label_after_sample rule seconds
  id_is_deterministic := rfl

omit [Sha256] in
theorem v0_canonical : isCanonicalId "V0" = true := by decide

omit [Sha256] in
theorem v1_canonical : isCanonicalId "V1" = true := by decide

/-- A train row at the epoch. -/
def trainRow (rule : LabelRule) (label : Decimal) : DatasetRow :=
  sampleRow rule ⟨"V0", v0_canonical⟩ 0 .train label

/-- A validation row ten seconds later. -/
def validationRow (rule : LabelRule) (label : Decimal) : DatasetRow :=
  sampleRow rule ⟨"V1", v1_canonical⟩ 10 .validation label

def twoRows (rule : LabelRule) (x y : Decimal) : DatasetSnapshot :=
  snapshotOfRows [trainRow rule x, validationRow rule y] tenSecondWindows rule []

theorem twoRows_valid (rule : LabelRule) (x y : Decimal) :
    (twoRows rule x y).validate = .ok () := by
  simp only [DatasetSnapshot.validate, check_bind_eq_ok_iff, require_eq_ok_iff, forM_eq_ok_iff]
  refine ⟨isHexDigest_hash _, rfl, rfl, rfl, ?_, fun _ _ => rfl, rfl, rfl⟩
  intro row hrow
  rcases List.mem_cons.mp hrow with rfl | hrow
  · rfl
  · rw [List.mem_singleton.mp hrow]
    rfl

/-- Validation rows are evaluated. -/
def validationConfig : TrainingConfig where
  trainingConfigId := buildTrainingConfigId (buildTrainingConfigHash "config" .referenceMeanLabel
    "s7-001-training-runner-v1" .train [.validation] [] 0)
  trainingConfigHash := buildTrainingConfigHash "config" .referenceMeanLabel
    "s7-001-training-runner-v1" .train [.validation] [] 0
  name := "config"
  trainerKind := .referenceMeanLabel
  runnerVersion := "s7-001-training-runner-v1"
  trainSplit := .train
  evaluationSplits := [.validation]
  parameters := []
  seed := 0
  train_is_train := rfl
  evaluation_nonempty := List.cons_ne_nil _ _
  evaluation_unique := List.nodup_singleton _
  train_not_evaluated := by simp
  hash_is_deterministic := rfl
  id_is_deterministic := rfl

variable [StrLower] {rule : LabelRule} {x y : Decimal}

theorem validatePrerequisites_twoRows
    (hids : (trainRow rule x).rowId ≠ (validationRow rule y).rowId)
    (hcommit : validateCodeCommit "abc1234" = .ok "abc1234") :
    validatePrerequisites (twoRows rule x y) validationConfig "abc1234" = .ok "abc1234" := by
  simp only [validatePrerequisites, bind_eq_ok_iff, require_eq_ok_iff]
  refine ⟨_, hcommit, (), rfl, (), rfl, (), List.cons_ne_nil _ _, (), ⟨trainRow rule x, ?_, rfl⟩,
    (), ?_, rfl⟩
  · exact List.mem_cons_self
  · have hrows : (twoRows rule x y).rows = [trainRow rule x, validationRow rule y] := rfl
    simp only [hrows, validateRowOrder, validateRowOrderFrom, check_bind_eq_ok_iff,
      require_eq_ok_iff, and_true]
    refine ⟨List.not_mem_nil, ?_, (trainRow rule x).label_after_feature, ?_, ?_,
      (validationRow rule y).label_after_feature⟩
    · rintro _ ⟨⟩
    · simpa using hids.symm
    · rintro t ⟨⟩
      simp [AwareDatetime.le_def, trainRow, validationRow, sampleRow]

omit [Sha256] [StrLower] in
/-- The mean of one moderate amount is hardly larger. -/
theorem mean_singleton {x : Decimal} {k : ℤ} (hlow : leastPlace ≤ k) (hhigh : k + 30 ≤ maxExponent)
    (hx : |x| ≤ 10 ^ k) : ∃ m, mean [x] = .ok m ∧ |m| ≤ 10 ^ (k + 29) := by
  obtain ⟨total, m, htotal, hm, hbound⟩ := @exists_mean [x] k hlow hhigh (by simpa using hx) 1
  refine ⟨m, ?_, hbound⟩
  rw [mean, require_of (List.cons_ne_nil x []), ok_bind, htotal, ok_bind]
  exact hm

omit [StrLower] in
theorem buildMetrics_twoRows (rule : LabelRule) (x : Decimal) {y labelMean : Decimal}
    (hy : Moderate y) (hmean : |labelMean| ≤ 10 ^ (moderateExponent + 29)) :
    ∃ error, buildMetrics (twoRows rule x y) validationConfig labelMean =
      .ok [⟨"train_label_mean", .train, labelMean⟩, ⟨"train_row_count", .train, 1⟩,
        ⟨"mean_absolute_error_against_train_mean", .validation, error⟩,
        ⟨"evaluation_row_count", .validation, 1⟩] := by
  have hrows : (twoRows rule x y).rows.filter
      (fun row => decide (row.split = DatasetSplit.validation)) = [validationRow rule y] := rfl
  have hlabel : |y| ≤ 10 ^ (moderateExponent + 29) := hy.trans (ten_zpow_le (by decide))
  obtain ⟨difference, hdifference, hdifference_le⟩ :=
    finalized_of_abs_le (by decide) (by decide) (abs_sub_le_next hlabel hmean)
  obtain ⟨error, herror, -⟩ := @mean_singleton |difference| (moderateExponent + 29 + 1)
    (by decide) (by decide) (by rwa [abs_abs])
  refine ⟨error, ?_⟩
  have herrors : [validationRow rule y].mapM (fun row => do
      let difference ← finalized (row.labelValue - labelMean)
      return |difference|) = .ok [|difference|] := by
    show (((finalized (y - labelMean)) >>= _) >>= _) = _
    rw [hdifference]
    rfl
  have hevaluated : evaluationMetrics (twoRows rule x y) labelMean .validation =
      .ok [⟨"mean_absolute_error_against_train_mean", .validation, error⟩,
        ⟨"evaluation_row_count", .validation, 1⟩] := by
    simp only [evaluationMetrics, hrows, require_of (List.cons_ne_nil _ _), ok_bind, herrors,
      herror]
    rfl
  show ([DatasetSplit.validation].mapM (evaluationMetrics (twoRows rule x y) labelMean) >>= _) = _
  rw [List.mapM_cons, hevaluated]
  rfl

/-- The runner succeeds on the two rows. -/
theorem exists_runTraining (hx : Moderate x) (hy : Moderate y)
    (hids : (trainRow rule x).rowId ≠ (validationRow rule y).rowId)
    (hcommit : validateCodeCommit "abc1234" = .ok "abc1234") :
    ∃ run, runTraining (twoRows rule x y) validationConfig "abc1234" = .ok run ∧
      run.datasetSnapshotId = (twoRows rule x y).datasetSnapshotId ∧
      run.datasetHash = (twoRows rule x y).datasetHash ∧
      run.trainingConfig = validationConfig ∧ run.codeCommit = "abc1234" ∧
      isHexDigest run.trainingRunHash = true ∧
      run.trainingRunId = Forecast.buildTrainingRunId run.trainingRunHash := by
  have hrows : (twoRows rule x y).rows.filter
      (fun row => decide (row.split = validationConfig.trainSplit)) = [trainRow rule x] := rfl
  obtain ⟨labelMean, hmean, hmean_le⟩ := mean_singleton (by decide) (by decide) hx
  obtain ⟨error, hmetrics⟩ := buildMetrics_twoRows rule x hy hmean_le
  let draft : TrainingRunResult :=
    { trainingRunId := "", trainingRunHash := "",
      datasetSnapshotId := (twoRows rule x y).datasetSnapshotId,
      datasetHash := (twoRows rule x y).datasetHash, trainingConfig := validationConfig,
      codeCommit := "abc1234", seed := 0, status := .runnerEvidenceOnly,
      metrics := [⟨"train_label_mean", .train, labelMean⟩, ⟨"train_row_count", .train, 1⟩,
        ⟨"mean_absolute_error_against_train_mean", .validation, error⟩,
        ⟨"evaluation_row_count", .validation, 1⟩],
      artifacts := buildArtifacts (twoRows rule x y) validationConfig labelMean }
  have hfields : draft.validateFields = .ok () := by
    simp only [TrainingRunResult.validateFields, bind_eq_ok_iff, require_eq_ok_iff]
    refine ⟨(), isHexDigest_hash _, _, hcommit, (), rfl, (), rfl, (), List.cons_ne_nil _ _, (),
      List.cons_ne_nil _ _, (), ?_, List.nodup_singleton _⟩
    simp [draft]
  refine ⟨TrainingRunResult.stamping.sealed draft, ?_, rfl, rfl, rfl, rfl, isHexDigest_hash _, rfl⟩
  simp only [runTraining, bind_eq_ok_iff]
  refine ⟨_, validatePrerequisites_twoRows hids hcommit, (), require_of trivial _, labelMean, ?_, _,
    hmetrics, ?_⟩
  · rw [hrows]
    exact hmean
  exact (TrainingRunResult.stamping.construct_eq_ok_iff draft _).mpr ⟨hfields, rfl⟩

omit [StrLower] in
/-- Both rows look back on returns of one only. -/
theorem sequences_twoRows (rule : LabelRule) (x y : Decimal) :
    sequenceBucket (trainRow rule x) (twoRows rule x y).rows = .ok .nonNegative ∧
    sequenceValues (validationRow rule y) (twoRows rule x y).rows = .ok [1, 1] := by
  have htrain : (twoRows rule x y).rows.filter (isEligible (trainRow rule x)) =
      [trainRow rule x] := by
    simp [twoRows, snapshotOfRows, isEligible, trainRow, validationRow, sampleRow,
      AwareDatetime.le_def]
  have hvalidation : (twoRows rule x y).rows.filter (isEligible (validationRow rule y)) =
      [trainRow rule x, validationRow rule y] := by
    simp [twoRows, snapshotOfRows, isEligible, trainRow, validationRow, sampleRow,
      AwareDatetime.le_def]
  constructor
  · have hvalues : sequenceValues (trainRow rule x) (twoRows rule x y).rows = .ok [1] := by
      simp only [sequenceValues, htrain]
      rfl
    have hsum : contextSum [1] = .ok 1 := by decide +kernel
    rw [sequenceBucket, hvalues, ok_bind, hsum]
    rfl
  · simp only [sequenceValues, hvalidation]
    rfl

omit [StrLower] in
/-- The train label is the only fitted one. -/
theorem fit_twoRows (rule : LabelRule) (x y : Decimal) {stats : DistributionStats}
    (hstats : distributionStats [x] = .ok stats) :
    fitSequenceCandidate (twoRows rule x y).rows (trainRows (twoRows rule x y).rows) =
      .ok ⟨stats, [(.nonNegative, stats)]⟩ := by
  have hrows : trainRows (twoRows rule x y).rows = [trainRow rule x] := rfl
  simp only [fitSequenceCandidate, bind_eq_ok_iff, require_eq_ok_iff, hrows]
  refine ⟨(), List.cons_ne_nil _ _, [(.nonNegative, x)], ?_, stats, hstats,
    [(.nonNegative, stats)], ?_, rfl⟩
  · rw [List.mapM_cons, (sequences_twoRows rule x y).1]
    rfl
  · have hgroups : grouped [(SequenceBucket.nonNegative, x)] = [(.nonNegative, [x])] := rfl
    rw [hgroups, List.mapM_cons]
    show ((distributionStats [x] >>= _) >>= _) = _
    rw [hstats]
    rfl

omit [Sha256] [StrLower] in
theorem validateProbabilities_of_single {f : Forecast} {x : Decimal}
    (h : f.probabilities.entries =
      [("negative", if 0 ≤ x then 0 else 1), ("non_negative", if 0 ≤ x then 1 else 0)]) :
    f.validateProbabilities = .ok () := by
  have hsum : decimalSum [0, 1] = 1 ∧ decimalSum [1, 0] = 1 := by decide +kernel
  simp only [Forecast.validateProbabilities, h, check_bind_eq_ok_iff, require_eq_ok_iff,
    forM_eq_ok_iff]
  by_cases hx : 0 ≤ x
  · simp [hx, hsum.1]
  · simp [hx, hsum.2]

omit [StrLower] in
/-- The validation row is given the distribution of the train label. -/
theorem scoreRow_twoRows (rule : LabelRule) (y : Decimal) (hx : Moderate x) {stats : DistributionStats}
    (hstats : distributionStats [x] = .ok stats) {run : TrainingRunResult}
    (hdigest : isHexDigest run.trainingRunHash = true)
    (hrunId : run.trainingRunId = Forecast.buildTrainingRunId run.trainingRunHash) :
    let versionHash :=
      Forecast.buildModelVersionHash run.trainingRunId run.trainingRunHash candidateName
    let versionId := Forecast.buildModelVersionId versionHash
    ∃ f, scoreRow (validationRow rule y) (twoRows rule x y) run versionId versionHash
        ⟨stats, [(.nonNegative, stats)]⟩ = .ok f ∧
      f.datasetRowId = (validationRow rule y).rowId ∧ f.probabilities = stats.probabilities ∧
      f.datasetSnapshotId = (twoRows rule x y).datasetSnapshotId ∧
      f.datasetHash = (twoRows rule x y).datasetHash ∧ f.trainingRunId = run.trainingRunId ∧
      f.trainingRunHash = run.trainingRunHash ∧ f.modelVersionId = versionId ∧
      f.modelVersionHash = versionHash := by
  intro versionHash versionId
  obtain ⟨stats', hstats', hquantiles, hprobabilities⟩ := distributionStats_singleton hx
  cases hstats.symm.trans hstats'
  have hbucket : sequenceBucket (validationRow rule y) (twoRows rule x y).rows =
      .ok .nonNegative := by
    have hsum : contextSum [1, 1] = .ok 2 := by decide +kernel
    rw [sequenceBucket, (sequences_twoRows rule x y).2, ok_bind, hsum]
    rfl
  have hlookup : (([(SequenceBucket.nonNegative, stats)].lookup .nonNegative).getD stats) = stats :=
    rfl
  have hmonotone : Forecast.validateQuantiles stats.quantiles = .ok () := by
    simp only [hquantiles, quantileLevels, List.map_cons, List.map_nil,
      Forecast.validateQuantiles, check_bind_eq_ok_iff, require_eq_ok_iff]
    norm_num
  simp only [scoreRow, hbucket, (sequences_twoRows rule x y).2, ok_bind, hlookup]
  refine ⟨_, (check_bind_eq_ok_iff _ _ _).mpr ⟨?_, rfl⟩, rfl, rfl, rfl, rfl, rfl, rfl, rfl, rfl⟩
  refine Forecast.validate_of_lineage ⟨isHexDigest_hash _, hdigest⟩
    (validateProbabilities_of_single hprobabilities) ?_ hmonotone ?_ hrunId ?_ rfl rfl rfl
  · show stats.quantiles ≠ []
    rw [hquantiles]
    exact List.cons_ne_nil _ _
  · intro h
    cases h
  · rfl

/-- Training on the two rows predicts the sign of the train label for the validation row. -/
theorem exists_forecast_twoRows (hx : Moderate x) (hy : Moderate y)
    (hids : (trainRow rule x).rowId ≠ (validationRow rule y).rowId)
    (hcommit : validateCodeCommit "abc1234" = .ok "abc1234")
    (hlower : StrLower.lower (strip "one_bar_return") ∉ bannedFeatureNames) :
    ∃ run output f, runTraining (twoRows rule x y) validationConfig "abc1234" = .ok run ∧
      trainProbabilisticCandidate (twoRows rule x y) run none = .ok output ∧
      f ∈ output.forecasts ∧ f.datasetRowId = (validationRow rule y).rowId ∧
      f.probabilities.get "non_negative" = some (if 0 ≤ x then 1 else 0) := by
  obtain ⟨run, hrun, hsnapshot, hhash, hconfig, hrunCommit, hdigest, hrunId⟩ :=
    exists_runTraining hx hy hids hcommit
  obtain ⟨stats, hstats, -, hprobabilities⟩ := distributionStats_singleton hx
  obtain ⟨f, hscore, hrow, hpredicted, hlineage⟩ :=
    scoreRow_twoRows rule y hx hstats hdigest hrunId
  have hrows : (twoRows rule x y).rows.filter
      (fun row => decide (row.split ∈ [DatasetSplit.validation])) = [validationRow rule y] := rfl
  have hall : ∀ row ∈ (twoRows rule x y).rows,
      row.featureValues.entries = [("one_bar_return", some 1)] := by
    intro row hrow
    rcases List.mem_cons.mp hrow with rfl | hrow
    · rfl
    · rw [List.mem_singleton.mp hrow]
      rfl
  let versionHash :=
    Forecast.buildModelVersionHash run.trainingRunId run.trainingRunHash candidateName
  let draft : ProbabilisticCandidateOutput :=
    { outputId := "", outputHash := "",
      datasetSnapshotId := (twoRows rule x y).datasetSnapshotId,
      datasetHash := (twoRows rule x y).datasetHash, trainingRunId := run.trainingRunId,
      trainingRunHash := run.trainingRunHash,
      modelVersionId := Forecast.buildModelVersionId versionHash, modelVersionHash := versionHash,
      forecastIds := [f.forecastId], forecasts := [f] }
  have hfields : draft.validateFields = .ok () := by
    simp only [ProbabilisticCandidateOutput.validateFields,
      ProbabilisticCandidateOutput.validateForecast, check_bind_eq_ok_iff, require_eq_ok_iff,
      forM_eq_ok_iff]
    refine ⟨⟨isHexDigest_hash _, hdigest, isHexDigest_hash _⟩,
      ⟨List.cons_ne_nil _ _, List.cons_ne_nil _ _⟩, rfl, fun forecast hforecast => ?_⟩
    rw [List.mem_singleton.mp hforecast]
    exact hlineage
  refine ⟨run, ProbabilisticCandidateOutput.stamping.sealed draft, f, hrun, ?_,
    List.mem_singleton_self f, hrow, ?_⟩
  · simp only [trainProbabilisticCandidate, bind_eq_ok_iff, require_eq_ok_iff]
    have hsplits : evaluatedSplits none run = [.validation] := by
      show run.trainingConfig.evaluationSplits = _
      rw [hconfig]
      rfl
    rw [hsplits]
    refine ⟨"abc1234", ?_, (), ?_, (), List.cons_ne_nil _ _, (), ?_, (),
      List.nodup_singleton _, (), ?_, (), ?_, _, fit_twoRows rule x y hstats, [f], ?_, (),
      List.cons_ne_nil _ _, ?_⟩
    · rw [hconfig, hrunCommit]
      exact validatePrerequisites_twoRows hids hcommit
    · simp only [validateTrainingRunLineage, check_bind_eq_ok_iff, require_eq_ok_iff]
      exact ⟨hsnapshot, hhash⟩
    · decide
    · refine (forM_eq_ok_iff _ _).mpr fun row hmem => require_of (fun entry hentry => ?_) _
      rw [hall row hmem] at hentry
      rw [List.mem_singleton.mp hentry]
      exact hlower
    · refine (forM_eq_ok_iff _ _).mpr fun row hmem => ?_
      rw [StringDict.get, hall row hmem]
      rfl
    · rw [hrows, List.mapM_cons, hscore]
      rfl
    · exact (ProbabilisticCandidateOutput.stamping.construct_eq_ok_iff draft _).mpr ⟨hfields, rfl⟩
  · rw [hpredicted]
    refine StringDict.get_of_mem ?_
    rw [hprobabilities]
    simp

end Samples

end TaModel.Training
