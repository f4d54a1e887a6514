import TaModel.Contracts.CanonicalJson
import TaModel.Training.FittedLabels

/-!
# Labels that were not yet observed

Two snapshots that agree at an instant may differ in labels observed later and in later rows. The
forecast of a row at that instant is the same on both as long as the late labels among the rows it
is fitted on are: train rows are chosen by split, not by the time of their label.
-/

set_option autoImplicit false

namespace TaModel.Training

open Contracts Datasets Library

section Runs

variable [Sha256]

/-! ## Agreement at an instant -/

/-- The same row but for its label, which is the same too when it is a train label observed at
`t`. -/
structure SameAt (t : AwareDatetime) (row row' : DatasetRow) : Prop where
  featureVectorId : row'.featureVectorId = row.featureVectorId
  instrument : row'.instrumentId = row.instrumentId
  venue : row'.venueId = row.venueId
  featureTs : row'.featureTs = row.featureTs
  version : row'.featureVersion = row.featureVersion
  values : row'.featureValues = row.featureValues
  inputSnapshot : row'.featureInputSnapshotId = row.featureInputSnapshotId
  split : row'.split = row.split
  rule : row'.labelRuleId = row.labelRuleId
  sources : row'.sourceFeatureSnapshotIds = row.sourceFeatureSnapshotIds
  label : row.split = .train → row.labelTs ≤ t ∨ row'.labelTs ≤ t →
    row'.labelValue = row.labelValue ∧ row'.labelTs = row.labelTs ∧
      row'.labelObservationId = row.labelObservationId

/-- The rows up to `t`. -/
def rowsUntil (t : AwareDatetime) (rows : List DatasetRow) : List DatasetRow :=
  rows.filter fun row => decide (row.featureTs ≤ t)

/-- The snapshots differ only in validation and test labels, in train labels observed after `t` and
in rows after `t`. -/
structure AgreeAt (t : AwareDatetime) (snapshot snapshot' : DatasetSnapshot) : Prop where
  windows : snapshot'.splitWindows = snapshot.splitWindows
  labelRule : snapshot'.labelRule = snapshot.labelRule
  sources : snapshot'.sourceFeatureSnapshotIds = snapshot.sourceFeatureSnapshotIds
  rows : List.Forall₂ (SameAt t) (rowsUntil t snapshot.rows) (rowsUntil t snapshot'.rows)

/-- The labels of the rows that were not yet observed at `t`. -/
def lateLabels (t : AwareDatetime) (rows : List DatasetRow) : List Decimal :=
  (rows.filter fun row => decide (t < row.labelTs)).map DatasetRow.labelValue

/-- The labels of the rows a bucket is fitted on that were not yet observed at `t` are the same. -/
structure SameLateLabels (t : AwareDatetime) (bucket : SequenceBucket)
    (rows rows' : List DatasetRow) : Prop where
  in_bucket : lateLabels t (bucketRows bucket rows) = lateLabels t (bucketRows bucket rows')
  overall : bucketRows bucket rows = [] →
    lateLabels t (trainRows rows) = lateLabels t (trainRows rows')

/-- No late labels at all. -/
theorem SameLateLabels.of_observed {t : AwareDatetime} {rows rows' : List DatasetRow}
    (h : ∀ row ∈ trainRows rows, row.labelTs ≤ t) (h' : ∀ row ∈ trainRows rows', row.labelTs ≤ t)
    (bucket : SequenceBucket) : SameLateLabels t bucket rows rows' := by
  have hnone : ∀ {train rows : List DatasetRow}, (∀ row ∈ train, row.labelTs ≤ t) →
      (∀ row ∈ rows, row ∈ train) → lateLabels t rows = [] := by
    intro train rows htrain hsub
    simp only [lateLabels, List.map_eq_nil_iff, List.filter_eq_nil_iff, decide_eq_true_eq]
    intro row hrow
    rw [AwareDatetime.not_lt_iff]
    exact htrain row (hsub row hrow)
  constructor
  · have hbucket : lateLabels t (bucketRows bucket rows) = [] :=
      hnone h fun _ => List.mem_of_mem_filter
    have hbucket' : lateLabels t (bucketRows bucket rows') = [] :=
      hnone h' fun _ => List.mem_of_mem_filter
    rw [hbucket, hbucket']
  · intro _
    rw [hnone h fun _ => id, hnone h' fun _ => id]

/-! ## Feature sequences -/

section Agreement

variable {t : AwareDatetime} {rows rows' : List DatasetRow}

/-- A row's sequence looks at no row after it. -/
theorem filter_isEligible_rowsUntil {row : DatasetRow} (hrow : row.featureTs ≤ t) :
    (rowsUntil t rows).filter (isEligible row) = rows.filter (isEligible row) := by
  rw [rowsUntil, List.filter_filter]
  refine List.filter_congr fun candidate _ => ?_
  cases heligible : isEligible row candidate with
  | false => rfl
  | true =>
      simp only [isEligible, Bool.and_eq_true, decide_eq_true_eq] at heligible
      simpa using le_trans heligible.2 hrow

theorem sequenceBucket_of_sameAt
    (h : List.Forall₂ (SameAt t) (rowsUntil t rows) (rowsUntil t rows')) {row row' : DatasetRow}
    (hrow : SameAt t row row') (hts : row.featureTs ≤ t) :
    sequenceBucket row' rows' = sequenceBucket row rows := by
  have heligible : List.Forall₂ (SameAt t) (rows.filter (isEligible row))
      (rows'.filter (isEligible row')) := by
    have hts' : row'.featureTs ≤ t := hrow.featureTs ▸ hts
    rw [← filter_isEligible_rowsUntil hts, ← filter_isEligible_rowsUntil hts']
    refine List.rel_filter (fun candidate candidate' hcandidate => ?_) h
    simp only [isEligible, hcandidate.instrument, hcandidate.venue, hcandidate.featureTs,
      hrow.instrument, hrow.venue, hrow.featureTs]
  have hvalues : sequenceValues row' rows' = sequenceValues row rows := by
    simp only [sequenceValues]
    rw [← heligible.length_eq]
    refine (mapM_eq_of_forall₂ (List.forall₂_drop _ heligible) fun _ _ hcandidate => ?_).symm
    simp only [sequenceValue, hcandidate.values]
  rw [sequenceBucket, sequenceBucket, hvalues]

/-! ## Fitted labels -/

/-- Train rows picked the same way from both snapshots have the same labels once the late ones
among them do. -/
theorem labels_of_sameAt (hordered : rows.Pairwise fun row row' => row.featureTs ≤ row'.featureTs)
    (hordered' : rows'.Pairwise fun row row' => row.featureTs ≤ row'.featureTs)
    (h : List.Forall₂ (SameAt t) (rowsUntil t rows) (rowsUntil t rows'))
    {keep keep' : DatasetRow → Bool}
    (hkeep : ∀ row row', row.featureTs ≤ t → SameAt t row row' → keep row = keep' row')
    (htrain : ∀ row, keep row = true → row.split = .train)
    (hlate : lateLabels t (rows.filter keep) = lateLabels t (rows'.filter keep')) :
    (rows.filter keep).map DatasetRow.labelValue =
      (rows'.filter keep').map DatasetRow.labelValue := by
  -- the rows up to `t`, then the later ones
  have hsplit : ∀ {rows : List DatasetRow},
      (rows.Pairwise fun row row' => row.featureTs ≤ row'.featureTs) →
      rowsUntil t rows ++ rows.filter (fun row => !decide (row.featureTs ≤ t)) = rows := by
    intro rows hordered
    refine filter_append_filter_not (hordered.imp fun hle hlater => ?_)
    simpa using le_trans hle (by simpa using hlater)
  have hlater : ∀ {rows : List DatasetRow} {keep : DatasetRow → Bool},
      ∀ row ∈ (rows.filter fun row => !decide (row.featureTs ≤ t)).filter keep,
        decide (t < row.labelTs) = true := by
    intro rows keep row hrow
    have hafter := List.of_mem_filter (List.mem_of_mem_filter hrow)
    simp only [Bool.not_eq_true', decide_eq_false_iff_not, AwareDatetime.not_le_iff] at hafter
    simpa using lt_trans hafter row.label_after_feature
  have hrelated : List.Forall₂ (fun row row' => row.split = .train ∧ SameAt t row row')
      ((rowsUntil t rows).filter keep) ((rowsUntil t rows').filter keep') := by
    have huntil : List.Forall₂ (fun row row' => row.featureTs ≤ t ∧ SameAt t row row')
        (rowsUntil t rows) (rowsUntil t rows') :=
      (List.forall₂_and_left _ _).mpr
        ⟨fun row hrow => by simpa using List.of_mem_filter hrow, h⟩
    have hpick : ∀ row row', row.featureTs ≤ t ∧ SameAt t row row' →
        (keep row = true ↔ keep' row' = true) := by
      intro row row' hrow
      rw [hkeep row row' hrow.1 hrow.2]
    have hkept := List.rel_filter (p := keep) (q := keep') (fun row row' => hpick row row') huntil
    exact (List.forall₂_and_left _ _).mpr
      ⟨fun row hrow => htrain row (List.of_mem_filter hrow), hkept.imp fun _ _ hrow => hrow.2⟩
  rw [← hsplit hordered, ← hsplit hordered', List.filter_append, List.filter_append] at hlate ⊢
  refine map_eq_of_hidden hrelated (fun row row' hrow => ?_) hlater hlater hlate
  obtain ⟨hrowTrain, hsame⟩ := hrow
  by_cases hobserved : row.labelTs ≤ t ∨ row'.labelTs ≤ t
  · obtain ⟨hvalue, hts, -⟩ := hsame.label hrowTrain hobserved
    exact ⟨by rw [hts], fun _ => hvalue.symm⟩
  · -- late in both snapshots
    rw [not_or, AwareDatetime.not_le_iff, AwareDatetime.not_le_iff] at hobserved
    refine ⟨?_, fun hearly => ?_⟩
    · rw [decide_eq_true hobserved.1, decide_eq_true hobserved.2]
    · exact absurd hobserved.1 (of_decide_eq_false hearly)

/-- The rows a bucket is fitted on have the same labels. -/
theorem fittedLabels_of_sameAt
    (hordered : rows.Pairwise fun row row' => row.featureTs ≤ row'.featureTs)
    (hordered' : rows'.Pairwise fun row row' => row.featureTs ≤ row'.featureTs)
    (h : List.Forall₂ (SameAt t) (rowsUntil t rows) (rowsUntil t rows'))
    {bucket : SequenceBucket} (hlate : SameLateLabels t bucket rows rows') :
    (fittedRows bucket rows).map DatasetRow.labelValue =
      (fittedRows bucket rows').map DatasetRow.labelValue := by
  have hbucketRows : ∀ rows, bucketRows bucket rows = rows.filter fun row =>
      decide (sequenceBucket row rows = .ok bucket) && decide (row.split = .train) :=
    fun rows => List.filter_filter
  have hbucket : (bucketRows bucket rows).map DatasetRow.labelValue =
      (bucketRows bucket rows').map DatasetRow.labelValue := by
    have hin := hlate.in_bucket
    rw [hbucketRows, hbucketRows] at hin ⊢
    refine labels_of_sameAt hordered hordered' h (fun row row' hts hsame => ?_) (fun row hrow => ?_)
      hin
    · rw [sequenceBucket_of_sameAt h hsame hts, hsame.split]
    · simpa using (Bool.and_eq_true_iff.mp hrow).2
  have hempty : bucketRows bucket rows' = [] ↔ bucketRows bucket rows = [] := by
    rw [← List.map_eq_nil_iff (f := DatasetRow.labelValue), ← hbucket, List.map_eq_nil_iff]
  by_cases hnone : bucketRows bucket rows = []
  · rw [fittedRows, fittedRows, if_pos hnone, if_pos (hempty.mpr hnone)]
    refine labels_of_sameAt hordered hordered' h (fun row row' _ hsame => ?_) (fun row hrow => ?_)
      (hlate.overall hnone)
    · rw [hsame.split]
    · simpa using hrow
  · rw [fittedRows, fittedRows, if_neg hnone, if_neg (mt hempty.mp hnone)]
    exact hbucket

end Agreement

/-! ## Two runs -/

variable [StrLower]

/-- The forecasts of a row on two snapshots that agree at its `feature_ts` are the same prediction
when the labels they are fitted on that were not yet observed are the same. -/
theorem forecast_without_lookahead {snapshot snapshot' : DatasetSnapshot}
    {trainingRun trainingRun' : TrainingRunResult} {splits splits' : Option (List DatasetSplit)}
    {output output' : ProbabilisticCandidateOutput}
    (hrun : trainProbabilisticCandidate snapshot trainingRun splits = .ok output)
    (hrun' : trainProbabilisticCandidate snapshot' trainingRun' splits' = .ok output')
    {row row' : DatasetRow} (hrow : row ∈ snapshot.rows) (hrow' : row' ∈ snapshot'.rows)
    (hsame : SameAt row.featureTs row row') (hagree : AgreeAt row.featureTs snapshot snapshot')
    (hlate : ∀ bucket, sequenceBucket row snapshot.rows = .ok bucket →
      SameLateLabels row.featureTs bucket snapshot.rows snapshot'.rows)
    {f f' : Forecast} (hf : f ∈ output.forecasts) (hf' : f' ∈ output'.forecasts)
    (hid : f.datasetRowId = row.rowId) (hid' : f'.datasetRowId = row'.rowId) :
    f.probabilities = f'.probabilities ∧ f.quantiles = f'.quantiles ∧
      f.uncertainty = f'.uncertainty := by
  obtain ⟨hordered, hforecasts⟩ := predicts_of_train hrun
  obtain ⟨hordered', hforecasts'⟩ := predicts_of_train hrun'
  obtain ⟨bucket, stats, hbucket, hstats, hpredicts⟩ := hforecasts row hrow f hf hid
  obtain ⟨bucket', stats', hbucket', hstats', hpredicts'⟩ := hforecasts' row' hrow' f' hf' hid'
  rw [sequenceBucket_of_sameAt hagree.rows hsame (le_refl _), hbucket] at hbucket'
  cases hbucket'
  rw [← fittedLabels_of_sameAt hordered hordered' hagree.rows (hlate bucket hbucket), hstats]
    at hstats'
  cases hstats'
  exact ⟨hpredicts.probabilities.trans hpredicts'.probabilities.symm,
    hpredicts.quantiles.trans hpredicts'.quantiles.symm,
    hpredicts.uncertainty.trans hpredicts'.uncertainty.symm⟩

/-! ## A late train label -/

variable {rule : LabelRule} {y : Decimal}

/-- Two validated snapshots that agree at a row whose forecasts of it differ, each trained on its
own run of the runner. -/
structure LooksAhead (snapshot snapshot' : DatasetSnapshot) (row : DatasetRow) : Prop where
  valid : snapshot.validate = .ok ()
  valid' : snapshot'.validate = .ok ()
  row_mem : row ∈ snapshot.rows
  row_mem' : row ∈ snapshot'.rows
  agree : AgreeAt row.featureTs snapshot snapshot'
  forecasts : ∃ run run' output output' f f',
    runTraining snapshot validationConfig "abc1234" = .ok run ∧
    runTraining snapshot' validationConfig "abc1234" = .ok run' ∧
    trainProbabilisticCandidate snapshot run none = .ok output ∧
    trainProbabilisticCandidate snapshot' run' none = .ok output' ∧
    f ∈ output.forecasts ∧ f' ∈ output'.forecasts ∧
    f.datasetRowId = row.rowId ∧ f'.datasetRowId = row.rowId ∧ f.probabilities ≠ f'.probabilities

omit [StrLower] in
theorem sameAt_validationRow (t : AwareDatetime) (rule : LabelRule) (y y' : Decimal) :
    SameAt t (validationRow rule y) (validationRow rule y') :=
  ⟨rfl, rfl, rfl, rfl, rfl, rfl, rfl, rfl, rfl, rfl, nofun⟩

omit [StrLower] in
/-- The two rows agree at the validation row when the train label comes later. -/
theorem agreeAt_twoRows (hlate : 10 < rule.horizonSeconds) (x x' y y' : Decimal) :
    AgreeAt (validationRow rule y).featureTs (twoRows rule x y) (twoRows rule x' y') where
  windows := rfl
  labelRule := rfl
  sources := rfl
  rows := by
    have huntil : ∀ x y', rowsUntil (validationRow rule y).featureTs (twoRows rule x y').rows =
        [trainRow rule x, validationRow rule y'] := fun _ _ => rfl
    have hafter : ∀ x, ¬ (trainRow rule x).labelTs ≤ (validationRow rule y).featureTs := by
      intro x
      simp only [AwareDatetime.le_def, trainRow, validationRow, sampleRow, LabelRule.labelTs]
      omega
    rw [huntil, huntil]
    refine .cons ⟨rfl, rfl, rfl, rfl, rfl, rfl, rfl, rfl, rfl, rfl, ?_⟩
      (.cons (sameAt_validationRow _ rule y y') .nil)
    rintro - (hobserved | hobserved)
    · exact absurd hobserved (hafter x)
    · exact absurd hobserved (hafter x')

omit [StrLower] in
/-- The same train label is the same late label. -/
theorem sameLateLabels_twoRows (t : AwareDatetime) (bucket : SequenceBucket) (rule : LabelRule)
    (x y y' : Decimal) :
    SameLateLabels t bucket (twoRows rule x y).rows (twoRows rule x y').rows := by
  have htrain : ∀ y, trainRows (twoRows rule x y).rows = [trainRow rule x] := fun _ => rfl
  constructor
  · simp only [bucketRows, htrain, List.filter_cons, List.filter_nil,
      (sequences_twoRows rule x _).1]
  · intro _
    rw [htrain, htrain]

/-- A late train label of another sign changes the forecast. -/
theorem looksAhead_twoRows (hlate : 10 < rule.horizonSeconds) {x x' : Decimal} (hx : 0 ≤ x)
    (hx' : ¬ 0 ≤ x') (hmx : Moderate x) (hmx' : Moderate x') (hmy : Moderate y)
    (hids : (trainRow rule x).rowId ≠ (validationRow rule y).rowId)
    (hids' : (trainRow rule x').rowId ≠ (validationRow rule y).rowId)
    (hcommit : validateCodeCommit "abc1234" = .ok "abc1234")
    (hlower : StrLower.lower (strip "one_bar_return") ∉ bannedFeatureNames) :
    LooksAhead (twoRows rule x y) (twoRows rule x' y) (validationRow rule y) where
  valid := twoRows_valid rule x y
  valid' := twoRows_valid rule x' y
  row_mem := List.mem_cons_of_mem _ List.mem_cons_self
  row_mem' := List.mem_cons_of_mem _ List.mem_cons_self
  agree := agreeAt_twoRows hlate x x' y y
  forecasts := by
    obtain ⟨run, output, f, hrun, htrain, hf, hrow, hvalue⟩ :=
      exists_forecast_twoRows hmx hmy hids hcommit hlower
    obtain ⟨run', output', f', hrun', htrain', hf', hrow', hvalue'⟩ :=
      exists_forecast_twoRows hmx' hmy hids' hcommit hlower
    refine ⟨run, run', output, output', f, f', hrun, hrun', htrain, htrain', hf, hf', hrow, hrow',
      fun heq => ?_⟩
    rw [if_pos hx] at hvalue
    rw [if_neg hx', ← heq, hvalue] at hvalue'
    exact one_ne_zero (Option.some.inj hvalue')

/-- The rows of the samples have distinct ids. -/
def DistinctIds (rule : LabelRule) : Prop :=
  (trainRow rule 1).rowId ≠ (validationRow rule 1).rowId ∧
  (trainRow rule 1).rowId ≠ (validationRow rule 2).rowId ∧
  (trainRow rule (-1)).rowId ≠ (validationRow rule 1).rowId

instance (rule : LabelRule) : Decidable (DistinctIds rule) :=
  inferInstanceAs (Decidable (_ ∧ _ ∧ _))

/-- A label observed fifteen seconds after its row. -/
def lateRule : LabelRule := sampleRule 15 (by decide)

end Runs

/-! ## On the digest of the repository -/

/-- The labels of the samples. -/
theorem moderate_samples : Moderate 1 ∧ Moderate 2 ∧ Moderate (-1) := by
  refine ⟨moderate_of_abs_le_ten ?_, moderate_of_abs_le_ten ?_, moderate_of_abs_le_ten ?_⟩ <;>
    norm_num

theorem distinctIds_lateRule : @DistinctIds hashlibSha256 (@lateRule hashlibSha256) := by
  decide +kernel

theorem samples_pass : @validateCodeCommit ⟨String.toLower⟩ "abc1234" = .ok "abc1234" ∧
    @StrLower.lower ⟨String.toLower⟩ (strip "one_bar_return") ∉ bannedFeatureNames := by
  decide +kernel

/-- Another validation label leaves the forecast as it was, although the train label it is fitted
on comes after the validation row. -/
theorem forecast_without_lookahead_validation_label :
    ∃ run run' output output' f f',
      @trainProbabilisticCandidate hashlibSha256 ⟨String.toLower⟩
        (@twoRows hashlibSha256 (@lateRule hashlibSha256) 1 1) run none = .ok output ∧
      @trainProbabilisticCandidate hashlibSha256 ⟨String.toLower⟩
        (@twoRows hashlibSha256 (@lateRule hashlibSha256) 1 2) run' none = .ok output' ∧
      f ∈ output.forecasts ∧ f' ∈ output'.forecasts ∧ f.probabilities = f'.probabilities ∧
      f.quantiles = f'.quantiles ∧ f.uncertainty = f'.uncertainty := by
  obtain ⟨hids, hids', -⟩ := distinctIds_lateRule
  obtain ⟨hone, htwo, -⟩ := moderate_samples
  obtain ⟨run, output, f, -, htrain, hf, hrow, -⟩ := @exists_forecast_twoRows hashlibSha256
    ⟨String.toLower⟩ _ _ _ hone hone hids samples_pass.1 samples_pass.2
  obtain ⟨run', output', f', -, htrain', hf', hrow', -⟩ := @exists_forecast_twoRows hashlibSha256
    ⟨String.toLower⟩ _ _ _ hone htwo hids' samples_pass.1 samples_pass.2
  have hsame := @forecast_without_lookahead hashlibSha256 ⟨String.toLower⟩ _ _ _ _ _ _ _ _ htrain
    htrain' _ _ (List.mem_cons_of_mem _ List.mem_cons_self)
    (List.mem_cons_of_mem _ List.mem_cons_self) (@sameAt_validationRow hashlibSha256 _ _ 1 2)
    (@agreeAt_twoRows hashlibSha256 _ (by decide) 1 1 1 2)
    (fun bucket _ => @sameLateLabels_twoRows hashlibSha256 _ bucket _ 1 1 2) _ _ hf hf' hrow hrow'
  exact ⟨run, run', output, output', f, f', htrain, htrain', hf, hf', hsame⟩

/-- A train label observed after the validation row reaches its forecast. -/
theorem late_train_label_reaches_forecast :
    @LooksAhead hashlibSha256 ⟨String.toLower⟩
      (@twoRows hashlibSha256 (@lateRule hashlibSha256) 1 1)
      (@twoRows hashlibSha256 (@lateRule hashlibSha256) (-1) 1)
      (@validationRow hashlibSha256 (@lateRule hashlibSha256) 1) := by
  obtain ⟨hids, -, hids'⟩ := distinctIds_lateRule
  obtain ⟨hone, -, hminus⟩ := moderate_samples
  exact @looksAhead_twoRows hashlibSha256 ⟨String.toLower⟩ _ _ (by decide) _ _ (by norm_num)
    (by norm_num) hone hminus hone hids hids' samples_pass.1 samples_pass.2

end TaModel.Training
