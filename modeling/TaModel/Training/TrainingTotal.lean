import TaModel.Training.Distribution
import TaModel.Training.LabelLookahead

/-!
# When the candidate is trained

`train_probabilistic_candidate` refuses inputs and nothing else: `training_succeeds_iff` lists what
it asks of the snapshot, the run and the evaluated splits. On a snapshot that the training runner has
accepted, only the feature names and the sequence feature are left to ask (`training_after_run`).
-/

set_option autoImplicit false

namespace TaModel.Training

open Contracts Datasets Library

section Total

variable [Sha256]

/-! ## Feature sequences -/

/-- Every row carries the sequence feature. -/
def HasSequences (rows : List DatasetRow) : Prop :=
  ∀ row ∈ rows, ∃ value, row.featureValues.get sequenceFeatureName = some (some value)

/-- The labels and sequence features are moderate. -/
structure ModerateRows (rows : List DatasetRow) : Prop where
  labels : ∀ row ∈ rows, Moderate row.labelValue
  sequences : ∀ row ∈ rows, ∀ value,
    row.featureValues.get sequenceFeatureName = some (some value) → Moderate value

/-- No row carries a feature named like a label. -/
def HasNoLabelNames [StrLower] (rows : List DatasetRow) : Prop :=
  ∀ row ∈ rows, ∀ entry ∈ row.featureValues.entries,
    StrLower.lower (strip entry.1) ∉ bannedFeatureNames

theorem rejectLabelLikeFeatures_eq_ok_iff [StrLower] (rows : List DatasetRow) :
    rejectLabelLikeFeatures rows = .ok () ↔ HasNoLabelNames rows := by
  simp only [rejectLabelLikeFeatures, HasNoLabelNames, forM_eq_ok_iff, require_eq_ok_iff]

theorem validateSequenceFeature_eq_ok_iff (rows : List DatasetRow) :
    validateSequenceFeature rows = .ok () ↔ HasSequences rows := by
  rw [validateSequenceFeature, forM_eq_ok_iff]
  refine forall₂_congr fun row _ => ?_
  cases row.featureValues.get sequenceFeatureName with
  | none => simp
  | some value =>
      cases value with
      | none => simp
      | some value => simp

theorem sequenceValue_eq_ok {row : DatasetRow} {value : Decimal} (h : sequenceValue row = .ok value) :
    row.featureValues.get sequenceFeatureName = some (some value) := by
  unfold sequenceValue at h
  split at h
  · next hget =>
      cases h
      exact hget
  · cases h
  · cases h

theorem exists_sequenceValues {rows : List DatasetRow} (h : HasSequences rows)
    (hmoderate : ModerateRows rows) (row : DatasetRow) :
    ∃ values, sequenceValues row rows = .ok values ∧ ∀ value ∈ values, Moderate value := by
  have hmem : ∀ candidate ∈ (rows.filter (isEligible row)).drop
      ((rows.filter (isEligible row)).length - sequenceLookback), candidate ∈ rows := by
    intro candidate hcandidate
    exact List.mem_of_mem_filter (List.mem_of_mem_drop hcandidate)
  obtain ⟨values, hvalues⟩ : ∃ values, List.Forall₂ (fun row value => sequenceValue row = .ok value)
      ((rows.filter (isEligible row)).drop
        ((rows.filter (isEligible row)).length - sequenceLookback)) values := by
    apply exists_forall₂
    intro candidate hcandidate
    obtain ⟨value, hvalue⟩ := h candidate (hmem candidate hcandidate)
    exact ⟨value, by rw [sequenceValue, hvalue]⟩
  refine ⟨values, (mapM_eq_ok_iff _ _ _).mpr hvalues, fun value hvalue => ?_⟩
  obtain ⟨candidate, hcandidate, hget⟩ := exists_of_mem_right hvalues hvalue
  exact hmoderate.sequences candidate (hmem candidate hcandidate) value (sequenceValue_eq_ok hget)

theorem exists_sequenceBucket {rows : List DatasetRow} (h : HasSequences rows)
    (hmoderate : ModerateRows rows) (row : DatasetRow) :
    ∃ bucket, sequenceBucket row rows = .ok bucket := by
  obtain ⟨values, hvalues, hbounds⟩ := exists_sequenceValues h hmoderate row
  obtain ⟨score, hscore, -⟩ := contextSum_bounded (by decide) (by decide) hbounds
  rw [sequenceBucket, hvalues, ok_bind, hscore, ok_bind]
  exact ⟨_, rfl⟩

/-! ## Fitting -/

/-- The fit succeeds on some train rows, and gives every bucket a valid distribution. -/
theorem exists_fit {rows : List DatasetRow} (hsequences : HasSequences rows)
    (hmoderate : ModerateRows rows) (htrain : trainRows rows ≠ []) :
    ∃ candidate, fitSequenceCandidate rows (trainRows rows) = .ok candidate ∧
      ∀ bucket, ValidDistribution
        ((candidate.statsByBucket.lookup bucket).getD candidate.globalStats) := by
  have hlabels : ∀ train ⊆ rows, ∀ label ∈ train.map DatasetRow.labelValue, Moderate label := by
    intro train htrain
    exact List.forall_mem_map.mpr fun row hrow => hmoderate.labels row (htrain hrow)
  have htrainSubset : trainRows rows ⊆ rows := List.filter_subset_self _
  obtain ⟨labelled, hlabelled⟩ := @exists_forall₂ _ _ (fun (row : DatasetRow)
      (entry : SequenceBucket × Decimal) => (do
        let bucket ← sequenceBucket row rows
        return (bucket, row.labelValue)) = (.ok entry : Raises _)) (trainRows rows) (by
    intro row _
    obtain ⟨bucket, hbucket⟩ := exists_sequenceBucket hsequences hmoderate row
    rw [hbucket, ok_bind]
    exact ⟨_, rfl⟩)
  have hentries : ∀ entry ∈ labelled, Moderate entry.2 := by
    intro entry hentry
    obtain ⟨row, hrow, hbucket⟩ := exists_of_mem_right hlabelled hentry
    obtain ⟨bucket, -, hpair⟩ := (bind_eq_ok_iff _ _ _).mp hbucket
    cases hpair
    exact hmoderate.labels row (htrainSubset hrow)
  have hlabelled := (mapM_eq_ok_iff _ _ _).mpr hlabelled
  obtain ⟨globalStats, hglobal, -⟩ := validDistribution_of_sample
    (by simpa using htrain) (hlabels _ htrainSubset)
  obtain ⟨statsByBucket, hstats⟩ : ∃ statsByBucket, ((grouped labelled).mapM fun group => do
      let stats ← distributionStats group.2
      return (group.1, stats)) = .ok statsByBucket := by
    obtain ⟨statsByBucket, hforall⟩ := @exists_forall₂ _ _ (fun (group : SequenceBucket × List Decimal)
      (entry : SequenceBucket × DistributionStats) => (do
        let stats ← distributionStats group.2
        return (group.1, stats)) = (.ok entry : Raises _)) (grouped labelled) (by
      intro group hgroup
      obtain ⟨hne, hvalues⟩ := groupOf_of_mem_grouped hgroup
      obtain ⟨stats, hstats, -⟩ := validDistribution_of_sample hne fun label hlabel =>
        hentries (group.1, label) (hvalues label hlabel)
      rw [hstats, ok_bind]
      exact ⟨_, rfl⟩)
    exact ⟨statsByBucket, (mapM_eq_ok_iff _ _ _).mpr hforall⟩
  have hfit : fitSequenceCandidate rows (trainRows rows) = .ok ⟨globalStats, statsByBucket⟩ := by
    rw [fitSequenceCandidate, require_of htrain, ok_bind, hlabelled, ok_bind, hglobal, ok_bind,
      hstats, ok_bind]
    rfl
  refine ⟨_, hfit, fun bucket => ?_⟩
  have hfitted : (fittedRows bucket rows).map DatasetRow.labelValue ≠ [] := by
    rw [Ne, List.map_eq_nil_iff, fittedRows]
    split_ifs with hnone
    · exact htrain
    · exact hnone
  have hsubset : fittedRows bucket rows ⊆ rows := by
    rw [fittedRows]
    split_ifs with hnone
    · exact htrainSubset
    · exact fun row hrow => htrainSubset (List.mem_of_mem_filter hrow)
  obtain ⟨stats, hstats, hvalid⟩ := validDistribution_of_sample hfitted (hlabels _ hsubset)
  rw [distributionStats_of_fit hfit bucket] at hstats
  cases hstats
  exact hvalid

/-! ## Scoring -/

/-- A forecast of a row by a run, under a version of the model. -/
structure ScoredBy (snapshot : DatasetSnapshot) (run : TrainingRunResult) (row : DatasetRow)
    (f : Forecast) : Prop where
  snapshotId : f.datasetSnapshotId = snapshot.datasetSnapshotId
  datasetHash : f.datasetHash = snapshot.datasetHash
  rowId : f.datasetRowId = row.rowId
  vectorId : f.featureVectorId = row.featureVectorId
  inputId : f.featureInputSnapshotId = row.featureInputSnapshotId
  version : f.featureVersion = row.featureVersion
  sources : f.sourceFeatureSnapshotIds = row.sourceFeatureSnapshotIds.map Subtype.val
  featureTs : f.featureTs = row.featureTs
  inSplit : f.split = row.split
  instrument : f.instrumentId = row.instrumentId
  venue : f.venueId = row.venueId
  rule : f.labelRuleId = row.labelRuleId
  runId : f.trainingRunId = run.trainingRunId
  runHash : f.trainingRunHash = run.trainingRunHash

/-- The identity checks of a validated run. -/
structure RunIdentity (run : TrainingRunResult) : Prop where
  digest : isHexDigest run.trainingRunHash = true
  id : run.trainingRunId = Forecast.buildTrainingRunId run.trainingRunHash

theorem runIdentity_of_validate [StrLower] {run : TrainingRunResult}
    (h : TrainingRunResult.stamping.validate run = .ok ()) : RunIdentity run := by
  obtain ⟨-, hhash, hid⟩ := (TrainingRunResult.stamping.validate_eq_ok_iff run).mp h
  have hhash : run.trainingRunHash = run.buildHash := hhash
  have hid : run.trainingRunId = Forecast.buildTrainingRunId run.buildHash := hid
  constructor
  · rw [hhash]
    exact isHexDigest_hash _
  · rw [hid, hhash]

theorem exists_scoreRow {row : DatasetRow} {snapshot : DatasetSnapshot} {run : TrainingRunResult}
    {candidate : FittedSequenceCandidate} (hsequences : HasSequences snapshot.rows)
    (hmoderate : ModerateRows snapshot.rows) (hdataset : isHexDigest snapshot.datasetHash = true) (hrun : RunIdentity run)
    (hsplit : row.split ≠ .train)
    (hvalid : ∀ bucket, ValidDistribution
      ((candidate.statsByBucket.lookup bucket).getD candidate.globalStats)) :
    let versionHash :=
      Forecast.buildModelVersionHash run.trainingRunId run.trainingRunHash candidateName
    let versionId := Forecast.buildModelVersionId versionHash
    ∃ f, scoreRow row snapshot run versionId versionHash candidate = .ok f := by
  intro versionHash versionId
  obtain ⟨bucket, hbucket⟩ := exists_sequenceBucket hsequences hmoderate row
  obtain ⟨values, hvalues, -⟩ := exists_sequenceValues hsequences hmoderate row
  simp only [scoreRow, hbucket, hvalues, ok_bind]
  refine ⟨_, (check_bind_eq_ok_iff _ _ _).mpr ⟨?_, rfl⟩⟩
  refine Forecast.validate_of_lineage ⟨hdataset, hrun.digest⟩
    ((hvalid bucket).probabilities _ rfl) ?_ (hvalid bucket).quantiles hsplit hrun.id ?_ rfl rfl rfl
  · exact (hvalid bucket).quantiles_ne_nil
  · rfl

/-- Every fact of a scored row is taken from the row, the snapshot or the run. -/
theorem scoredBy_of_scoreRow {row : DatasetRow} {snapshot : DatasetSnapshot}
    {run : TrainingRunResult} {versionId versionHash : String}
    {candidate : FittedSequenceCandidate} {f : Forecast}
    (h : scoreRow row snapshot run versionId versionHash candidate = .ok f) :
    ScoredBy snapshot run row f ∧ f.modelVersionId = versionId ∧
      f.modelVersionHash = versionHash := by
  simp only [scoreRow, bind_eq_ok_iff] at h
  obtain ⟨bucket, -, values, -, -, -, hf⟩ := h
  cases hf
  exact ⟨⟨rfl, rfl, rfl, rfl, rfl, rfl, rfl, rfl, rfl, rfl, rfl, rfl, rfl, rfl⟩, rfl, rfl⟩

/-! ## Training -/

theorem isHexDigest_of_prerequisites [StrLower] {snapshot : DatasetSnapshot}
    {config : TrainingConfig} {codeCommit normalized : String}
    (h : validatePrerequisites snapshot config codeCommit = .ok normalized) :
    isHexDigest snapshot.datasetHash = true := by
  simp only [validatePrerequisites, bind_eq_ok_iff, require_eq_ok_iff] at h
  obtain ⟨_, -, _, -, _, hhash, -⟩ := h
  rw [hhash]
  exact isHexDigest_hash _

theorem trainRows_of_prerequisites [StrLower] {snapshot : DatasetSnapshot}
    {config : TrainingConfig} {codeCommit normalized : String}
    (h : validatePrerequisites snapshot config codeCommit = .ok normalized) :
    trainRows snapshot.rows ≠ [] := by
  simp only [validatePrerequisites, bind_eq_ok_iff, require_eq_ok_iff] at h
  obtain ⟨_, -, _, -, _, -, _, -, _, ⟨row, hrow, hsplit⟩, -⟩ := h
  have hmem : row ∈ trainRows snapshot.rows :=
    List.mem_filter.mpr ⟨hrow, decide_eq_true (hsplit.trans config.train_is_train)⟩
  exact List.ne_nil_of_mem hmem

theorem evaluatedSplits_ne_nil (splits : Option (List DatasetSplit)) (run : TrainingRunResult) :
    evaluatedSplits splits run ≠ [] := by
  unfold evaluatedSplits
  split
  · exact List.cons_ne_nil _ _
  · exact run.trainingConfig.evaluation_nonempty

/-- What the trainer asks of its inputs. -/
structure TrainingInputs [StrLower] (snapshot : DatasetSnapshot) (run : TrainingRunResult)
    (splits : List DatasetSplit) : Prop where
  prerequisites : ∃ commit,
    validatePrerequisites snapshot run.trainingConfig run.codeCommit = .ok commit
  snapshotId : run.datasetSnapshotId = snapshot.datasetSnapshotId
  datasetHash : run.datasetHash = snapshot.datasetHash
  outOfSample : DatasetSplit.train ∉ splits
  distinct : splits.Nodup
  names : HasNoLabelNames snapshot.rows
  sequences : HasSequences snapshot.rows
  evaluated : ∃ row ∈ snapshot.rows, row.split ∈ splits

/-- Inputs that meet the requirements are never refused. -/
theorem exists_output [StrLower] {snapshot : DatasetSnapshot} {run : TrainingRunResult}
    {splits : Option (List DatasetSplit)} (hrun : RunIdentity run)
    (hmoderate : ModerateRows snapshot.rows) (h : TrainingInputs snapshot run (evaluatedSplits splits run)) :
    ∃ output, trainProbabilisticCandidate snapshot run splits = .ok output := by
  obtain ⟨commit, hprerequisites⟩ := h.prerequisites
  have hdigest := isHexDigest_of_prerequisites hprerequisites
  obtain ⟨candidate, hfit, hvalid⟩ :=
    exists_fit h.sequences hmoderate (trainRows_of_prerequisites hprerequisites)
  let versionHash :=
    Forecast.buildModelVersionHash run.trainingRunId run.trainingRunHash candidateName
  let versionId := Forecast.buildModelVersionId versionHash
  obtain ⟨forecasts, hforecasts⟩ := @exists_forall₂ _ _ (fun row f =>
      scoreRow row snapshot run versionId versionHash candidate = .ok f)
      (snapshot.rows.filter fun row => decide (row.split ∈ evaluatedSplits splits run)) (by
    intro row hrow
    apply exists_scoreRow h.sequences hmoderate hdigest hrun _ hvalid
    intro htrain
    exact h.outOfSample (htrain ▸ of_decide_eq_true (List.mem_filter.mp hrow).2))
  have hne : forecasts ≠ [] := by
    rintro rfl
    obtain ⟨row, hrow, hsplit⟩ := h.evaluated
    have hnil := hforecasts.length_eq
    rw [List.length_nil, List.length_eq_zero_iff, List.filter_eq_nil_iff] at hnil
    exact hnil row hrow (decide_eq_true hsplit)
  let draft : ProbabilisticCandidateOutput :=
    { outputId := "", outputHash := "", datasetSnapshotId := snapshot.datasetSnapshotId,
      datasetHash := snapshot.datasetHash, trainingRunId := run.trainingRunId,
      trainingRunHash := run.trainingRunHash, modelVersionId := versionId,
      modelVersionHash := versionHash, forecastIds := forecasts.map Forecast.forecastId,
      forecasts := forecasts }
  have hfields : draft.validateFields = .ok () := by
    simp only [ProbabilisticCandidateOutput.validateFields,
      ProbabilisticCandidateOutput.validateForecast, check_bind_eq_ok_iff, require_eq_ok_iff,
      forM_eq_ok_iff]
    refine ⟨⟨hdigest, hrun.digest, isHexDigest_hash _⟩, ⟨by simpa [draft] using hne, hne⟩, rfl, ?_⟩
    intro f hf
    obtain ⟨row, -, hscore⟩ := exists_of_mem_right hforecasts hf
    obtain ⟨hscored, hversion, hversionHash⟩ := scoredBy_of_scoreRow hscore
    exact ⟨hscored.snapshotId, hscored.datasetHash, hscored.runId, hscored.runHash, hversion,
      hversionHash⟩
  refine ⟨ProbabilisticCandidateOutput.stamping.sealed draft, ?_⟩
  simp only [trainProbabilisticCandidate, bind_eq_ok_iff, require_eq_ok_iff]
  refine ⟨commit, hprerequisites, (), ?_, (), evaluatedSplits_ne_nil splits run, (),
    h.outOfSample, (), h.distinct, (), (rejectLabelLikeFeatures_eq_ok_iff _).mpr h.names, (),
    (validateSequenceFeature_eq_ok_iff _).mpr h.sequences, candidate, hfit, forecasts,
    (mapM_eq_ok_iff _ _ _).mpr hforecasts, (), hne,
    (ProbabilisticCandidateOutput.stamping.construct_eq_ok_iff draft _).mpr ⟨hfields, rfl⟩⟩
  simp only [validateTrainingRunLineage, check_bind_eq_ok_iff, require_eq_ok_iff]
  exact ⟨h.snapshotId, h.datasetHash⟩

/-- What a successful training says about its inputs and its output. -/
theorem inputs_of_train [StrLower] {snapshot : DatasetSnapshot} {run : TrainingRunResult}
    {splits : Option (List DatasetSplit)} {output : ProbabilisticCandidateOutput}
    (h : trainProbabilisticCandidate snapshot run splits = .ok output) :
    TrainingInputs snapshot run (evaluatedSplits splits run) ∧
      List.Forall₂ (ScoredBy snapshot run)
        (snapshot.rows.filter fun row => decide (row.split ∈ evaluatedSplits splits run))
        output.forecasts := by
  simp only [trainProbabilisticCandidate, bind_eq_ok_iff, require_eq_ok_iff] at h
  obtain ⟨commit, hprerequisites, _, hlineage, _, -, _, hout, _, hnodup, _, hnames, _, hsequences,
    candidate, -, forecasts, hforecasts, _, hne, hconstruct⟩ := h
  simp only [validateTrainingRunLineage, check_bind_eq_ok_iff, require_eq_ok_iff] at hlineage
  obtain ⟨-, rfl⟩ := (ProbabilisticCandidateOutput.stamping.construct_eq_ok_iff _ _).mp hconstruct
  have hscored := (mapM_eq_ok_iff _ _ _).mp hforecasts
  refine ⟨⟨⟨commit, hprerequisites⟩, hlineage.1, hlineage.2, hout, hnodup,
    (rejectLabelLikeFeatures_eq_ok_iff _).mp hnames,
    (validateSequenceFeature_eq_ok_iff _).mp hsequences, ?_⟩,
    hscored.imp fun row f hscore => (scoredBy_of_scoreRow hscore).1⟩
  obtain ⟨f, hf⟩ := List.exists_mem_of_ne_nil _ hne
  obtain ⟨row, hrow, -⟩ := exists_of_mem_right hscored hf
  obtain ⟨hmem, hsplit⟩ := List.mem_filter.mp hrow
  exact ⟨row, hmem, of_decide_eq_true hsplit⟩

/-- On moderate labels and sequence features training refuses inputs and nothing else: once the
inputs are in order, no fitted share, rank or digest makes it fail. -/
theorem training_succeeds_iff [StrLower] {snapshot : DatasetSnapshot} {run : TrainingRunResult}
    {splits : Option (List DatasetSplit)} (hrun : TrainingRunResult.stamping.validate run = .ok ())
    (hmoderate : ModerateRows snapshot.rows) :
    (∃ output, trainProbabilisticCandidate snapshot run splits = .ok output) ↔
      TrainingInputs snapshot run (evaluatedSplits splits run) := by
  constructor
  · rintro ⟨output, h⟩
    exact (inputs_of_train h).1
  · exact exists_output (runIdentity_of_validate hrun) hmoderate

/-! ## After the training runner -/

/-- What the runner's result says of the snapshot it was run on. -/
theorem inputs_of_runTraining [StrLower] {snapshot : DatasetSnapshot} {config : TrainingConfig}
    {codeCommit : String} {run : TrainingRunResult}
    (h : runTraining snapshot config codeCommit = .ok run) :
    TrainingRunResult.stamping.validate run = .ok () ∧ run.trainingConfig = config ∧
      (HasNoLabelNames snapshot.rows → HasSequences snapshot.rows →
        TrainingInputs snapshot run (evaluatedSplits none run)) := by
  simp only [runTraining, bind_eq_ok_iff] at h
  obtain ⟨commit, hprerequisites, _, -, labelMean, -, metrics, hmetrics, hconstruct⟩ := h
  have hvalidate := TrainingRunResult.stamping.validate_of_construct hconstruct
  obtain ⟨hfields, rfl⟩ := (TrainingRunResult.stamping.construct_eq_ok_iff _ _).mp hconstruct
  refine ⟨hvalidate, rfl, fun hnames hsequences => ?_⟩
  have hcommit : ∃ normalized, validateCodeCommit commit = .ok normalized := by
    obtain ⟨-, hrest⟩ := (check_bind_eq_ok_iff _ _ _).mp hfields
    obtain ⟨normalized, hnormalized, -⟩ := (bind_eq_ok_iff _ _ _).mp hrest
    exact ⟨normalized, hnormalized⟩
  -- the normalised commit passes the same prerequisites
  have hagain : ∃ normalized, validatePrerequisites snapshot config commit = .ok normalized := by
    obtain ⟨normalized, hnormalized⟩ := hcommit
    simp only [validatePrerequisites, bind_eq_ok_iff] at hprerequisites
    obtain ⟨_, -, hchecks⟩ := hprerequisites
    refine ⟨normalized, ?_⟩
    simp only [validatePrerequisites, bind_eq_ok_iff]
    obtain ⟨_, hid, _, hhash, _, hrows, _, htrain, _, horder, -⟩ := hchecks
    exact ⟨normalized, hnormalized, _, hid, _, hhash, _, hrows, _, htrain, _, horder, rfl⟩
  have hevaluated : ∃ row ∈ snapshot.rows, row.split ∈ config.evaluationSplits := by
    obtain ⟨split, hsplit⟩ := List.exists_mem_of_ne_nil _ config.evaluation_nonempty
    obtain ⟨evaluated, hevaluated, -⟩ := (bind_eq_ok_iff _ _ _).mp hmetrics
    obtain ⟨_, -, hsplitMetrics⟩ := exists_of_mem_left ((mapM_eq_ok_iff _ _ _).mp hevaluated) hsplit
    obtain ⟨hrows, -⟩ := (check_bind_eq_ok_iff _ _ _).mp hsplitMetrics
    obtain ⟨row, hrow⟩ := List.exists_mem_of_ne_nil _ ((require_eq_ok_iff _ _ _).mp hrows)
    obtain ⟨hmem, hrowSplit⟩ := List.mem_filter.mp hrow
    exact ⟨row, hmem, (of_decide_eq_true hrowSplit) ▸ hsplit⟩
  exact
    { prerequisites := hagain, snapshotId := rfl, datasetHash := rfl,
      outOfSample := config.train_is_train ▸ config.train_not_evaluated,
      distinct := config.evaluation_unique, names := hnames, sequences := hsequences,
      evaluated := hevaluated }

/-- A snapshot that the training runner has accepted trains a candidate exactly when its rows carry
the sequence feature and none named like a label. -/
theorem training_after_run [StrLower] {snapshot : DatasetSnapshot} {config : TrainingConfig}
    {codeCommit : String} {run : TrainingRunResult}
    (h : runTraining snapshot config codeCommit = .ok run)
    (hmoderate : ModerateRows snapshot.rows) :
    (∃ output, trainProbabilisticCandidate snapshot run none = .ok output) ↔
      HasNoLabelNames snapshot.rows ∧ HasSequences snapshot.rows := by
  obtain ⟨hvalidate, -, hinputs⟩ := inputs_of_runTraining h
  constructor
  · rintro ⟨output, houtput⟩
    have hall := (inputs_of_train houtput).1
    exact ⟨hall.names, hall.sequences⟩
  · rintro ⟨hnames, hsequences⟩
    exact exists_output (runIdentity_of_validate hvalidate) hmoderate (hinputs hnames hsequences)

end Total

theorem moderateRows_twoRows [Sha256] (rule : LabelRule) {x y : Decimal} (hx : Moderate x)
    (hy : Moderate y) : ModerateRows (twoRows rule x y).rows := by
  have hrows : (twoRows rule x y).rows = [trainRow rule x, validationRow rule y] := rfl
  have hone : Moderate 1 := moderate_samples.1
  constructor
  · rw [hrows]
    exact List.forall_mem_cons.mpr ⟨hx, List.forall_mem_singleton.mpr hy⟩
  · rw [hrows]
    refine List.forall_mem_cons.mpr ⟨?_, List.forall_mem_singleton.mpr ?_⟩
    · rintro value hvalue
      cases hvalue
      exact hone
    · rintro value hvalue
      cases hvalue
      exact hone

/-- The candidate trained on one train row and one validation row. -/
theorem training_succeeds_two_rows :
    ∃ (run : @TrainingRunResult hashlibSha256) (output : ProbabilisticCandidateOutput),
      @Stamping.validate _ _ _ (@TrainingRunResult.stamping hashlibSha256 ⟨String.toLower⟩) _ run =
        .ok () ∧
      @trainProbabilisticCandidate hashlibSha256 ⟨String.toLower⟩
        (@twoRows hashlibSha256 (@lateRule hashlibSha256) 1 1) run none = .ok output ∧
      @TrainingInputs hashlibSha256 ⟨String.toLower⟩
        (@twoRows hashlibSha256 (@lateRule hashlibSha256) 1 1) run
        (@evaluatedSplits hashlibSha256 none run) := by
  let _ := hashlibSha256
  let _ : StrLower := ⟨String.toLower⟩
  obtain ⟨run, output, f, hrun, htrain, -⟩ := @exists_forecast_twoRows hashlibSha256
    ⟨String.toLower⟩ _ 1 1 moderate_samples.1 moderate_samples.1 distinctIds_lateRule.1 samples_pass.1 samples_pass.2
  obtain ⟨hvalidate, -⟩ := inputs_of_runTraining hrun
  have hmoderate := moderateRows_twoRows lateRule moderate_samples.1 moderate_samples.1
  exact ⟨run, output, hvalidate, htrain,
    (training_succeeds_iff hvalidate hmoderate).mp ⟨output, htrain⟩⟩

end TaModel.Training
