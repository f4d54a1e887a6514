import TaModel.Training.TrainingTotal
import TaModel.Validation.ReportInputs

/-!
# From training to the validation report

A trained candidate is validated on the snapshot it was trained on. Everything the report asks of the
forecasts holds by construction, except that their ids differ and that the rounded mean of their
uncertainties stays in range (`candidate_validated_iff`). The second can fail for equal uncertainties.
-/

set_option autoImplicit false

namespace TaModel.Validation

open Contracts Datasets Library Training

section Pipeline

variable [Sha256]

/-! ## Rows -/

/-- With distinct ids, the row with an id is found. -/
theorem find?_rowId {rows : List DatasetRow} (hnodup : (rows.map DatasetRow.rowId).Nodup)
    {row : DatasetRow} (hrow : row ∈ rows) :
    (rows.find? fun candidate => decide (candidate.rowId = row.rowId)) = some row := by
  induction rows with
  | nil => cases hrow
  | cons first rest ih =>
      obtain ⟨hhead, htail⟩ := List.nodup_cons.mp hnodup
      rcases List.mem_cons.mp hrow with rfl | hmem
      · exact List.find?_cons_of_pos (decide_eq_true rfl)
      · have hne : first.rowId ≠ row.rowId := by
          intro heq
          exact hhead (heq ▸ List.mem_map_of_mem hmem)
        rw [List.find?_cons_of_neg (by simpa using hne)]
        exact ih htail hmem

/-- Keeping the splits of the kept rows keeps the same rows. -/
theorem filter_split_filter (rows : List DatasetRow) (splits : List DatasetSplit) :
    (rows.filter fun row => decide (row.split ∈
        (rows.filter fun row => decide (row.split ∈ splits)).map DatasetRow.split)) =
      rows.filter fun row => decide (row.split ∈ splits) := by
  refine List.filter_congr fun row hrow => decide_eq_decide.mpr ?_
  constructor
  · intro hmem
    obtain ⟨kept, hkept, hsplit⟩ := List.mem_map.mp hmem
    rw [← hsplit]
    exact of_decide_eq_true (List.mem_filter.mp hkept).2
  · intro hsplit
    exact List.mem_map_of_mem (List.mem_filter.mpr ⟨hrow, decide_eq_true hsplit⟩)

/-! ## The trained output -/

section Trained

variable [StrLower] {snapshot : DatasetSnapshot} {run : TrainingRunResult}
  {splits : Option (List DatasetSplit)} {output : ProbabilisticCandidateOutput}

/-- Where the ids of a trained output come from. -/
theorem lineage_of_train (h : trainProbabilisticCandidate snapshot run splits = .ok output) :
    ProbabilisticCandidateOutput.stamping.validate output = .ok () ∧
      (∀ f ∈ output.forecasts, f.validate = .ok ()) ∧
      (output.datasetSnapshotId = snapshot.datasetSnapshotId ∧
        output.datasetHash = snapshot.datasetHash) ∧
      output.trainingRunId = run.trainingRunId ∧ output.trainingRunHash = run.trainingRunHash := by
  simp only [trainProbabilisticCandidate, bind_eq_ok_iff, require_eq_ok_iff] at h
  obtain ⟨_, -, _, -, _, -, _, -, _, -, _, -, _, -, candidate, -, forecasts, hforecasts, _, -,
    hconstruct⟩ := h
  have hvalidate := ProbabilisticCandidateOutput.stamping.validate_of_construct hconstruct
  obtain ⟨-, rfl⟩ := (ProbabilisticCandidateOutput.stamping.construct_eq_ok_iff _ _).mp hconstruct
  refine ⟨hvalidate, fun f hf => ?_, ⟨rfl, rfl⟩, rfl, rfl⟩
  obtain ⟨row, -, hscore⟩ := exists_of_mem_right ((mapM_eq_ok_iff _ _ _).mp hforecasts) hf
  simp only [scoreRow, bind_eq_ok_iff] at hscore
  obtain ⟨bucket, -, values, -, _, hvalid, hok⟩ := hscore
  cases hok
  exact hvalid

/-- Every forecast has the distribution of some sample of train labels. -/
theorem sampled_of_train (h : trainProbabilisticCandidate snapshot run splits = .ok output) :
    ∀ f ∈ output.forecasts, ∃ stats, ValidDistribution stats ∧ Predicts stats f := by
  intro f hf
  obtain ⟨-, hscored⟩ := inputs_of_train h
  obtain ⟨row, hrow, hby⟩ := exists_of_mem_right hscored hf
  obtain ⟨bucket, stats, -, hstats, hpredicts⟩ :=
    (predicts_of_train h).2 row (List.mem_of_mem_filter hrow) f hf hby.rowId
  exact ⟨stats, validDistribution_of_ok hstats, hpredicts⟩

omit [Sha256] [StrLower] in
theorem hasClasses_of_distribution {stats : DistributionStats} (h : ValidDistribution stats)
    {f : Forecast} (hf : Predicts stats f) : HasClasses f.probabilities := by
  have hclasses := h.classes
  rw [← hf.probabilities] at hclasses
  -- a name among the classes has an entry
  have hget : ∀ name ∈ ["negative", "non_negative"], ∃ p, f.probabilities.get name = some p := by
    intro name hname
    rw [← hclasses] at hname
    obtain ⟨entry, hentry, rfl⟩ := List.mem_map.mp hname
    exact ⟨entry.2, StringDict.get_of_mem hentry⟩
  exact ⟨hget _ List.mem_cons_self, hget _ (List.mem_cons_of_mem _ List.mem_cons_self)⟩

omit [StrLower] in
theorem fieldsAgree_of_scoredBy {row : DatasetRow} {f : Forecast}
    (h : ScoredBy snapshot run row f) : FieldsAgree snapshot f row where
  snapshotId := h.snapshotId
  datasetHash := h.datasetHash
  vectorId := h.vectorId
  inputId := h.inputId
  version := h.version
  sources := h.sources
  featureTs := by rw [h.featureTs]
  inSplit := h.inSplit
  instrument := h.instrument
  venue := h.venue
  rule := h.rule

/-- A trained output is aligned with its own snapshot. -/
theorem alignment_of_train (h : trainProbabilisticCandidate snapshot run splits = .ok output) :
    ∃ pairs, Alignment snapshot output pairs := by
  obtain ⟨hinputs, hscored⟩ := inputs_of_train h
  obtain ⟨-, -, hdataset, -, -⟩ := lineage_of_train h
  obtain ⟨commit, hprerequisites⟩ := hinputs.prerequisites
  obtain ⟨hnodup, -⟩ := rows_of_validatePrerequisites hprerequisites
  have hids : output.forecasts.map Forecast.datasetRowId =
      (snapshot.rows.filter fun row =>
        decide (row.split ∈ evaluatedSplits splits run)).map DatasetRow.rowId :=
    (map_eq_of_forall₂ hscored fun row f hby => hby.rowId.symm).symm
  have hsplits : output.forecasts.map Forecast.split =
      (snapshot.rows.filter fun row =>
        decide (row.split ∈ evaluatedSplits splits run)).map DatasetRow.split :=
    (map_eq_of_forall₂ hscored fun row f hby => hby.inSplit.symm).symm
  obtain ⟨pairs, hpairs⟩ : ∃ pairs, List.Forall₂
      (fun f (pair : Forecast × DatasetRow) => pair.1 = f ∧ Aligned snapshot f pair.2)
      output.forecasts pairs := by
    apply exists_forall₂
    intro f hf
    obtain ⟨row, hrow, hby⟩ := exists_of_mem_right hscored hf
    obtain ⟨hmem, hsplit⟩ := List.mem_filter.mp hrow
    refine ⟨(f, row), rfl, ?_, fieldsAgree_of_scoredBy hby, ?_⟩
    · rw [hby.rowId]
      exact find?_rowId hnodup hmem
    · rw [hby.inSplit]
      intro htrain
      exact hinputs.outOfSample (htrain ▸ of_decide_eq_true hsplit)
  refine ⟨pairs, hdataset.1, hdataset.2, hnodup, ?_, ?_, ?_, hpairs⟩
  · rw [hids]
    exact hnodup.sublist (List.filter_sublist.map _)
  · intro id
    rw [hids, hsplits, filter_split_filter]
  · refine ⟨quantileLevels, ?_, ?_⟩
    · intro expected hexpected
      cases hexpected
    · intro f hf
      obtain ⟨stats, hvalid, hpredicts⟩ := sampled_of_train h f hf
      rw [hpredicts.quantiles]
      exact hvalid.levels

/-! ## The registry record -/

/-- A candidate record of a validated run is built exactly when MLflow and the source version are
named consistently. -/
theorem candidate_record_iff {request : RegistrationRequest}
    (hrun : TrainingRunResult.stamping.validate run = .ok ())
    (hdataset : run.datasetSnapshotId = buildDatasetSnapshotId run.datasetHash) :
    (∃ record, buildCandidateRegistryRecord run request = .ok record) ↔
      (request.mlflow.registeredModelName = request.modelName ∧
        request.mlflow.modelVersion = request.modelVersion) ∧
      (request.sourceModelVersionId = none ↔ request.sourceModelVersionHash = none) ∧
      ∀ digest ∈ request.sourceModelVersionHash, isHexDigest digest = true := by
  obtain ⟨hfields, -, -⟩ := (TrainingRunResult.stamping.validate_eq_ok_iff run).mp hrun
  have hidentity := runIdentity_of_validate hrun
  change run.validateFields = .ok () at hfields
  obtain ⟨hhex, hrest⟩ := (check_bind_eq_ok_iff _ _ _).mp hfields
  obtain ⟨normalized, hcommit, hrest⟩ := (bind_eq_ok_iff _ _ _).mp hrest
  simp only [check_bind_eq_ok_iff, require_eq_ok_iff] at hhex hrest
  obtain ⟨-, -, hmetrics, hartifacts, -⟩ := hrest
  have hconfig : isHexDigest run.trainingConfig.trainingConfigHash = true := by
    rw [run.trainingConfig.hash_is_deterministic]
    exact isHexDigest_hash _
  constructor
  · rintro ⟨record, h⟩
    obtain ⟨hrecord, -⟩ := (ModelRegistryRecord.stamping.construct_eq_ok_iff _ _).mp h
    change ModelRegistryRecord.validateFields _ = .ok () at hrecord
    simp only [ModelRegistryRecord.validateFields, bind_eq_ok_iff, require_eq_ok_iff] at hrecord
    obtain ⟨_, -, _, hdigest, _, -, _, -, _, -, _, -, _, -, _, -, _, hname, _, hversion, _, hboth,
      -⟩ := hrecord
    exact ⟨⟨hname, hversion⟩, hboth, hdigest⟩
  · rintro ⟨⟨hname, hversion⟩, hboth, hdigest⟩
    refine ⟨_, (ModelRegistryRecord.stamping.construct_eq_ok_iff _ _).mpr ⟨?_, rfl⟩⟩
    change ModelRegistryRecord.validateFields _ = .ok ()
    simp only [ModelRegistryRecord.validateFields, bind_eq_ok_iff, require_eq_ok_iff]
    exact ⟨(), ⟨hidentity.digest, hhex, hconfig⟩, (), hdigest, normalized, hcommit, (), hmetrics,
      (), hartifacts, (), hidentity.id, (), run.trainingConfig.id_is_deterministic, (), hdataset,
      (), hname, (), hversion, (), hboth, (), rfl, trivial⟩

/-- The record of a run that names the trained output as its source may be cited. -/
theorem citable_of_train (h : trainProbabilisticCandidate snapshot run splits = .ok output)
    {request : RegistrationRequest} {record : ModelRegistryRecord}
    (hrecord : buildCandidateRegistryRecord run request = .ok record)
    (hsource : request.sourceModelVersionId = some output.modelVersionId ∧
      request.sourceModelVersionHash = some output.modelVersionHash) :
    Citable output record := by
  obtain ⟨hinputs, -⟩ := inputs_of_train h
  obtain ⟨-, -, hdataset, hrunId, hrunHash⟩ := lineage_of_train h
  obtain ⟨-, rfl⟩ := (ModelRegistryRecord.stamping.construct_eq_ok_iff _ _).mp hrecord
  exact ⟨⟨hrunId.symm, hrunHash.symm⟩,
    ⟨hinputs.snapshotId.trans hdataset.1.symm, hinputs.datasetHash.trans hdataset.2.symm⟩, rfl,
    hsource⟩

/-! ## The report on a trained candidate -/

theorem validArtifacts_of_train (h : trainProbabilisticCandidate snapshot run splits = .ok output) :
    ValidArtifacts snapshot output := by
  obtain ⟨hinputs, -⟩ := inputs_of_train h
  obtain ⟨hvalidate, hforecasts, -⟩ := lineage_of_train h
  obtain ⟨commit, hprerequisites⟩ := hinputs.prerequisites
  simp only [validatePrerequisites, bind_eq_ok_iff, require_eq_ok_iff] at hprerequisites
  obtain ⟨_, -, _, hid, -⟩ := hprerequisites
  exact ⟨hid, hvalidate, hforecasts⟩

/-- Of the inputs of a report, training leaves three to ask. -/
theorem reportInputs_of_train_iff {files : EvidenceFiles} {evidence : BaselineEvidenceReference}
    {record : Option ModelRegistryRecord}
    (h : trainProbabilisticCandidate snapshot run splits = .ok output)
    (hrecord : ∀ cited ∈ record, ∃ request, buildCandidateRegistryRecord run request = .ok cited ∧
      request.sourceModelVersionId = some output.modelVersionId ∧
      request.sourceModelVersionHash = some output.modelVersionHash) :
    ReportInputs files snapshot output evidence record ↔
      validateBaselineEvidencePaths files evidence = .ok () ∧ output.forecastIds.Nodup ∧
        MeanInRange output.forecasts := by
  constructor
  · intro hreport
    exact ⟨hreport.evidence, hreport.forecastIds, hreport.uncertainty⟩
  · rintro ⟨hevidence, hids, huncertainty⟩
    obtain ⟨hinputs, -⟩ := inputs_of_train h
    obtain ⟨commit, hprerequisites⟩ := hinputs.prerequisites
    refine ⟨hevidence, alignment_of_train h, trainRows_of_prerequisites hprerequisites, ?_,
      huncertainty, hids, ?_⟩
    · intro f hf
      obtain ⟨stats, hvalid, hpredicts⟩ := sampled_of_train h f hf
      exact hasClasses_of_distribution hvalid hpredicts
    · intro cited hcited
      obtain ⟨request, hbuilt, hsource⟩ := hrecord cited hcited
      exact citable_of_train h hbuilt hsource

/-- A trained candidate, with or without its registry record, is validated exactly when the baseline
evidence passes, no two forecasts share an id and the rounded mean uncertainty is in range. -/
theorem candidate_validated_iff [FloatMetrics] {files : EvidenceFiles}
    {evidence : BaselineEvidenceReference} {record : Option ModelRegistryRecord}
    (h : trainProbabilisticCandidate snapshot run splits = .ok output)
    (hrecord : ∀ cited ∈ record, ∃ request, buildCandidateRegistryRecord run request = .ok cited ∧
      request.sourceModelVersionId = some output.modelVersionId ∧
      request.sourceModelVersionHash = some output.modelVersionHash) :
    (∃ report, buildModelValidationReport files snapshot output evidence record = .ok report) ↔
      validateBaselineEvidencePaths files evidence = .ok () ∧ output.forecastIds.Nodup ∧
        MeanInRange output.forecasts := by
  rw [report_succeeds_iff (validArtifacts_of_train h)]
  exact reportInputs_of_train_iff h hrecord

end Trained

end Pipeline

/-! ## One validated forecast -/

section Samples

/-- Evidence that both reports state. -/
def sampleEvidence : BaselineEvidenceReference where
  scorecardId := "SCORECARD:1"
  scorecardHash := "0000000000000000000000000000000000000000000000000000000000000000"
  gateReportPath := "docs/s5_gate.md"
  scorecardReportPath := "docs/s5_scorecard.md"

/-- Files that hold the evidence. -/
def sampleFiles : EvidenceFiles := fun _ =>
  some (.ok ("Decision: PASS, SCORECARD:1, " ++
    "0000000000000000000000000000000000000000000000000000000000000000"))

theorem sampleEvidence_passes : validateBaselineEvidencePaths sampleFiles sampleEvidence = .ok () :=
  ok_unit_of_toBool _ (by decide +kernel)

/-- The scores of certain forecasts that come true. -/
@[reducible] def perfectMetrics : FloatMetrics where
  nll _ := 0
  brier _ := 0
  calibrationError _ := ⟨0, Decimal.zero_le_zero⟩

theorem uncertainty_of_one :
    (distributionStats [1]).toOption.map (fun stats => stats.uncertainty.val) = some 0 := by
  decide +kernel

theorem fittedLabels_of_twoRows [Sha256] (rule : LabelRule) (y : Decimal) (bucket : SequenceBucket) :
    (fittedRows bucket (twoRows rule 1 y).rows).map DatasetRow.labelValue = [1] := by
  have htrain : trainRows (twoRows rule 1 y).rows = [trainRow rule 1] := rfl
  rw [fittedRows, bucketRows, htrain]
  by_cases hbucket : sequenceBucket (trainRow rule 1) (twoRows rule 1 y).rows = .ok bucket
  · rw [List.filter_cons_of_pos (by simpa using hbucket), List.filter_nil,
      if_neg (List.cons_ne_nil _ _)]
    rfl
  · rw [List.filter_cons_of_neg (by simpa using hbucket), List.filter_nil, if_pos rfl]
    rfl

/-- A registration that names the trained output as its source. -/
def sampleRequest (output : ProbabilisticCandidateOutput) : RegistrationRequest where
  modelName := "candidate"
  modelVersion := "1"
  mlflow :=
    { trackingUri := "file:mlruns", experimentName := "experiment", runId := "run",
      runUri := "runs:/run", artifactUri := "runs:/run/artifacts",
      registeredModelName := "candidate", modelVersion := "1",
      modelUri := "models:/candidate/1" }
  createdBy := "trainer"
  createdAt := ⟨0, 0⟩
  stateReason := "trained"
  sourceModelVersionId := some output.modelVersionId
  sourceModelVersionHash := some output.modelVersionHash

/-- One train row and one validation row: the candidate trained on them meets the conditions of its
report and has a registry record. -/
theorem candidate_two_rows :
    ∃ (run : @TrainingRunResult hashlibSha256) (output : ProbabilisticCandidateOutput),
      @trainProbabilisticCandidate hashlibSha256 ⟨String.toLower⟩
        (@twoRows hashlibSha256 (@lateRule hashlibSha256) 1 1) run none = .ok output ∧
      output.forecastIds.Nodup ∧ MeanInRange output.forecasts ∧
      ∃ record, @buildCandidateRegistryRecord hashlibSha256 ⟨String.toLower⟩ run
        (sampleRequest output) = .ok record := by
  let _ := hashlibSha256
  let _ : StrLower := ⟨String.toLower⟩
  obtain ⟨run, output, -, hrun, htrain, -⟩ := @exists_forecast_twoRows hashlibSha256
    ⟨String.toLower⟩ _ 1 1 moderate_samples.1 moderate_samples.1 distinctIds_lateRule.1
    samples_pass.1 samples_pass.2
  obtain ⟨hvalidate, hconfig, -⟩ := inputs_of_runTraining hrun
  obtain ⟨hinputs, hscored⟩ := inputs_of_train htrain
  have hsplits : evaluatedSplits none run = [.validation] := by
    change run.trainingConfig.evaluationSplits = _
    rw [hconfig]
    rfl
  rw [hsplits] at hscored
  -- the only evaluated row is the validation row
  obtain ⟨f, hforecasts, hby⟩ : ∃ f, output.forecasts = [f] ∧
      ScoredBy (twoRows lateRule 1 1) run (validationRow lateRule 1) f := by
    generalize output.forecasts = forecasts at hscored
    change List.Forall₂ _ [validationRow lateRule 1] _ at hscored
    cases hscored with
    | cons hby hrest =>
        cases hrest
        exact ⟨_, rfl, hby⟩
  have hf : f ∈ output.forecasts := by
    rw [hforecasts]
    exact List.mem_singleton_self f
  obtain ⟨bucket, stats, -, hstats, hpredicts⟩ := (predicts_of_train htrain).2
    (validationRow lateRule 1) (List.mem_cons_of_mem _ List.mem_cons_self) f hf hby.rowId
  rw [fittedLabels_of_twoRows] at hstats
  have hnone : f.uncertainty.val = 0 := by
    have hvalue := uncertainty_of_one
    rw [hstats] at hvalue
    rw [hpredicts.uncertainty]
    exact Option.some.inj hvalue
  have hids := (lineage_of_train htrain).1
  rw [Stamping.validate_eq_ok_iff] at hids
  have hfields : output.validateFields = .ok () := hids.1
  simp only [ProbabilisticCandidateOutput.validateFields, check_bind_eq_ok_iff,
    require_eq_ok_iff] at hfields
  refine ⟨run, output, htrain, ?_, ?_, ?_⟩
  · rw [hfields.2.2.1, hforecasts]
    exact List.nodup_singleton _
  · have hequal : ∀ forecast ∈ output.forecasts, forecast.uncertainty.val = 0 := by
      intro forecast hforecast
      rw [hforecasts, List.mem_singleton] at hforecast
      rw [hforecast, hnone]
    rw [meanInRange_of_equal (List.ne_nil_of_mem hf) hequal, hforecasts]
    simp [meanUncertainty, decimalSum, hnone]
  · have hdataset : run.datasetSnapshotId = buildDatasetSnapshotId run.datasetHash := by
      rw [hinputs.snapshotId, hinputs.datasetHash]
      rfl
    refine (candidate_record_iff hvalidate hdataset).mpr ⟨⟨rfl, rfl⟩, ?_, ?_⟩
    · constructor <;> (intro h; cases h)
    · rintro digest ⟨⟩
      exact hfields.1.2.2

theorem report_two_rows :
    ∃ (output : ProbabilisticCandidateOutput) (report : ModelValidationReport),
      (∀ f ∈ output.forecasts, @Forecast.validate hashlibSha256 f = .ok ()) ∧
      @buildModelValidationReport hashlibSha256 ⟨String.toLower⟩ perfectMetrics sampleFiles
        (@twoRows hashlibSha256 (@lateRule hashlibSha256) 1 1) output sampleEvidence none =
          .ok report := by
  let _ := hashlibSha256
  let _ : StrLower := ⟨String.toLower⟩
  let _ := perfectMetrics
  obtain ⟨run, output, htrain, hids, hmean, -⟩ := candidate_two_rows
  have hvalid := validArtifacts_of_train htrain
  have hrecord : ∀ cited ∈ (none : Option ModelRegistryRecord), ∃ request,
      buildCandidateRegistryRecord run request = .ok cited ∧
        request.sourceModelVersionId = some output.modelVersionId ∧
        request.sourceModelVersionHash = some output.modelVersionHash := by
    intro cited hcited
    cases hcited
  obtain ⟨report, hreport⟩ := (report_succeeds_iff hvalid).mpr
    ((reportInputs_of_train_iff htrain hrecord).mpr ⟨sampleEvidence_passes, hids, hmean⟩)
  exact ⟨output, report, hvalid.forecastsValid, hreport⟩

/-- The report on the candidate of two rows, which cites its registry record, is built. -/
theorem candidate_validated_two_rows :
    ∃ (run : @TrainingRunResult hashlibSha256) (output : ProbabilisticCandidateOutput)
      (record : @ModelRegistryRecord hashlibSha256) (report : ModelValidationReport),
      @trainProbabilisticCandidate hashlibSha256 ⟨String.toLower⟩
        (@twoRows hashlibSha256 (@lateRule hashlibSha256) 1 1) run none = .ok output ∧
      @buildCandidateRegistryRecord hashlibSha256 ⟨String.toLower⟩ run (sampleRequest output) =
        .ok record ∧
      @buildModelValidationReport hashlibSha256 ⟨String.toLower⟩ perfectMetrics sampleFiles
        (@twoRows hashlibSha256 (@lateRule hashlibSha256) 1 1) output sampleEvidence
        (some record) = .ok report := by
  obtain ⟨run, output, htrain, hids, hmean, record, hrecord⟩ := candidate_two_rows
  obtain ⟨report, hreport⟩ := (@candidate_validated_iff hashlibSha256 ⟨String.toLower⟩ _ _ _ _
    perfectMetrics sampleFiles sampleEvidence (some record) htrain (by
      rintro cited ⟨⟩
      exact ⟨_, hrecord, rfl, rfl⟩)).mpr ⟨sampleEvidence_passes, hids, hmean⟩
  exact ⟨run, output, record, report, htrain, hrecord, hreport⟩

end Samples

end TaModel.Validation
