import TaModel.Validation.ModelReport
import Mathlib.Algebra.Order.BigOperators.Group.List

/-!
# The parts of a validation report

What the alignment of forecasts with rows establishes, what the coverage of a level counts, and how a
report that was built is put together (`builtFrom`).
-/

set_option autoImplicit false

namespace TaModel.Validation

open Contracts Datasets Library Training

variable [Sha256]

/-! ## Alignment -/

/-- A forecast states the facts of its row. -/
structure FieldsAgree (snapshot : DatasetSnapshot) (f : Forecast) (row : DatasetRow) : Prop where
  snapshotId : f.datasetSnapshotId = snapshot.datasetSnapshotId
  datasetHash : f.datasetHash = snapshot.datasetHash
  vectorId : f.featureVectorId = row.featureVectorId
  inputId : f.featureInputSnapshotId = row.featureInputSnapshotId
  version : f.featureVersion = row.featureVersion
  sources : f.sourceFeatureSnapshotIds = row.sourceFeatureSnapshotIds.map Subtype.val
  featureTs : f.featureTs.utc = row.featureTs.utc
  inSplit : f.split = row.split
  instrument : f.instrumentId = row.instrumentId
  venue : f.venueId = row.venueId
  rule : f.labelRuleId = row.labelRuleId

theorem mismatches_eq_nil_iff (f : Forecast) (row : DatasetRow) (snapshot : DatasetSnapshot) :
    mismatches f row snapshot = [] ↔ FieldsAgree snapshot f row := by
  rw [mismatches, List.map_eq_nil_iff, List.filter_eq_nil_iff]
  simp only [List.forall_mem_cons, Bool.not_eq_true', Bool.not_eq_false, decide_eq_true_eq,
    AwareDatetime.sameInstant, beq_iff_eq]
  constructor
  · rintro ⟨h1, h2, h3, h4, h5, h6, h7, h8, h9, h10, h11, -⟩
    exact ⟨h1, h2, h3, h4, h5, h6, h7, h8, h9, h10, h11⟩
  · intro h
    exact ⟨h.snapshotId, h.datasetHash, h.vectorId, h.inputId, h.version, h.sources, h.featureTs,
      h.inSplit, h.instrument, h.venue, h.rule, List.forall_mem_nil _⟩

/-- A forecast beside the row it was made for. -/
structure Aligned (snapshot : DatasetSnapshot) (f : Forecast) (row : DatasetRow) : Prop where
  found : (snapshot.rows.find? fun row => decide (row.rowId = f.datasetRowId)) = some row
  agrees : FieldsAgree snapshot f row
  outOfSample : f.split ≠ .train

theorem Aligned.mem {snapshot : DatasetSnapshot} {f : Forecast} {row : DatasetRow}
    (h : Aligned snapshot f row) : row ∈ snapshot.rows ∧ row.rowId = f.datasetRowId := by
  have htest := List.find?_some h.found
  simp only [decide_eq_true_eq] at htest
  exact ⟨List.mem_of_find?_eq_some h.found, htest⟩

/-- All forecasts have the levels that are expected, if any are. -/
def SameLevels (expectedLevels : Option (List {q : Decimal // 0 < q ∧ q < 1}))
    (forecasts : List Forecast) : Prop :=
  ∃ levels, (∀ expected ∈ expectedLevels, levels = expected) ∧
    ∀ f ∈ forecasts, f.quantiles.map ForecastQuantile.level = levels

omit [Sha256] in
theorem sameLevels_cons_iff (expectedLevels : Option (List {q : Decimal // 0 < q ∧ q < 1}))
    (f : Forecast) (forecasts : List Forecast) :
    SameLevels expectedLevels (f :: forecasts) ↔
      (∀ expected ∈ expectedLevels, f.quantiles.map ForecastQuantile.level = expected) ∧
        SameLevels (some (f.quantiles.map ForecastQuantile.level)) forecasts := by
  constructor
  · rintro ⟨levels, hexpected, hall⟩
    obtain ⟨rfl, hrest⟩ := List.forall_mem_cons.mp hall
    refine ⟨hexpected, _, ?_, hrest⟩
    rintro expected ⟨⟩
    rfl
  · rintro ⟨hexpected, levels, hhead, hrest⟩
    have hlevels := hhead _ rfl
    subst hlevels
    exact ⟨_, hexpected, List.forall_mem_cons.mpr ⟨rfl, hrest⟩⟩

theorem validateForecastRow_eq_ok_iff (f : Forecast) (row : DatasetRow)
    (snapshot : DatasetSnapshot) :
    validateForecastRow f row snapshot = .ok () ↔ FieldsAgree snapshot f row ∧ f.split ≠ .train := by
  simp only [validateForecastRow, check_bind_eq_ok_iff, require_eq_ok_iff, mismatches_eq_nil_iff]

/-- The loop succeeds exactly on forecasts with the same levels, each beside its row. -/
theorem alignForecasts_eq_ok_iff (snapshot : DatasetSnapshot) (forecasts : List Forecast)
    (expectedLevels : Option (List {q : Decimal // 0 < q ∧ q < 1}))
    (pairs : List (Forecast × DatasetRow)) :
    alignForecasts snapshot expectedLevels forecasts = .ok pairs ↔
      SameLevels expectedLevels forecasts ∧
        List.Forall₂ (fun f pair => pair.1 = f ∧ Aligned snapshot f pair.2) forecasts pairs := by
  induction forecasts generalizing expectedLevels pairs with
  | nil =>
      rw [List.forall₂_nil_left_iff]
      constructor
      · intro h
        cases h
        refine ⟨?_, rfl⟩
        cases expectedLevels with
        | none =>
            refine ⟨[], ?_, List.forall_mem_nil _⟩
            intro expected hexpected
            cases hexpected
        | some levels =>
            refine ⟨levels, ?_, List.forall_mem_nil _⟩
            rintro expected ⟨⟩
            rfl
      · rintro ⟨-, rfl⟩
        rfl
  | cons f forecasts ih =>
      rw [sameLevels_cons_iff, alignForecasts, check_bind_eq_ok_iff, require_eq_ok_iff, and_assoc]
      refine and_congr_right fun _ => ?_
      cases hfind : snapshot.rows.find? fun row => decide (row.rowId = f.datasetRowId) with
      | none =>
          constructor
          · intro h
            cases h
          · rintro ⟨-, hpairs⟩
            cases hpairs with
            | cons haligned _ => exact absurd (hfind.symm.trans haligned.2.found) (by simp)
      | some row =>
          dsimp only
          rw [check_bind_eq_ok_iff, validateForecastRow_eq_ok_iff, bind_eq_ok_iff]
          constructor
          · rintro ⟨hrow, aligned, haligned, hpairs⟩
            cases hpairs
            obtain ⟨hlevels, hrest⟩ := (ih _ _).mp haligned
            exact ⟨hlevels, .cons ⟨rfl, hfind, hrow.1, hrow.2⟩ hrest⟩
          · rintro ⟨hlevels, hpairs⟩
            cases hpairs with
            | @cons _ pair _ pairs haligned hrest =>
                obtain ⟨other, row'⟩ := pair
                obtain ⟨rfl, haligned⟩ := haligned
                have hsame : row = row' := Option.some.inj (hfind.symm.trans haligned.found)
                subst hsame
                exact ⟨⟨haligned.agrees, haligned.outOfSample⟩, pairs,
                  (ih _ _).mpr ⟨hlevels, hrest⟩, rfl⟩

/-- What `_validate_forecast_alignment` asks, and what it returns. -/
structure Alignment (snapshot : DatasetSnapshot) (output : ProbabilisticCandidateOutput)
    (pairs : List (Forecast × DatasetRow)) : Prop where
  snapshotId : output.datasetSnapshotId = snapshot.datasetSnapshotId
  datasetHash : output.datasetHash = snapshot.datasetHash
  rows_distinct : (snapshot.rows.map DatasetRow.rowId).Nodup
  forecasts_distinct : (output.forecasts.map Forecast.datasetRowId).Nodup
  covers : ∀ id, id ∈ output.forecasts.map Forecast.datasetRowId ↔
    id ∈ (snapshot.rows.filter fun row =>
      decide (row.split ∈ output.forecasts.map Forecast.split)).map DatasetRow.rowId
  levels : SameLevels none output.forecasts
  aligned : List.Forall₂ (fun f pair => pair.1 = f ∧ Aligned snapshot f pair.2)
    output.forecasts pairs

theorem validateForecastAlignment_eq_ok_iff (snapshot : DatasetSnapshot)
    (output : ProbabilisticCandidateOutput) (pairs : List (Forecast × DatasetRow)) :
    validateForecastAlignment snapshot output = .ok pairs ↔ Alignment snapshot output pairs := by
  simp only [validateForecastAlignment, check_bind_eq_ok_iff, require_eq_ok_iff,
    alignForecasts_eq_ok_iff]
  constructor
  · rintro ⟨hid, hhash, hrows, hforecasts, ⟨hknown, hcovered⟩, hlevels, haligned⟩
    exact ⟨hid, hhash, hrows, hforecasts, fun id => ⟨hknown id, hcovered id⟩, hlevels, haligned⟩
  · intro h
    exact ⟨h.snapshotId, h.datasetHash, h.rows_distinct, h.forecasts_distinct,
      ⟨fun id => (h.covers id).mp, fun id => (h.covers id).mpr⟩, h.levels, h.aligned⟩

theorem Alignment.length_eq {snapshot : DatasetSnapshot} {output : ProbabilisticCandidateOutput}
    {pairs : List (Forecast × DatasetRow)} (h : Alignment snapshot output pairs) :
    pairs.length = output.forecasts.length :=
  h.aligned.length_eq.symm

/-- Each row of an evaluated split has exactly one forecast. -/
theorem Alignment.perm {snapshot : DatasetSnapshot} {output : ProbabilisticCandidateOutput}
    {pairs : List (Forecast × DatasetRow)} (h : Alignment snapshot output pairs) :
    (output.forecasts.map Forecast.datasetRowId).Perm
      ((snapshot.rows.filter fun row =>
        decide (row.split ∈ output.forecasts.map Forecast.split)).map DatasetRow.rowId) := by
  refine (List.perm_ext_iff_of_nodup h.forecasts_distinct ?_).mpr h.covers
  exact h.rows_distinct.sublist (List.filter_sublist.map _)

/-! ## The parts of a report -/

omit [Sha256] in
theorem observationCount_of_metricSet [FloatMetrics]
    {entries : List (String × StringDict Decimal)} {metrics : ModelMetricSet}
    (h : metricSet entries = .ok metrics) : metrics.observationCount.val = entries.length := by
  unfold metricSet at h
  split_ifs at h with hnone
  obtain ⟨observations, -, hmetrics⟩ := (bind_eq_ok_iff _ _ _).mp h
  cases hmetrics
  rfl

/-- The registry record a report may cite. -/
structure Cites (record : ModelRegistryRecord) (output : ProbabilisticCandidateOutput)
    (metadata : RegistryMetadataReference) : Prop where
  recordId : metadata.registryRecordId = record.registryRecordId
  recordHash : metadata.registryRecordHash = record.registryRecordHash
  isCandidate : record.currentState = .candidate
  sameRun : record.trainingRunId = output.trainingRunId ∧
    record.trainingRunHash = output.trainingRunHash
  sameDataset : record.datasetSnapshotId = output.datasetSnapshotId ∧
    record.datasetHash = output.datasetHash
  sameModel : record.sourceModelVersionId = some output.modelVersionId ∧
    record.sourceModelVersionHash = some output.modelVersionHash

theorem cites_of_suppliedMetadata {record : Option ModelRegistryRecord}
    {output : ProbabilisticCandidateOutput} {supplied : Option RegistryMetadataReference}
    (h : suppliedMetadata record output = .ok supplied) :
    ∀ metadata ∈ supplied, ∃ cited, record = some cited ∧ Cites cited output metadata := by
  rintro metadata hmetadata
  cases record with
  | none =>
      cases h
      cases hmetadata
  | some cited =>
      obtain ⟨reference, hreference, hsupplied⟩ := (bind_eq_ok_iff _ _ _).mp h
      cases hsupplied
      cases hmetadata
      simp only [registryMetadata, check_bind_eq_ok_iff, require_eq_ok_iff] at hreference
      obtain ⟨hrun, hrunHash, hdataset, hdatasetHash, hstate, hsource, hsourceHash, hok⟩ :=
        hreference
      cases hok
      exact ⟨cited, rfl, rfl, rfl, hstate, ⟨hrun, hrunHash⟩, ⟨hdataset, hdatasetHash⟩,
        ⟨hsource, hsourceHash⟩⟩

/-- How a report was put together. -/
structure BuiltFrom [StrLower] [FloatMetrics] (files : EvidenceFiles) (snapshot : DatasetSnapshot)
    (output : ProbabilisticCandidateOutput) (evidence : BaselineEvidenceReference)
    (record : Option ModelRegistryRecord) (report : ModelValidationReport) : Prop where
  evidence : validateBaselineEvidencePaths files evidence = .ok ()
  parts : ∃ pairs, Alignment snapshot output pairs ∧ trainRows snapshot.rows ≠ [] ∧
    metricsForForecasts pairs = .ok report.candidateMetrics ∧
    metricsForPrior (pairs.map Prod.snd) (trainPriorProbabilities (trainRows snapshot.rows)) =
      .ok report.trainPriorBaseline.metrics ∧
    quantileCoverage pairs = .ok report.quantileCoverage ∧
    uncertaintySummary output.forecasts = .ok report.uncertaintySummary ∧
    report.trainPriorBaseline =
      trainPriorComparison report.candidateMetrics report.trainPriorBaseline.metrics ∧
    report.sequenceAblation =
      sequenceAblation report.candidateMetrics report.trainPriorBaseline.metrics ∧
    suppliedMetadata record output = .ok report.registryMetadata
  splits : report.evaluatedSplits = firstOccurrences (output.forecasts.map Forecast.split)
  forecastIds : report.evaluatedForecastIds = output.forecastIds ∧ output.forecastIds.Nodup
  recommendation : report.recommendation = .continueResearch
  valid : ModelValidationReport.stamping.validate report = .ok ()

theorem builtFrom [StrLower] [FloatMetrics] {files : EvidenceFiles} {snapshot : DatasetSnapshot}
    {output : ProbabilisticCandidateOutput} {evidence : BaselineEvidenceReference}
    {record : Option ModelRegistryRecord} {report : ModelValidationReport}
    (h : buildModelValidationReport files snapshot output evidence record = .ok report) :
    BuiltFrom files snapshot output evidence record report := by
  simp only [buildModelValidationReport, bind_eq_ok_iff, require_eq_ok_iff] at h
  obtain ⟨_, hevidence, pairs, hpairs, _, htrain, candidateMetrics, hcandidate, _, -,
    baselineMetrics, hbaseline, ablationMetrics, hablation, coverage, hcoverage, uncertainty,
    huncertainty, metadata, hmetadata, hconstruct⟩ := h
  have hvalid := ModelValidationReport.stamping.validate_of_construct hconstruct
  obtain ⟨hfields, rfl⟩ := (ModelValidationReport.stamping.construct_eq_ok_iff _ _).mp hconstruct
  -- the two comparators are scored on the same rows with the same prior
  have hsame : ablationMetrics = baselineMetrics := Except.ok.inj (hablation.symm.trans hbaseline)
  subst hsame
  change ModelValidationReport.validateFields _ = _ at hfields
  simp only [ModelValidationReport.validateFields, check_bind_eq_ok_iff, require_eq_ok_iff]
    at hfields
  obtain ⟨-, -, -, hnodup, -⟩ := hfields
  exact
    { evidence := hevidence
      parts := ⟨pairs, (validateForecastAlignment_eq_ok_iff _ _ _).mp hpairs, htrain, hcandidate,
        hbaseline, hcoverage, huncertainty, rfl, rfl, hmetadata⟩
      splits := rfl
      forecastIds := ⟨rfl, hnodup⟩
      recommendation := rfl
      valid := hvalid }

/-! ## Coverage -/

omit [Sha256] in
/-- Later quantiles have higher levels and values that are no lower. -/
theorem pairwise_of_validateQuantiles {quantiles : List ForecastQuantile}
    (h : Forecast.validateQuantiles quantiles = .ok ()) :
    quantiles.Pairwise fun q q' => q.level.val < q'.level.val ∧ q.value ≤ q'.value := by
  induction quantiles with
  | nil => exact .nil
  | cons previous rest ih =>
      cases rest with
      | nil => exact List.pairwise_singleton _ _
      | cons quantile rest =>
          simp only [Forecast.validateQuantiles, check_bind_eq_ok_iff, require_eq_ok_iff] at h
          obtain ⟨hlevel, hvalue, hrest⟩ := h
          have htail := ih hrest
          refine List.pairwise_cons.mpr ⟨?_, htail⟩
          intro q' hq'
          rcases List.mem_cons.mp hq' with rfl | hmem
          · exact ⟨hlevel, hvalue⟩
          · obtain ⟨hlevel', hvalue'⟩ := (List.pairwise_cons.mp htail).1 q' hmem
            exact ⟨hlevel.trans hlevel', hvalue.trans hvalue'⟩

omit [Sha256] in
/-- Of two quantiles the one with the higher level does not have the lower value. -/
theorem value_le_of_level_lt {quantiles : List ForecastQuantile}
    (h : Forecast.validateQuantiles quantiles = .ok ()) {q q' : ForecastQuantile}
    (hq : q ∈ quantiles) (hq' : q' ∈ quantiles) (hlevel : q.level.val < q'.level.val) :
    q.value ≤ q'.value := by
  have hpairwise := pairwise_of_validateQuantiles h
  obtain ⟨i, hi, rfl⟩ := List.mem_iff_getElem.mp hq
  obtain ⟨j, hj, rfl⟩ := List.mem_iff_getElem.mp hq'
  rcases lt_trichotomy i j with hlt | heq | hgt
  · exact (List.pairwise_iff_getElem.mp hpairwise i j hi hj hlt).2
  · subst heq
    exact absurd hlevel (lt_irrefl _)
  · have hback := (List.pairwise_iff_getElem.mp hpairwise j i hj hi hgt).1
    exact absurd hlevel hback.asymm

omit [Sha256] in
/-- A level occurs at most once. -/
theorem countP_level_le_one {quantiles : List ForecastQuantile}
    (h : Forecast.validateQuantiles quantiles = .ok ()) (level : Decimal) :
    (quantiles.countP fun quantile => decide (quantile.level.val = level)) ≤ 1 := by
  have hlevels : (quantiles.map fun quantile => quantile.level.val).Nodup := by
    rw [List.Nodup, List.pairwise_map]
    exact (pairwise_of_validateQuantiles h).imp fun hlt => hlt.1.ne
  have hcount := List.nodup_iff_count_le_one.mp hlevels level
  rw [List.count, List.countP_map] at hcount
  refine le_trans (List.countP_mono_left ?_) hcount
  intro quantile _ hlevel
  simpa using hlevel

/-- One forecast covers its label at a higher level whenever it does at a lower one. -/
theorem coveredBy_mono {pair : Forecast × DatasetRow}
    (h : Forecast.validateQuantiles pair.1.quantiles = .ok ()) {level level' : Decimal}
    (hlt : level < level')
    (hmem : level' ∈ pair.1.quantiles.map fun quantile => quantile.level.val) :
    coveredBy level pair ≤ coveredBy level' pair := by
  rcases Nat.eq_zero_or_pos (coveredBy level pair) with hnone | hsome
  · rw [hnone]
    exact Nat.zero_le _
  · obtain ⟨q, hq, hcovers⟩ := List.countP_pos_iff.mp hsome
    obtain ⟨hlevel, hlabel⟩ := of_decide_eq_true hcovers
    obtain ⟨q', hq', hlevel'⟩ := List.mem_map.mp hmem
    have hvalue : q.value ≤ q'.value := by
      apply value_le_of_level_lt h hq hq'
      rw [hlevel, hlevel']
      exact hlt
    have hone : coveredBy level pair ≤ 1 := by
      refine le_trans (List.countP_mono_left ?_) (countP_level_le_one h level)
      intro quantile _ hboth
      exact decide_eq_true (of_decide_eq_true hboth).1
    have hpos : 0 < coveredBy level' pair :=
      List.countP_pos_iff.mpr ⟨q', hq', decide_eq_true ⟨hlevel', hlabel.trans hvalue⟩⟩
    exact hone.trans hpos

theorem observedCoverage_mono {pairs : List (Forecast × DatasetRow)} {level level' : Decimal}
    (h : ∀ pair ∈ pairs, coveredBy level pair ≤ coveredBy level' pair) :
    observedCoverage pairs level ≤ observedCoverage pairs level' := by
  apply rounded_mono
  apply div_le_div_of_nonneg_right _ (Nat.cast_nonneg _)
  exact_mod_cast List.sum_le_sum h

omit [Sha256] in
theorem make_eq_ok {level : {q : Decimal // 0 < q ∧ q < 1}} {observed error : Decimal}
    {metric : QuantileCoverageMetric}
    (h : QuantileCoverageMetric.make level observed error = .ok metric) :
    metric.level = level ∧ metric.observedCoverage = observed := by
  unfold QuantileCoverageMetric.make at h
  split_ifs at h
  cases h
  exact ⟨rfl, rfl⟩

/-- The metrics are those of the levels of the first forecast. -/
theorem metrics_of_quantileCoverage {first : Forecast × DatasetRow}
    {rest : List (Forecast × DatasetRow)} {metrics : List QuantileCoverageMetric}
    (h : quantileCoverage (first :: rest) = .ok metrics) :
    metrics.map QuantileCoverageMetric.level = first.1.quantiles.map ForecastQuantile.level ∧
      ∀ metric ∈ metrics,
        metric.observedCoverage = observedCoverage (first :: rest) metric.level.val := by
  have hmetrics := (mapM_eq_ok_iff _ _ _).mp h
  constructor
  · have hlevels := map_eq_of_forall₂ (f := id) (g := QuantileCoverageMetric.level) hmetrics
      fun level metric hmake => (make_eq_ok hmake).1.symm
    rw [← hlevels, List.map_id]
  · intro metric hmem
    obtain ⟨level, -, hmake⟩ := exists_of_mem_right hmetrics hmem
    obtain ⟨rfl, hobserved⟩ := make_eq_ok hmake
    exact hobserved

end TaModel.Validation
