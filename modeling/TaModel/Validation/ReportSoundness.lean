import TaModel.Validation.CandidatePipeline

/-!
# What a validation report certifies

A report is built only from forecasts that cover the rows of the evaluated splits, each once and each
with the facts of its row (`report_sound`), and a level that is predicted higher is never observed to
cover fewer labels (`coverage_monotone`).
-/

set_option autoImplicit false

namespace TaModel.Validation

open Contracts Datasets Library Training

variable [Sha256]

/-! ## Soundness -/

/-- What a reader may conclude from a report. -/
structure ReportSound (snapshot : DatasetSnapshot) (output : ProbabilisticCandidateOutput)
    (record : Option ModelRegistryRecord) (report : ModelValidationReport) : Prop where
  recommendation : report.recommendation = .continueResearch
  outOfSample : DatasetSplit.train ∉ report.evaluatedSplits
  covers : (output.forecasts.map Forecast.datasetRowId).Perm
    ((snapshot.rows.filter fun row => decide (row.split ∈ report.evaluatedSplits)).map
      DatasetRow.rowId)
  agrees : ∀ f ∈ output.forecasts, ∃ row ∈ snapshot.rows, row.rowId = f.datasetRowId ∧
    FieldsAgree snapshot f row
  counts : report.candidateMetrics.observationCount.val =
      (snapshot.rows.filter fun row => decide (row.split ∈ report.evaluatedSplits)).length ∧
    report.trainPriorBaseline.metrics.observationCount.val =
      report.candidateMetrics.observationCount.val
  ablation : report.sequenceAblation.metrics = report.trainPriorBaseline.metrics
  forecastIds : report.evaluatedForecastIds.Nodup
  cites : ∀ metadata ∈ report.registryMetadata, ∃ cited, record = some cited ∧
    Cites cited output metadata

/-- Every report recommends to continue research, covers the rows of the evaluated splits exactly
once and out of sample, scores no row against foreign facts, never tells the sequence ablation from
the train prior, and cites a registry record only while it is the candidate of the same run. -/
theorem report_sound [StrLower] [FloatMetrics] {files : EvidenceFiles} {snapshot : DatasetSnapshot}
    {output : ProbabilisticCandidateOutput} {evidence : BaselineEvidenceReference}
    {record : Option ModelRegistryRecord} {report : ModelValidationReport}
    (h : buildModelValidationReport files snapshot output evidence record = .ok report) :
    ReportSound snapshot output record report := by
  have hbuilt := builtFrom h
  obtain ⟨pairs, halignment, -, hcandidate, hbaseline, -, -, -, hablation, hmetadata⟩ := hbuilt.parts
  have hsplits : ∀ row : DatasetRow, row.split ∈ report.evaluatedSplits ↔
      row.split ∈ output.forecasts.map Forecast.split := by
    intro row
    rw [hbuilt.splits, mem_firstOccurrences]
  have hperm := halignment.perm
  simp only [← hsplits] at hperm
  refine
    { recommendation := hbuilt.recommendation
      outOfSample := ?_
      covers := hperm
      agrees := ?_
      counts := ⟨?_, ?_⟩
      ablation := ?_
      forecastIds := ?_
      cites := cites_of_suppliedMetadata hmetadata }
  · rw [hbuilt.splits, mem_firstOccurrences]
    intro htrain
    obtain ⟨f, hf, hsplit⟩ := List.mem_map.mp htrain
    obtain ⟨pair, -, -, haligned⟩ := exists_of_mem_left halignment.aligned hf
    exact haligned.outOfSample hsplit
  · intro f hf
    obtain ⟨pair, -, -, haligned⟩ := exists_of_mem_left halignment.aligned hf
    exact ⟨pair.2, haligned.mem.1, haligned.mem.2, haligned.agrees⟩
  · have hlength := hperm.length_eq
    rw [List.length_map, List.length_map] at hlength
    rw [observationCount_of_metricSet hcandidate, List.length_map, halignment.length_eq, hlength]
  · rw [observationCount_of_metricSet hcandidate, observationCount_of_metricSet hbaseline]
    simp only [List.length_map]
  · rw [hablation]
    rfl
  · rw [hbuilt.forecastIds.1]
    exact hbuilt.forecastIds.2

omit [Sha256] in
/-- A report on two rows says only what it may. -/
theorem report_sound_two_rows :
    ∃ (output : ProbabilisticCandidateOutput) (report : ModelValidationReport),
      @ReportSound hashlibSha256 (@twoRows hashlibSha256 (@lateRule hashlibSha256) 1 1) output none
        report := by
  obtain ⟨output, report, -, hreport⟩ := report_two_rows
  exact ⟨output, report, @report_sound hashlibSha256 ⟨String.toLower⟩ perfectMetrics _ _ _ _ _ _
    hreport⟩

/-! ## Coverage -/

/-- In the report on validated forecasts the levels increase and the observed coverage, although it
is rounded, never falls from one level to the next. -/
theorem coverage_monotone [StrLower] [FloatMetrics] {files : EvidenceFiles}
    {snapshot : DatasetSnapshot} {output : ProbabilisticCandidateOutput}
    {evidence : BaselineEvidenceReference} {record : Option ModelRegistryRecord}
    {report : ModelValidationReport} (hforecasts : ∀ f ∈ output.forecasts, f.validate = .ok ())
    (h : buildModelValidationReport files snapshot output evidence record = .ok report) :
    report.quantileCoverage.Pairwise fun lower higher =>
      lower.level.val < higher.level.val ∧ lower.observedCoverage ≤ higher.observedCoverage := by
  obtain ⟨pairs, halignment, -, -, -, hcoverage, -⟩ := (builtFrom h).parts
  have hquantiles : ∀ f ∈ output.forecasts, Forecast.validateQuantiles f.quantiles = .ok () := by
    intro f hf
    have hvalid := hforecasts f hf
    simp only [Forecast.validate, check_bind_eq_ok_iff] at hvalid
    exact hvalid.2.2.2.1
  obtain ⟨levels, -, hlevels⟩ := halignment.levels
  -- every pair has a validated forecast with the common levels
  have hpairs : ∀ pair ∈ pairs, Forecast.validateQuantiles pair.1.quantiles = .ok () ∧
      pair.1.quantiles.map ForecastQuantile.level = levels := by
    intro pair hpair
    obtain ⟨f, hf, rfl, -⟩ := exists_of_mem_right halignment.aligned hpair
    exact ⟨hquantiles _ hf, hlevels _ hf⟩
  cases pairs with
  | nil => cases hcoverage
  | cons first rest =>
      obtain ⟨hmetrics, hobserved⟩ := metrics_of_quantileCoverage hcoverage
      obtain ⟨hfirst, hfirstLevels⟩ := hpairs first List.mem_cons_self
      have hincreasing : report.quantileCoverage.Pairwise fun lower higher =>
          lower.level.val < higher.level.val := by
        have hordered := (pairwise_of_validateQuantiles hfirst).imp fun hlt => hlt.1
        rw [← List.pairwise_map (f := ForecastQuantile.level) (R := fun l l' => l.val < l'.val),
          ← hmetrics, List.pairwise_map] at hordered
        exact hordered
      refine hincreasing.imp_of_mem ?_
      intro lower higher hlower hhigher hlt
      refine ⟨hlt, ?_⟩
      rw [hobserved lower hlower, hobserved higher hhigher]
      apply observedCoverage_mono
      intro pair hpair
      obtain ⟨hvalid, hcommon⟩ := hpairs pair hpair
      apply coveredBy_mono hvalid hlt
      have hmem : higher.level ∈ pair.1.quantiles.map ForecastQuantile.level := by
        rw [hcommon, ← hfirstLevels, ← hmetrics]
        exact List.mem_map_of_mem hhigher
      obtain ⟨quantile, hquantile, heq⟩ := List.mem_map.mp hmem
      exact List.mem_map.mpr ⟨quantile, hquantile, by rw [heq]⟩

omit [Sha256] in
/-- The three levels of a report on two rows. -/
theorem coverage_monotone_two_rows :
    ∃ report : ModelValidationReport,
      report.quantileCoverage.Pairwise fun lower higher =>
        lower.level.val < higher.level.val ∧
          lower.observedCoverage ≤ higher.observedCoverage := by
  obtain ⟨output, report, hforecasts, hreport⟩ := report_two_rows
  exact ⟨report, @coverage_monotone hashlibSha256 ⟨String.toLower⟩ perfectMetrics _ _ _ _ _ _
    hforecasts hreport⟩

end TaModel.Validation
