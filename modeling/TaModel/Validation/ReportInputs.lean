import TaModel.Validation.ReportParts

/-!
# When a validation report is built

On validated artifacts `build_model_validation_report` asks for evidence files that decide PASS,
forecasts aligned with the snapshot, a probability for both classes and a mean uncertainty that stays
within the range of the uncertainties after rounding (`report_succeeds_iff`). Coverage, train prior
and digests never make it fail.
-/

set_option autoImplicit false

namespace TaModel.Validation

open Contracts Datasets Library Training

section Inputs

variable [Sha256]

/-! ## Uncertainty -/

/-- The computed mean lies between two of the uncertainties. Every step of the mean is rounded, so
this can fail. -/
def MeanInRange (forecasts : List Forecast) : Prop :=
  (∃ f ∈ forecasts, f.uncertainty.val ≤ meanUncertainty forecasts) ∧
    ∃ f ∈ forecasts, meanUncertainty forecasts ≤ f.uncertainty.val

omit [Sha256] in
theorem foldl_min_le_iff (forecasts : List Forecast) (first : NonNegativeDecimal) (bound : Decimal) :
    ((forecasts.map Forecast.uncertainty).foldl min first).val ≤ bound ↔
      first.val ≤ bound ∨ ∃ f ∈ forecasts, f.uncertainty.val ≤ bound := by
  induction forecasts generalizing first with
  | nil => simp
  | cons f forecasts ih =>
      have hmin : (min first f.uncertainty).val ≤ bound ↔
          first.val ≤ bound ∨ f.uncertainty.val ≤ bound := by
        rcases le_total first f.uncertainty with hle | hle
        · rw [min_eq_left hle]
          exact ⟨.inl, fun h => h.elim id fun h => le_trans hle h⟩
        · rw [min_eq_right hle]
          exact ⟨.inr, fun h => h.elim (fun h => le_trans hle h) id⟩
      rw [List.map_cons, List.foldl_cons, ih, hmin, List.exists_mem_cons_iff, or_assoc]

omit [Sha256] in
theorem le_foldl_max_iff (forecasts : List Forecast) (first : NonNegativeDecimal) (bound : Decimal) :
    bound ≤ ((forecasts.map Forecast.uncertainty).foldl max first).val ↔
      bound ≤ first.val ∨ ∃ f ∈ forecasts, bound ≤ f.uncertainty.val := by
  induction forecasts generalizing first with
  | nil => simp
  | cons f forecasts ih =>
      have hmax : bound ≤ (max first f.uncertainty).val ↔
          bound ≤ first.val ∨ bound ≤ f.uncertainty.val := by
        rcases le_total first f.uncertainty with hle | hle
        · rw [max_eq_right hle]
          exact ⟨.inr, fun h => h.elim (fun h => le_trans h hle) id⟩
        · rw [max_eq_left hle]
          exact ⟨.inl, fun h => h.elim id fun h => le_trans h hle⟩
      rw [List.map_cons, List.foldl_cons, ih, hmax, List.exists_mem_cons_iff, or_assoc]

omit [Sha256] in
/-- The summary is refused exactly when rounding carries the mean out of the range. -/
theorem uncertaintySummary_succeeds_iff (forecasts : List Forecast) :
    (∃ summary, uncertaintySummary forecasts = .ok summary) ↔ MeanInRange forecasts := by
  cases forecasts with
  | nil =>
      constructor
      · rintro ⟨summary, h⟩
        cases h
      · rintro ⟨⟨f, hf, -⟩, -⟩
        cases hf
  | cons first rest =>
      have hrange : MeanInRange (first :: rest) ↔
          ((rest.map Forecast.uncertainty).foldl min first.uncertainty).val ≤
              meanUncertainty (first :: rest) ∧
            meanUncertainty (first :: rest) ≤
              ((rest.map Forecast.uncertainty).foldl max first.uncertainty).val := by
        rw [MeanInRange, List.exists_mem_cons_iff, List.exists_mem_cons_iff, foldl_min_le_iff,
          le_foldl_max_iff]
      rw [hrange]
      constructor
      · rintro ⟨summary, h⟩
        rw [uncertaintySummary, UncertaintySummary.make] at h
        split_ifs at h with hmean hboth
        exact hboth
      · intro hboth
        have hmean : 0 ≤ meanUncertainty (first :: rest) := le_trans (Subtype.property _) hboth.1
        rw [uncertaintySummary, UncertaintySummary.make, dif_neg (not_not.mpr hmean),
          dif_neg (not_not.mpr hboth)]
        exact ⟨_, rfl⟩

omit [Sha256] in
/-- Equal uncertainties are accepted exactly when their rounded mean is the same value again. -/
theorem meanInRange_of_equal {forecasts : List Forecast} {u : Decimal} (hne : forecasts ≠ [])
    (h : ∀ f ∈ forecasts, f.uncertainty.val = u) :
    MeanInRange forecasts ↔ meanUncertainty forecasts = u := by
  constructor
  · rintro ⟨⟨f, hf, hlow⟩, ⟨f', hf', hhigh⟩⟩
    rw [h f hf] at hlow
    rw [h f' hf'] at hhigh
    exact le_antisymm hhigh hlow
  · intro hmean
    obtain ⟨f, hf⟩ := List.exists_mem_of_ne_nil _ hne
    exact ⟨⟨f, hf, (h f hf).trans_le hmean.ge⟩, ⟨f, hf, hmean.le.trans (h f hf).ge⟩⟩

-- three forecasts fitted to the labels 1, 0 and 0: the rounded mean falls below all of them
omit [Sha256] in
example {f : Forecast} (h : f.uncertainty.val = 4714045207910316829338962414 / 10 ^ 28) :
    ¬ MeanInRange [f, f, f] := by
  have hbelow : rounded (decimalSum [4714045207910316829338962414 / 10 ^ 28,
      4714045207910316829338962414 / 10 ^ 28, 4714045207910316829338962414 / 10 ^ 28] / 3) ≠
        4714045207910316829338962414 / 10 ^ 28 := by
    decide +kernel
  have hequal : ∀ forecast ∈ [f, f, f], forecast.uncertainty.val = f.uncertainty.val := by simp
  rw [meanInRange_of_equal (List.cons_ne_nil _ _) hequal, meanUncertainty]
  simpa [h] using hbelow

/-! ## Scores -/

/-- Both classes have a probability. -/
def HasClasses (probabilities : StringDict Decimal) : Prop :=
  (∃ p, probabilities.get "negative" = some p) ∧ ∃ p, probabilities.get "non_negative" = some p

omit [Sha256] in
theorem classProbability_succeeds_iff (probabilities : StringDict Decimal) (name : String) :
    (∃ p, classProbability probabilities name = .ok p) ↔
      ∃ p, probabilities.get name = some p := by
  unfold classProbability
  cases probabilities.get name with
  | none => simp
  | some p => simp

omit [Sha256] in
theorem observation_succeeds_iff (labelValue : Decimal) (probabilities : StringDict Decimal) :
    (∃ o, observation (classLabel labelValue, probabilities) = .ok o) ↔
      HasClasses probabilities := by
  rw [HasClasses, ← classProbability_succeeds_iff, ← classProbability_succeeds_iff]
  simp only [observation, bind_eq_ok_iff]
  constructor
  · rintro ⟨o, _, -, negative, hnegative, nonNegative, hnonNegative, -⟩
    exact ⟨⟨negative, hnegative⟩, ⟨nonNegative, hnonNegative⟩⟩
  · rintro ⟨⟨negative, hnegative⟩, ⟨nonNegative, hnonNegative⟩⟩
    -- the label is one of the two classes
    have hlabel : ∃ p, classProbability probabilities (classLabel labelValue) = .ok p := by
      unfold classLabel
      split_ifs
      · exact ⟨nonNegative, hnonNegative⟩
      · exact ⟨negative, hnegative⟩
    obtain ⟨p, hp⟩ := hlabel
    exact ⟨_, p, hp, negative, hnegative, nonNegative, hnonNegative, rfl⟩

omit [Sha256] in
theorem metricSet_succeeds_iff [FloatMetrics] (entries : List (String × StringDict Decimal)) :
    (∃ metrics, metricSet entries = .ok metrics) ↔
      entries ≠ [] ∧ ∀ entry ∈ entries, ∃ o, observation entry = .ok o := by
  unfold metricSet
  split_ifs with hnone
  · constructor
    · rintro ⟨metrics, h⟩
      cases h
    · rintro ⟨hne, -⟩
      exact absurd hnone hne
  · constructor
    · rintro ⟨metrics, h⟩
      obtain ⟨observations, hobservations, -⟩ := (bind_eq_ok_iff _ _ _).mp h
      refine ⟨hnone, fun entry hentry => ?_⟩
      obtain ⟨o, -, ho⟩ := exists_of_mem_left ((mapM_eq_ok_iff _ _ _).mp hobservations) hentry
      exact ⟨o, ho⟩
    · rintro ⟨-, hall⟩
      obtain ⟨observations, hobservations⟩ := exists_forall₂ hall
      rw [(mapM_eq_ok_iff _ _ _).mpr hobservations, ok_bind]
      exact ⟨_, rfl⟩

theorem metricsForForecasts_succeeds_iff [FloatMetrics] (pairs : List (Forecast × DatasetRow)) :
    (∃ metrics, metricsForForecasts pairs = .ok metrics) ↔
      pairs ≠ [] ∧ ∀ pair ∈ pairs, HasClasses pair.1.probabilities := by
  rw [metricsForForecasts, metricSet_succeeds_iff, Ne, List.map_eq_nil_iff, List.forall_mem_map]
  simp only [observation_succeeds_iff]

theorem hasClasses_trainPrior (train : List DatasetRow) :
    HasClasses (trainPriorProbabilities train) :=
  ⟨⟨_, rfl⟩, ⟨_, rfl⟩⟩

theorem exists_metricsForPrior [FloatMetrics] {rows : List DatasetRow} (hne : rows ≠ [])
    (train : List DatasetRow) :
    ∃ metrics, metricsForPrior rows (trainPriorProbabilities train) = .ok metrics := by
  rw [metricsForPrior, metricSet_succeeds_iff, Ne, List.map_eq_nil_iff, List.forall_mem_map]
  refine ⟨hne, fun row _ => ?_⟩
  exact (observation_succeeds_iff _ _).mpr (hasClasses_trainPrior train)

/-- The prior quantiles never fail on some train rows. -/
theorem exists_trainPriorQuantiles {train : List DatasetRow} (hne : train ≠ []) :
    ∃ quantiles, trainPriorQuantiles train = .ok quantiles := by
  have hlabels : train.map DatasetRow.labelValue ≠ [] := by simpa using hne
  have hall : ∀ level ∈ ([1 / 10, 1 / 2, 9 / 10] : List Decimal), ∃ value,
      nearestQuantile (train.map DatasetRow.labelValue) level = .ok value := by
    intro level hlevel
    have hbounds : 0 < level ∧ level ≤ 9 / 10 := by
      simp only [List.mem_cons, List.not_mem_nil, or_false] at hlevel
      rcases hlevel with rfl | rfl | rfl <;> norm_num
    obtain ⟨value, hvalue, -⟩ := nearestQuantile_eq_ok hlabels hbounds.1 hbounds.2
    exact ⟨value, hvalue⟩
  obtain ⟨quantiles, hquantiles⟩ := exists_forall₂ hall
  exact ⟨quantiles, (mapM_eq_ok_iff _ _ _).mpr hquantiles⟩

/-! ## Coverage -/

/-- A share stays a share when it is rounded. -/
theorem observedCoverage_mem_unit {pairs : List (Forecast × DatasetRow)}
    (hne : pairs ≠ [])
    (h : ∀ pair ∈ pairs, Forecast.validateQuantiles pair.1.quantiles = .ok ()) (level : Decimal) :
    0 ≤ observedCoverage pairs level ∧ observedCoverage pairs level ≤ 1 := by
  have hlength : (0 : Decimal) < pairs.length := by
    exact_mod_cast List.length_pos_iff.mpr hne
  have hone : ∀ pair ∈ pairs, coveredBy level pair ≤ 1 := by
    intro pair hpair
    refine le_trans (List.countP_mono_left ?_) (countP_level_le_one (h pair hpair) level)
    intro quantile _ hboth
    exact decide_eq_true (of_decide_eq_true hboth).1
  have hcount : (pairs.map (coveredBy level)).sum ≤ pairs.length := by
    have hsum := List.sum_le_card_nsmul (pairs.map (coveredBy level)) 1
      (List.forall_mem_map.mpr hone)
    simpa using hsum
  constructor
  · exact rounded_nonneg (div_nonneg (Nat.cast_nonneg _) hlength.le)
  · apply rounded_le_one
    rw [div_le_one hlength]
    exact_mod_cast hcount

omit [Sha256] in
theorem abs_rounded_le_one {q : ℚ} (h : |q| ≤ 1) : |rounded q| ≤ 1 := by
  obtain ⟨hlow, hhigh⟩ := abs_le.mp h
  refine abs_le.mpr ⟨?_, rounded_le_one hhigh⟩
  have hmono := rounded_mono hlow
  have hminus : rounded (-1) = -1 := by decide +kernel
  rwa [hminus] at hmono

theorem exists_quantileCoverage {pairs : List (Forecast × DatasetRow)} (hne : pairs ≠ [])
    (h : ∀ pair ∈ pairs, Forecast.validateQuantiles pair.1.quantiles = .ok ()) :
    ∃ metrics, quantileCoverage pairs = .ok metrics := by
  cases pairs with
  | nil => exact absurd rfl hne
  | cons first rest =>
      have hall : ∀ level ∈ first.1.quantiles.map ForecastQuantile.level, ∃ metric,
          QuantileCoverageMetric.make level (observedCoverage (first :: rest) level.val)
            |rounded (observedCoverage (first :: rest) level.val - level.val)| = .ok metric := by
        intro level _
        obtain ⟨hlow, hhigh⟩ := observedCoverage_mem_unit hne h level.val
        have herror : |observedCoverage (first :: rest) level.val - level.val| ≤ 1 := by
          rw [abs_le]
          constructor <;> linarith [level.property.1, level.property.2]
        rw [QuantileCoverageMetric.make, dif_neg (not_not.mpr ⟨hlow, hhigh⟩),
          dif_neg (not_not.mpr ⟨abs_nonneg _, abs_rounded_le_one herror⟩),
          dif_neg (not_not.mpr rfl)]
        exact ⟨_, rfl⟩
      obtain ⟨metrics, hmetrics⟩ := exists_forall₂ hall
      exact ⟨metrics, (mapM_eq_ok_iff _ _ _).mpr hmetrics⟩

/-! ## The report -/

/-- A registry record that a report on the output may cite. -/
structure Citable (output : ProbabilisticCandidateOutput) (record : ModelRegistryRecord) : Prop where
  run : record.trainingRunId = output.trainingRunId ∧
    record.trainingRunHash = output.trainingRunHash
  dataset : record.datasetSnapshotId = output.datasetSnapshotId ∧
    record.datasetHash = output.datasetHash
  state : record.currentState = .candidate
  source : record.sourceModelVersionId = some output.modelVersionId ∧
    record.sourceModelVersionHash = some output.modelVersionHash

theorem suppliedMetadata_succeeds_iff (record : Option ModelRegistryRecord)
    (output : ProbabilisticCandidateOutput) :
    (∃ supplied, suppliedMetadata record output = .ok supplied) ↔
      ∀ cited ∈ record, Citable output cited := by
  cases record with
  | none =>
      refine iff_of_true ⟨none, rfl⟩ ?_
      intro cited hcited
      cases hcited
  | some cited =>
      simp only [suppliedMetadata, registryMetadata, bind_eq_ok_iff, require_eq_ok_iff,
        Option.mem_some_iff, forall_eq']
      constructor
      · rintro ⟨supplied, metadata, ⟨_, hrun, _, hrunHash, _, hid, _, hhash, _, hstate, _, hsource,
          _, hsourceHash, -⟩, -⟩
        exact ⟨⟨hrun, hrunHash⟩, ⟨hid, hhash⟩, hstate, ⟨hsource, hsourceHash⟩⟩
      · intro h
        exact ⟨_, _, ⟨(), h.run.1, (), h.run.2, (), h.dataset.1, (), h.dataset.2, (), h.state, (),
          h.source.1, (), h.source.2, rfl⟩, rfl⟩

/-- What a report asks of validated artifacts. -/
structure ReportInputs (files : EvidenceFiles) (snapshot : DatasetSnapshot)
    (output : ProbabilisticCandidateOutput) (evidence : BaselineEvidenceReference)
    (record : Option ModelRegistryRecord) : Prop where
  evidence : validateBaselineEvidencePaths files evidence = .ok ()
  alignment : ∃ pairs, Alignment snapshot output pairs
  train : trainRows snapshot.rows ≠ []
  classes : ∀ f ∈ output.forecasts, HasClasses f.probabilities
  uncertainty : MeanInRange output.forecasts
  forecastIds : output.forecastIds.Nodup
  record : ∀ cited ∈ record, Citable output cited

/-- The artifacts have passed their own validators. -/
structure ValidArtifacts (snapshot : DatasetSnapshot) (output : ProbabilisticCandidateOutput) :
    Prop where
  snapshotId : snapshot.datasetSnapshotId = buildDatasetSnapshotId snapshot.datasetHash
  outputValid : ProbabilisticCandidateOutput.stamping.validate output = .ok ()
  forecastsValid : ∀ f ∈ output.forecasts, f.validate = .ok ()

/-- The ids a report takes from a validated output. -/
theorem ids_of_output {snapshot : DatasetSnapshot} {output : ProbabilisticCandidateOutput}
    (h : ValidArtifacts snapshot output) :
    (isHexDigest output.datasetHash = true ∧ isHexDigest output.trainingRunHash = true ∧
      isHexDigest output.modelVersionHash = true ∧ isHexDigest output.outputHash = true) ∧
    (output.forecastIds ≠ [] ∧ output.forecasts ≠ []) ∧
    output.trainingRunId = Forecast.buildTrainingRunId output.trainingRunHash ∧
    output.modelVersionId = Forecast.buildModelVersionId output.modelVersionHash ∧
    output.outputId = stableIdOfHash "PROBOUTPUT" "output_hash" output.outputHash := by
  obtain ⟨hfields, hhash, hid⟩ :=
    (ProbabilisticCandidateOutput.stamping.validate_eq_ok_iff output).mp h.outputValid
  change output.outputHash = output.buildHash at hhash
  change output.outputId = stableIdOfHash "PROBOUTPUT" "output_hash" output.buildHash at hid
  change output.validateFields = .ok () at hfields
  simp only [ProbabilisticCandidateOutput.validateFields, check_bind_eq_ok_iff, require_eq_ok_iff,
    forM_eq_ok_iff, ProbabilisticCandidateOutput.validateForecast] at hfields
  obtain ⟨⟨hdataset, hrun, hversion⟩, hne, -, hall⟩ := hfields
  -- the ids are checked by the forecasts, which share them with the output
  obtain ⟨f, hf⟩ := List.exists_mem_of_ne_nil _ hne.2
  obtain ⟨-, -, hrunId, hrunHash, hversionId, hversionHash⟩ := hall f hf
  have hforecast := h.forecastsValid f hf
  simp only [Forecast.validate, check_bind_eq_ok_iff, require_eq_ok_iff] at hforecast
  obtain ⟨-, -, -, -, -, hrunOf, hname⟩ := hforecast
  cases hget : f.calibrationMetadata.get "candidate_name" with
  | none =>
      rw [hget] at hname
      cases hname
  | some name =>
      rw [hget] at hname
      simp only [check_bind_eq_ok_iff, require_eq_ok_iff] at hname
      refine ⟨⟨hdataset, hrun, hversion, ?_⟩, hne, ?_, ?_, ?_⟩
      · rw [hhash]
        exact isHexDigest_hash _
      · rw [← hrunId, ← hrunHash]
        exact hrunOf
      · rw [← hversionId, ← hversionHash]
        exact hname.2.1
      · rw [hid, hhash]

/-- On validated artifacts a report is built exactly when its inputs are in order: no share, rank,
coverage or digest makes it fail. -/
theorem report_succeeds_iff [StrLower] [FloatMetrics] {files : EvidenceFiles}
    {snapshot : DatasetSnapshot} {output : ProbabilisticCandidateOutput}
    {evidence : BaselineEvidenceReference} {record : Option ModelRegistryRecord}
    (hvalid : ValidArtifacts snapshot output) :
    (∃ report, buildModelValidationReport files snapshot output evidence record = .ok report) ↔
      ReportInputs files snapshot output evidence record := by
  obtain ⟨⟨hdataset, hrun, hversion, houtput⟩, hne, hrunId, hversionId, houtputId⟩ :=
    ids_of_output hvalid
  constructor
  · rintro ⟨report, h⟩
    have hbuilt := builtFrom h
    obtain ⟨pairs, halignment, htrain, hcandidate, -, -, huncertainty, -, -, hmetadata⟩ :=
      hbuilt.parts
    obtain ⟨-, hclasses⟩ := (metricsForForecasts_succeeds_iff _).mp ⟨_, hcandidate⟩
    refine ⟨hbuilt.evidence, ⟨pairs, halignment⟩, htrain, ?_,
      (uncertaintySummary_succeeds_iff _).mp ⟨_, huncertainty⟩, hbuilt.forecastIds.2,
      (suppliedMetadata_succeeds_iff _ _).mp ⟨_, hmetadata⟩⟩
    intro f hf
    obtain ⟨pair, hpair, rfl, -⟩ := exists_of_mem_left halignment.aligned hf
    exact hclasses pair hpair
  · intro h
    obtain ⟨pairs, halignment⟩ := h.alignment
    have hpairs : pairs ≠ [] := by
      rw [← List.length_pos_iff, halignment.length_eq]
      exact List.length_pos_iff.mpr hne.2
    have hpairForecasts : ∀ pair ∈ pairs, pair.1 ∈ output.forecasts := by
      intro pair hpair
      obtain ⟨f, hf, rfl, -⟩ := exists_of_mem_right halignment.aligned hpair
      exact hf
    have hquantiles : ∀ pair ∈ pairs, Forecast.validateQuantiles pair.1.quantiles = .ok () := by
      intro pair hpair
      have hforecast := hvalid.forecastsValid _ (hpairForecasts pair hpair)
      simp only [Forecast.validate, check_bind_eq_ok_iff] at hforecast
      exact hforecast.2.2.2.1
    obtain ⟨candidateMetrics, hcandidate⟩ := (metricsForForecasts_succeeds_iff pairs).mpr
      ⟨hpairs, fun pair hpair => h.classes _ (hpairForecasts pair hpair)⟩
    obtain ⟨priorQuantiles, hpriorQuantiles⟩ := exists_trainPriorQuantiles h.train
    obtain ⟨baselineMetrics, hbaseline⟩ := @exists_metricsForPrior _ _ (pairs.map Prod.snd)
      (by simpa using hpairs) (trainRows snapshot.rows)
    obtain ⟨coverage, hcoverage⟩ := exists_quantileCoverage hpairs hquantiles
    obtain ⟨uncertainty, huncertainty⟩ := (uncertaintySummary_succeeds_iff _).mpr h.uncertainty
    obtain ⟨metadata, hmetadata⟩ := (suppliedMetadata_succeeds_iff _ _).mpr h.record
    simp only [buildModelValidationReport, bind_eq_ok_iff, require_eq_ok_iff]
    refine ⟨_, (), h.evidence, pairs, (validateForecastAlignment_eq_ok_iff _ _ _).mpr halignment,
      (), h.train, candidateMetrics, hcandidate, priorQuantiles, hpriorQuantiles, baselineMetrics,
      hbaseline, baselineMetrics, hbaseline, coverage, hcoverage, uncertainty, huncertainty,
      metadata, hmetadata, (ModelValidationReport.stamping.construct_eq_ok_iff _ _).mpr ⟨?_, rfl⟩⟩
    change ModelValidationReport.validateFields _ = _
    simp only [ModelValidationReport.validateFields, check_bind_eq_ok_iff, require_eq_ok_iff]
    have hcited : ∀ m ∈ metadata, m.sourceModelVersionId = output.modelVersionId ∧
        m.sourceModelVersionHash = output.modelVersionHash := by
      cases record with
      | none =>
          cases hmetadata
          intro m hm
          cases hm
      | some cited =>
          obtain ⟨reference, hreference, hsupplied⟩ := (bind_eq_ok_iff _ _ _).mp hmetadata
          cases hsupplied
          simp only [registryMetadata, check_bind_eq_ok_iff] at hreference
          obtain ⟨-, -, -, -, -, -, -, hok⟩ := hreference
          cases hok
          rintro m ⟨⟩
          exact ⟨rfl, rfl⟩
    obtain ⟨f, hf⟩ := List.exists_mem_of_ne_nil _ hne.2
    refine ⟨⟨halignment.datasetHash ▸ hdataset, hrun, hversion, houtput⟩, ?_, hne.1,
      h.forecastIds, hvalid.snapshotId, hrunId, hversionId, houtputId, fun m hm => (hcited m hm).1,
      fun m hm => (hcited m hm).2, fun hpass => absurd hpass.1 (by decide),
      .inr (List.cons_ne_nil _ _)⟩
    exact List.ne_nil_of_mem ((mem_firstOccurrences _ _).mpr (List.mem_map_of_mem hf))

end Inputs

end TaModel.Validation
