import TaModel.Baselines.PointInTime
import TaModel.Contracts.Evaluation
import TaModel.Evaluation.Scorecard

/-!
# Scorecards of baseline reports

`build_evaluation_scorecard` scores every report on every split and compares it with a benchmark row
by row. The comparison fails on rows that are not aligned; the rows of baselines run on one dataset
always are (`baseline_runs_scored`).
-/

set_option autoImplicit false

namespace TaModel.Evaluation

open Contracts Library

/-! ## Metrics -/

/-- `_metric`. -/
def metricOf (value : Option Decimal) (reason : String) : EvaluationMetric :=
  match value with
  | none => .notApplicable reason
  | some value => .available value

/-- `_sum_tuple`. -/
def sumTuple (values : List Decimal) : Option Decimal :=
  if values = [] then none else some values.sum

/-- `_population_std`. -/
def populationStd (values : List Decimal) : Option Decimal :=
  (mean values).map fun average =>
    decimalSqrt ((values.map fun value => (value - average) ^ 2).sum / values.length)

/-- `_sharpe`. -/
def sharpe (values : List Decimal) : EvaluationMetric :=
  match mean values with
  | none => .notApplicable "empty split"
  | some average =>
      match populationStd values with
      | none => .notApplicable "zero volatility makes Sharpe undefined"
      | some std =>
          if std = 0 then .notApplicable "zero volatility makes Sharpe undefined"
          else .available (average / std)

/-- `_sortino`. -/
def sortino (values : List Decimal) : EvaluationMetric :=
  match mean values with
  | none => .notApplicable "empty split"
  | some average =>
      let downside := values.filter fun value => decide (value < 0)
      if downside = [] then .notApplicable "no downside returns make Sortino undefined"
      else
        match populationStd downside with
        | none => .notApplicable "zero downside volatility makes Sortino undefined"
        | some std =>
            if std = 0 then .notApplicable "zero downside volatility makes Sortino undefined"
            else .available (average / std)

/-- `_calmar`. -/
def calmar (values : List Decimal) : EvaluationMetric :=
  match compoundedReturn values with
  | none => .notApplicable "empty split"
  | some netReturn =>
      match maxDrawdown values with
      | none => .notApplicable "no drawdown makes Calmar undefined"
      | some drawdown =>
          if drawdown = 0 then .notApplicable "no drawdown makes Calmar undefined"
          else .available (netReturn / |drawdown|)

section Scores

variable [Sha256]

/-- `_alignment_key`. -/
def alignmentKey (row : BaselineRow) : DatasetSplit × String × String × String :=
  (row.split, row.instrumentId, row.venueId, row.featureTs.isoformat)

/-- `_benchmark_relative_net_return`. -/
def benchmarkRelativeNetReturn (rows benchmarkRows : List BaselineRow) :
    Raises EvaluationMetric := do
  if rows = [] then
    .ok (.notApplicable "empty split has no benchmark-relative return")
  else do
    require (rows.length = benchmarkRows.length) "benchmark alignment mismatch: row counts differ"
    require (rows.map alignmentKey = benchmarkRows.map alignmentKey)
      "benchmark alignment mismatch: split/instrument/venue/feature_ts differ"
    match compoundedReturn (rows.map BaselineRow.netReturn),
        compoundedReturn (benchmarkRows.map BaselineRow.netReturn) with
    | some rowReturn, some benchmarkReturn => .ok (.available (rowReturn - benchmarkReturn))
    | _, _ => .ok (.undefined .blocked
        "benchmark-relative return unavailable for empty aligned input" MetricStatus.noConfusion)

/-- The score of some rows, given the benchmark-relative metric. -/
def splitScore (report : BaselineReport) (split : DatasetSplit) (rows : List BaselineRow)
    (assumptions : MetricAssumptions) (benchmarkRelative : EvaluationMetric) :
    BaselineSplitScore :=
  let returns := rows.map BaselineRow.netReturn
  let reason := "empty split " ++ split.value
  { baselineReportId := report.baselineReportId, baselineName := report.baselineConfig.name,
    baselineKind := report.baselineConfig.kind, split := split, observationCount := rows.length,
    netReturn := metricOf (compoundedReturn returns) reason,
    meanNetReturn := metricOf (mean returns) reason, sharpe := sharpe returns,
    sortino := sortino returns, calmar := calmar returns,
    maxDrawdown := metricOf (maxDrawdown returns) reason,
    cvar := metricOf (cvar returns assumptions.cvarTailProbability.val) reason,
    turnoverSum := metricOf (sumTuple (rows.map BaselineRow.turnover)) reason,
    averageExposure := metricOf (mean (rows.map BaselineRow.exposure)) reason,
    costReturnSum := metricOf (sumTuple (rows.map fun row => row.costReturn.val)) reason,
    benchmarkRelativeNetReturn := benchmarkRelative }

/-- The rows of one split. -/
def splitRows (report : BaselineReport) (split : DatasetSplit) : List BaselineRow :=
  report.rows.filter fun row => decide (row.split = split)

/-- `_score_split`. -/
def scoreSplit (report benchmarkReport : BaselineReport) (assumptions : MetricAssumptions)
    (split : DatasetSplit) : Raises BaselineSplitScore := do
  let benchmarkRelative ←
    benchmarkRelativeNetReturn (splitRows report split) (splitRows benchmarkReport split)
  .ok (splitScore report split (splitRows report split) assumptions benchmarkRelative)

/-- `_validate_same_dataset`. -/
def validateSameDataset (report benchmarkReport : BaselineReport) : Raises Unit := do
  require (report.datasetSnapshotId = benchmarkReport.datasetSnapshotId)
    "benchmark dataset_snapshot_id mismatch"
  require (report.datasetHash = benchmarkReport.datasetHash) "benchmark dataset_hash mismatch"

/-- `tuple(DatasetSplit)`. -/
def allSplits : List DatasetSplit := [.train, .validation, .test]

/-- The scores of one report. -/
def scoreReport (benchmarkReport : BaselineReport) (assumptions : MetricAssumptions)
    (report : BaselineReport) : Raises (List BaselineSplitScore) := do
  validateSameDataset report benchmarkReport
  allSplits.mapM (scoreSplit report benchmarkReport assumptions)

/-- `build_evaluation_scorecard`. -/
def buildEvaluationScorecard (reports : List BaselineReport) (benchmarkReport : BaselineReport)
    (assumptions : Option MetricAssumptions) : Raises EvaluationScorecard := do
  require (reports ≠ []) "at least one baseline report is required"
  let assumptions := assumptions.getD {}
  let benchmarkConfig : BenchmarkConfig :=
    { benchmarkReportId := benchmarkReport.baselineReportId,
      benchmarkReportHash := benchmarkReport.baselineReportHash,
      benchmarkName := benchmarkReport.baselineConfig.name }
  let scored ← reports.mapM (scoreReport benchmarkReport assumptions)
  let inputIds := reports.map BaselineReport.baselineReportId
  let inputHashes := reports.map BaselineReport.baselineReportHash
  let scorecardHash := buildScorecardHash inputIds inputHashes benchmarkConfig assumptions
    scored.flatten
  .ok
    { scorecardId := buildScorecardId scorecardHash, scorecardHash := scorecardHash,
      inputBaselineReportIds := inputIds, inputBaselineReportHashes := inputHashes,
      benchmarkConfig := benchmarkConfig, metricAssumptions := assumptions,
      scores := scored.flatten, hash_is_deterministic := rfl, id_is_deterministic := rfl }

/-! ## When a metric is available -/

omit [Sha256] in
theorem status_metricOf (value : Option Decimal) (reason : String) :
    (metricOf value reason).status = .available ↔ value.isSome = true := by
  cases value with
  | none => simp [metricOf]
  | some value => simp [metricOf]

/-- The metrics of a split that need no more than a row. -/
structure HasCoreMetrics (score : BaselineSplitScore) : Prop where
  netReturn : score.netReturn.status = .available
  meanNetReturn : score.meanNetReturn.status = .available
  maxDrawdown : score.maxDrawdown.status = .available
  cvar : score.cvar.status = .available
  turnoverSum : score.turnoverSum.status = .available
  averageExposure : score.averageExposure.status = .available
  costReturnSum : score.costReturnSum.status = .available

theorem hasCoreMetrics_splitScore (report : BaselineReport) (split : DatasetSplit)
    {rows : List BaselineRow} (hrows : rows ≠ []) (assumptions : MetricAssumptions)
    (benchmarkRelative : EvaluationMetric) :
    HasCoreMetrics (splitScore report split rows assumptions benchmarkRelative) := by
  constructor <;> apply (status_metricOf _ _).mpr <;>
    simp [compoundedReturn, mean, maxDrawdown, cvar, sumTuple, hrows]

omit [Sha256] in
/-- Sharpe, Sortino and Calmar are never blocked. -/
theorem ratio_status (values : List Decimal) :
    (sharpe values).status ≠ .blocked ∧ (sortino values).status ≠ .blocked ∧
      (calmar values).status ≠ .blocked := by
  refine ⟨?_, ?_, ?_⟩
  · unfold sharpe
    repeat' split
    all_goals simp
  · unfold sortino
    dsimp only
    repeat' split
    all_goals simp
  · unfold calmar
    repeat' split
    all_goals simp

/-! ## Aligned rows -/

theorem benchmarkRelative_of_aligned {rows benchmarkRows : List BaselineRow}
    (h : rows.map alignmentKey = benchmarkRows.map alignmentKey) :
    ∃ metric, benchmarkRelativeNetReturn rows benchmarkRows = .ok metric ∧
      (rows ≠ [] → metric.status = .available) := by
  have hlength : rows.length = benchmarkRows.length := by
    simpa using congrArg List.length h
  by_cases hrows : rows = []
  · refine ⟨.notApplicable "empty split has no benchmark-relative return", ?_, ?_⟩
    · rw [benchmarkRelativeNetReturn, if_pos hrows]
    · intro hne
      exact absurd hrows hne
  · have hbenchmark : benchmarkRows ≠ [] := by
      rintro rfl
      exact hrows (List.length_eq_zero_iff.mp hlength)
    rw [benchmarkRelativeNetReturn, if_neg hrows, require_of hlength, ok_bind, require_of h,
      ok_bind, compoundedReturn, compoundedReturn, if_neg (by simpa using hrows),
      if_neg (by simpa using hbenchmark)]
    exact ⟨_, rfl, fun _ => rfl⟩

/-! ## Baseline runs -/

/-- The alignment key of a dataset row. -/
def datasetKey (row : DatasetRow) : DatasetSplit × String × String × String :=
  (row.split, row.instrumentId, row.venueId, row.featureTs.isoformat)

/-- The output row is built from the dataset row. -/
def BuiltFrom (row : DatasetRow) (output : BaselineRow) : Prop :=
  ∃ kind weight realized turnover rate reason,
    output = Baselines.buildRow row kind weight realized turnover rate reason

theorem BuiltFrom.alignmentKey {row : DatasetRow} {output : BaselineRow} (h : BuiltFrom row output) :
    alignmentKey output = datasetKey row := by
  obtain ⟨kind, weight, realized, turnover, rate, reason, rfl⟩ := h
  rfl

theorem BuiltFrom.split {row : DatasetRow} {output : BaselineRow} (h : BuiltFrom row output) :
    output.split = row.split :=
  congrArg Prod.fst h.alignmentKey

theorem builtFrom_investedRow {row : DatasetRow} {kind : BaselineKind} {weight previous : Decimal}
    {config : BaselineConfig} {method : LabelMethod} {reason : Option String}
    {output : BaselineRow}
    (h : Baselines.investedRow row kind weight previous config method reason = .ok output) :
    BuiltFrom row output := by
  obtain ⟨rate, -, h⟩ := (bind_eq_ok_iff _ _ _).mp h
  obtain ⟨realized, -, h⟩ := (bind_eq_ok_iff _ _ _).mp h
  cases h
  exact ⟨_, _, _, _, _, _, rfl⟩

theorem builtFrom_carriedRows {kind : BaselineKind} {config : BaselineConfig}
    {method : LabelMethod} {target : DatasetRow → Raises (Decimal × Option String)}
    {rows : List DatasetRow} {outputs : List BaselineRow}
    (h : Baselines.carriedRows kind config method target rows = .ok outputs) :
    List.Forall₂ BuiltFrom rows outputs := by
  obtain ⟨out, hrun, rfl⟩ := (map_eq_ok_iff _ _ _).mp h
  refine @runSteps_forall₂ _ _ _ _ _ (fun _ => True) _ ?_ _ _ _ trivial hrun
  intro book row output book' _ hstep
  obtain ⟨weight, -, hstep⟩ := (bind_eq_ok_iff _ _ _).mp hstep
  obtain ⟨made, hmade, hstep⟩ := (bind_eq_ok_iff _ _ _).mp hstep
  cases hstep
  exact ⟨trivial, builtFrom_investedRow hmade⟩

/-- A baseline makes one row from each dataset row. -/
theorem builtFrom_baselineRows {snapshot : DatasetSnapshot} {config : BaselineConfig}
    {result : List BaselineRow × Option SimpleMLModel}
    (h : Baselines.baselineRows snapshot config = .ok result) :
    List.Forall₂ BuiltFrom snapshot.rows result.1 := by
  unfold Baselines.baselineRows at h
  cases hkind : config.kind with
  | cash =>
      simp only [hkind, Except.ok.injEq] at h
      subst h
      exact List.forall₂_map_right_iff.mpr
        (List.forall₂_same.mpr fun row _ => ⟨_, _, _, _, _, _, rfl⟩)
  | buyAndHold =>
      simp only [hkind] at h
      obtain ⟨rows, hrows, h⟩ := (bind_eq_ok_iff _ _ _).mp h
      cases h
      refine ((mapM_eq_ok_iff _ _ _).mp hrows).imp fun row output hrow => ?_
      obtain ⟨first, -, hrow⟩ := (bind_eq_ok_iff _ _ _).mp hrow
      exact builtFrom_investedRow hrow
  | equalWeightBasket =>
      simp only [hkind] at h
      obtain ⟨rows, hrows, h⟩ := (bind_eq_ok_iff _ _ _).mp h
      cases h
      exact builtFrom_carriedRows hrows
  | taHeuristic =>
      simp only [hkind] at h
      obtain ⟨rows, hrows, h⟩ := (bind_eq_ok_iff _ _ _).mp h
      cases h
      exact builtFrom_carriedRows hrows
  | simpleMl =>
      simp only [hkind] at h
      obtain ⟨model, -, h⟩ := (bind_eq_ok_iff _ _ _).mp h
      obtain ⟨rows, hrows, h⟩ := (bind_eq_ok_iff _ _ _).mp h
      cases h
      exact builtFrom_carriedRows hrows

/-- What a report takes from its dataset and its configuration. -/
structure RunOf (snapshot : DatasetSnapshot) (config : BaselineConfig) (report : BaselineReport) :
    Prop where
  snapshotId : report.datasetSnapshotId = snapshot.datasetSnapshotId
  datasetHash : report.datasetHash = snapshot.datasetHash
  config : report.baselineConfig = config
  rows : List.Forall₂ BuiltFrom snapshot.rows report.rows

theorem runOf_runBaseline {snapshot : DatasetSnapshot} {config : BaselineConfig}
    {report : BaselineReport} (h : Baselines.runBaseline snapshot config = .ok report) :
    RunOf snapshot config report := by
  obtain ⟨_, -, h⟩ := (bind_eq_ok_iff _ _ _).mp h
  obtain ⟨_, -, h⟩ := (bind_eq_ok_iff _ _ _).mp h
  obtain ⟨result, hresult, h⟩ := (bind_eq_ok_iff _ _ _).mp h
  obtain ⟨summaries, -, h⟩ := (bind_eq_ok_iff _ _ _).mp h
  cases h
  exact ⟨rfl, rfl, rfl, builtFrom_baselineRows hresult⟩

/-- The rows of a dataset in one split. -/
def datasetSplit (snapshot : DatasetSnapshot) (split : DatasetSplit) : List DatasetRow :=
  snapshot.rows.filter fun row => decide (row.split = split)

theorem RunOf.builtFrom_splitRows {snapshot : DatasetSnapshot} {config : BaselineConfig}
    {report : BaselineReport} (h : RunOf snapshot config report) (split : DatasetSplit) :
    List.Forall₂ BuiltFrom (datasetSplit snapshot split) (splitRows report split) := by
  have hfilter : ∀ {rows : List DatasetRow} {outputs : List BaselineRow},
      List.Forall₂ BuiltFrom rows outputs →
      List.Forall₂ BuiltFrom (rows.filter fun row => decide (row.split = split))
        (outputs.filter fun row => decide (row.split = split)) := by
    intro rows outputs hrows
    induction hrows with
    | nil => exact .nil
    | @cons row output rows outputs hrow _ ih =>
        -- both rows are in the split, or neither is
        rw [List.filter_cons, List.filter_cons, hrow.split]
        split
        · exact .cons hrow ih
        · exact ih
  exact hfilter h.rows

theorem RunOf.map_alignmentKey {snapshot : DatasetSnapshot} {config : BaselineConfig}
    {report : BaselineReport} (h : RunOf snapshot config report) (split : DatasetSplit) :
    (splitRows report split).map alignmentKey = (datasetSplit snapshot split).map datasetKey := by
  symm
  apply map_eq_of_forall₂ (h.builtFrom_splitRows split)
  intro row output hrow
  exact hrow.alignmentKey.symm

/-- A score of a baseline run: it counts the rows of its split, and on a split with rows it has its
metrics. -/
structure ScoreOf (snapshot : DatasetSnapshot) (report : BaselineReport) (split : DatasetSplit)
    (score : BaselineSplitScore) : Prop where
  reportId : score.baselineReportId = report.baselineReportId
  kind : score.baselineKind = report.baselineConfig.kind
  inSplit : score.split = split
  count : score.observationCount = (datasetSplit snapshot split).length
  core : datasetSplit snapshot split ≠ [] → HasCoreMetrics score
  relative : datasetSplit snapshot split ≠ [] →
    score.benchmarkRelativeNetReturn.status = .available
  ratios : score.sharpe.status ≠ .blocked ∧ score.sortino.status ≠ .blocked ∧
    score.calmar.status ≠ .blocked

theorem scoreSplit_of_runs {snapshot : DatasetSnapshot} {config benchmark : BaselineConfig}
    {report benchmarkReport : BaselineReport} (h : RunOf snapshot config report)
    (hbenchmark : RunOf snapshot benchmark benchmarkReport) (assumptions : MetricAssumptions)
    (split : DatasetSplit) :
    ∃ score, scoreSplit report benchmarkReport assumptions split = .ok score ∧
      ScoreOf snapshot report split score := by
  have hlength := (h.builtFrom_splitRows split).length_eq
  have hrows : datasetSplit snapshot split ≠ [] → splitRows report split ≠ [] := by
    intro hne hnil
    rw [hnil] at hlength
    exact hne (List.length_eq_zero_iff.mp hlength)
  obtain ⟨metric, hmetric, havailable⟩ := benchmarkRelative_of_aligned
    ((h.map_alignmentKey split).trans (hbenchmark.map_alignmentKey split).symm)
  refine ⟨splitScore report split (splitRows report split) assumptions metric, ?_, ?_⟩
  · rw [scoreSplit, hmetric, ok_bind]
  · exact
      { reportId := rfl, kind := rfl, inSplit := rfl, count := hlength.symm,
        core := fun hne => hasCoreMetrics_splitScore report split (hrows hne) assumptions metric,
        relative := fun hne => havailable (hrows hne), ratios := ratio_status _ }

theorem scoreReport_of_runs {snapshot : DatasetSnapshot} {config benchmark : BaselineConfig}
    {report benchmarkReport : BaselineReport} (h : RunOf snapshot config report)
    (hbenchmark : RunOf snapshot benchmark benchmarkReport) (assumptions : MetricAssumptions) :
    ∃ scores, scoreReport benchmarkReport assumptions report = .ok scores ∧
      List.Forall₂ (ScoreOf snapshot report) allSplits scores := by
  obtain ⟨train, htrain, htrainScore⟩ := scoreSplit_of_runs h hbenchmark assumptions .train
  obtain ⟨validation, hvalidation, hvalidationScore⟩ :=
    scoreSplit_of_runs h hbenchmark assumptions .validation
  obtain ⟨test, htest, htestScore⟩ := scoreSplit_of_runs h hbenchmark assumptions .test
  refine ⟨[train, validation, test], ?_,
    .cons htrainScore (.cons hvalidationScore (.cons htestScore .nil))⟩
  rw [scoreReport, validateSameDataset, require_of (h.snapshotId.trans hbenchmark.snapshotId.symm),
    ok_bind, require_of (h.datasetHash.trans hbenchmark.datasetHash.symm), ok_bind]
  exact (mapM_eq_ok_iff _ _ _).mpr (.cons htrain (.cons hvalidation (.cons htest .nil)))

/-- Reports of baselines run on one dataset always make a scorecard against any baseline run on it:
one score for each report and split. -/
theorem scorecard_of_runs {snapshot : DatasetSnapshot} {configs : List BaselineConfig}
    {reports : List BaselineReport} {benchmark : BaselineConfig} {benchmarkReport : BaselineReport}
    (hne : reports ≠ []) (hruns : List.Forall₂ (RunOf snapshot) configs reports)
    (hbenchmark : RunOf snapshot benchmark benchmarkReport)
    (assumptions : Option MetricAssumptions) :
    ∃ card scored, buildEvaluationScorecard reports benchmarkReport assumptions = .ok card ∧
      card.scores = scored.flatten ∧
      List.Forall₂ (fun report scores => List.Forall₂ (ScoreOf snapshot report) allSplits scores)
        reports scored := by
  have hscored : ∀ report ∈ reports, ∃ scores,
      scoreReport benchmarkReport (assumptions.getD {}) report = .ok scores ∧
        List.Forall₂ (ScoreOf snapshot report) allSplits scores := by
    intro report hreport
    obtain ⟨config, -, hrun⟩ := exists_of_mem_right hruns hreport
    exact scoreReport_of_runs hrun hbenchmark _
  obtain ⟨scored, hforall⟩ := exists_forall₂ hscored
  have hmap : reports.mapM (scoreReport benchmarkReport (assumptions.getD {})) = .ok scored :=
    (mapM_eq_ok_iff _ _ _).mpr (hforall.imp fun _ _ h => h.1)
  have hcard : ∃ card, buildEvaluationScorecard reports benchmarkReport assumptions = .ok card ∧
      card.scores = scored.flatten := by
    rw [buildEvaluationScorecard, require_of hne, ok_bind]
    dsimp only
    rw [hmap, ok_bind]
    exact ⟨_, rfl, rfl⟩
  obtain ⟨card, hcard, hscores⟩ := hcard
  exact ⟨card, scored, hcard, hscores, hforall.imp fun _ _ h => h.2⟩

end Scores

end TaModel.Evaluation
