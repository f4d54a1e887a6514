import TaModel.Contracts.Baselines
import TaModel.Contracts.DecimalContext

/-!
# Evaluation contracts

Metrics, split scores, scorecards and gate decisions of `contracts/evaluation.py`. A metric is
available with a value, or it says why it has none.
-/

set_option autoImplicit false

namespace TaModel.Contracts

/-! ## Evidence files -/

/-- What a path leads to: no file, or what reading its text gives. -/
abbrev EvidenceFiles := String → Option (Raises String)

/-- `needle in text`. -/
def occursIn (needle text : String) : Bool := text.toList.tails.any needle.toList.isPrefixOf

/-! ## Metrics and scores -/

inductive MetricStatus where
  | available | notApplicable | blocked
deriving DecidableEq

def MetricStatus.value : MetricStatus → String
  | .available => "available"
  | .notApplicable => "not_applicable"
  | .blocked => "blocked"

instance : ToPayload MetricStatus := ⟨fun x => .text x.value⟩

inductive BaselineGateStatus where
  | pass | fail | blocked
deriving DecidableEq

def BaselineGateStatus.value : BaselineGateStatus → String
  | .pass => "PASS"
  | .fail => "FAIL"
  | .blocked => "BLOCKED"

instance : ToPayload BaselineGateStatus := ⟨fun x => .text x.value⟩

/-- One scorecard metric; the proof fields are `status_matches_value`. -/
structure EvaluationMetric where
  value : Option Decimal
  status : MetricStatus
  reason : Option String
  value_of_available : status = .available → value ≠ none
  reason_of_undefined : status ≠ .available → reason ≠ none

namespace EvaluationMetric

/-- `EvaluationMetric(value=value, status=MetricStatus.AVAILABLE)`. -/
def available (value : Decimal) : EvaluationMetric where
  value := some value
  status := .available
  reason := none
  value_of_available := fun _ => Option.some_ne_none value
  reason_of_undefined := fun h => absurd rfl h

/-- `EvaluationMetric(value=None, status=status, reason=reason)`. -/
def undefined (status : MetricStatus) (reason : String) (h : status ≠ .available) :
    EvaluationMetric where
  value := none
  status := status
  reason := some reason
  value_of_available := fun hstatus => absurd hstatus h
  reason_of_undefined := fun _ => Option.some_ne_none reason

/-- `EvaluationMetric(value=None, status=MetricStatus.NOT_APPLICABLE, reason=reason)`. -/
def notApplicable (reason : String) : EvaluationMetric :=
  undefined .notApplicable reason MetricStatus.noConfusion

@[simp] theorem status_available (value : Decimal) : (available value).status = .available := rfl

@[simp] theorem status_notApplicable (reason : String) :
    (notApplicable reason).status = .notApplicable := rfl

end EvaluationMetric

instance : ToPayload EvaluationMetric := ⟨fun m =>
  .record [("reason", toPayload m.reason), ("status", toPayload m.status),
    ("value", toPayload m.value)]⟩

/-- Benchmark selection. -/
structure BenchmarkConfig where
  benchmarkReportId : String
  benchmarkReportHash : String
  benchmarkName : String
  alignment : String := "split/instrument/venue/feature_ts exact row alignment"

instance : ToPayload BenchmarkConfig := ⟨fun c =>
  .record [("alignment", toPayload c.alignment),
    ("benchmark_name", toPayload c.benchmarkName),
    ("benchmark_report_hash", toPayload c.benchmarkReportHash),
    ("benchmark_report_id", toPayload c.benchmarkReportId)]⟩

theorem defaultTail_in_range : (0 : Decimal) < 1 / 20 ∧ (1 / 20 : Decimal) ≤ 1 := by norm_num

/-- Metric assumptions. -/
structure MetricAssumptions where
  netReturnFormula : String := "compounded product(1 + per-row net_return) - 1"
  meanReturnFormula : String := "arithmetic mean of per-row net_return observations"
  volatilityFormula : String := "population standard deviation; not annualized"
  sharpeFormula : String :=
    "mean net return / population stddev; risk-free rate 0; not annualized"
  sortinoFormula : String :=
    "mean net return / downside population stddev of negative returns; not annualized"
  calmarFormula : String := "compounded net return / abs(max_drawdown); not annualized"
  maxDrawdownFormula : String := "minimum equity/peak - 1 over compounded net-return path"
  cvarFormula : String :=
    "average lower-tail per-row net returns using ceil(n * tail_probability) observations"
  cvarTailProbability : {p : Decimal // 0 < p ∧ p ≤ 1} := ⟨1 / 20, defaultTail_in_range⟩
  costScope : String :=
    "S5 proxy cost_return from baseline rows; no S6 slippage/TCA completeness claim"

instance : ToPayload MetricAssumptions := ⟨fun a =>
  .record [("calmar_formula", toPayload a.calmarFormula), ("cost_scope", toPayload a.costScope),
    ("cvar_formula", toPayload a.cvarFormula),
    ("cvar_tail_probability", toPayload a.cvarTailProbability),
    ("max_drawdown_formula", toPayload a.maxDrawdownFormula),
    ("mean_return_formula", toPayload a.meanReturnFormula),
    ("net_return_formula", toPayload a.netReturnFormula),
    ("sharpe_formula", toPayload a.sharpeFormula),
    ("sortino_formula", toPayload a.sortinoFormula),
    ("volatility_formula", toPayload a.volatilityFormula)]⟩

/-- Metrics of one baseline report on one split. -/
structure BaselineSplitScore where
  baselineReportId : String
  baselineName : String
  baselineKind : BaselineKind
  split : DatasetSplit
  observationCount : Nat
  netReturn : EvaluationMetric
  meanNetReturn : EvaluationMetric
  sharpe : EvaluationMetric
  sortino : EvaluationMetric
  calmar : EvaluationMetric
  maxDrawdown : EvaluationMetric
  cvar : EvaluationMetric
  turnoverSum : EvaluationMetric
  averageExposure : EvaluationMetric
  costReturnSum : EvaluationMetric
  benchmarkRelativeNetReturn : EvaluationMetric

instance : ToPayload BaselineSplitScore := ⟨fun s =>
  .record [("average_exposure", toPayload s.averageExposure),
    ("baseline_kind", toPayload s.baselineKind), ("baseline_name", toPayload s.baselineName),
    ("baseline_report_id", toPayload s.baselineReportId),
    ("benchmark_relative_net_return", toPayload s.benchmarkRelativeNetReturn),
    ("calmar", toPayload s.calmar), ("cost_return_sum", toPayload s.costReturnSum),
    ("cvar", toPayload s.cvar), ("max_drawdown", toPayload s.maxDrawdown),
    ("mean_net_return", toPayload s.meanNetReturn), ("net_return", toPayload s.netReturn),
    ("observation_count", toPayload s.observationCount), ("sharpe", toPayload s.sharpe),
    ("sortino", toPayload s.sortino), ("split", toPayload s.split),
    ("turnover_sum", toPayload s.turnoverSum)]⟩

section Identity

variable [Sha256]

/-- `build_scorecard_hash`. -/
def buildScorecardHash (inputBaselineReportIds inputBaselineReportHashes : List String)
    (benchmarkConfig : BenchmarkConfig) (metricAssumptions : MetricAssumptions)
    (scores : List BaselineSplitScore) : String :=
  hash (.record [("benchmark_config", toPayload benchmarkConfig),
    ("input_baseline_report_hashes", toPayload inputBaselineReportHashes),
    ("input_baseline_report_ids", toPayload inputBaselineReportIds),
    ("metric_assumptions", toPayload metricAssumptions), ("scores", toPayload scores)])

/-- `build_scorecard_id`. -/
def buildScorecardId (scorecardHash : String) : String :=
  stableIdOfHash "EVALSCORECARD" "scorecard_hash" scorecardHash

/-- Evaluation artifact; the proof fields are `scorecard_identity_is_deterministic`. -/
structure EvaluationScorecard where
  scorecardId : String
  scorecardHash : String
  inputBaselineReportIds : List String
  inputBaselineReportHashes : List String
  benchmarkConfig : BenchmarkConfig
  metricAssumptions : MetricAssumptions
  scores : List BaselineSplitScore
  hash_is_deterministic : scorecardHash = buildScorecardHash inputBaselineReportIds
    inputBaselineReportHashes benchmarkConfig metricAssumptions scores
  id_is_deterministic : scorecardId = buildScorecardId scorecardHash

end Identity

/-- Aggregated gate decision; the proof fields are `status_matches_blockers`. -/
structure BaselineGateDecision where
  status : BaselineGateStatus
  scorecardId : String
  scorecardHash : String
  requiredBaselines : List String
  requiredMetricFamilies : List String
  evidencePaths : List String
  blockers : List String
  caveats : List String
  no_blockers_of_pass : status = .pass → blockers = []
  blockers_of_not_pass : status ≠ .pass → blockers ≠ []

end TaModel.Contracts
