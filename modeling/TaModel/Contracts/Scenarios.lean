import TaModel.Contracts.DecimalContext
import TaModel.Contracts.Simulation
import TaModel.Library.Stamping
import TaModel.Library.Tally

/-!
# Synthetic scenario contracts

The evidence of one scenario and the suite report of `contracts/scenarios.py`. The totals of a
scenario are sums of the decimal context, over the results of an exact replay. Texts are stripped
before they are checked and kept.
-/

set_option autoImplicit false

namespace TaModel.Contracts

open Library

/-- Required scenario identifiers, in the order of the enumeration. -/
inductive SyntheticScenarioId where
  | randomWalk | trend | crash | spread | liquidity | outage
deriving DecidableEq

namespace SyntheticScenarioId

def value : SyntheticScenarioId → String
  | .randomWalk => "random_walk"
  | .trend => "trend"
  | .crash => "crash"
  | .spread => "spread"
  | .liquidity => "liquidity"
  | .outage => "outage"

/-- `tuple(SyntheticScenarioId)`. -/
def all : List SyntheticScenarioId := [.randomWalk, .trend, .crash, .spread, .liquidity, .outage]

/-- `scenario_id.value.upper()`. -/
def upper (id : SyntheticScenarioId) : String := String.ofList (id.value.toList.map Char.toUpper)

end SyntheticScenarioId

instance : ToPayload SyntheticScenarioId := ⟨fun x => .text x.value⟩

/-- How many results of a scenario have a status. -/
structure ScenarioStatusCount where
  status : ReplayFillStatus
  count : Nat

instance : ToPayload ScenarioStatusCount := ⟨fun c =>
  .record [("count", toPayload c.count), ("status", toPayload c.status)]⟩

/-- Evidence of one scenario. -/
structure SyntheticScenarioResult where
  scenarioId : SyntheticScenarioId
  scenarioName : String
  traceability : List String
  stressLabels : List String
  replayReportId : String
  replayReportHash : String
  marketDataHash : String
  statusCounts : List ScenarioStatusCount
  rejectionCounts : List (ReplayRejectReason × Nat)
  totalCost : Decimal
  filledQuantity : Decimal
  remainingQuantity : Decimal
  minClosePrice : Decimal
  maxClosePrice : Decimal
  finalBalances : List (String × Decimal)
  comparisonTotalCost : Option Decimal

namespace SyntheticScenarioResult

instance : ToPayload SyntheticScenarioResult := ⟨fun r =>
  .record
    [ ("comparison_total_cost", toPayload r.comparisonTotalCost),
      ("filled_quantity", toPayload r.filledQuantity),
      ("final_balances", .list (r.finalBalances.map fun b =>
        .list [toPayload b.1, toPayload b.2])),
      ("market_data_hash", toPayload r.marketDataHash),
      ("max_close_price", toPayload r.maxClosePrice),
      ("min_close_price", toPayload r.minClosePrice),
      ("rejection_counts", .list (r.rejectionCounts.map fun c =>
        .list [toPayload c.1, toPayload c.2])),
      ("remaining_quantity", toPayload r.remainingQuantity),
      ("replay_report_hash", toPayload r.replayReportHash),
      ("replay_report_id", toPayload r.replayReportId), ("scenario_id", toPayload r.scenarioId),
      ("scenario_name", toPayload r.scenarioName), ("status_counts", toPayload r.statusCounts),
      ("stress_labels", toPayload r.stressLabels), ("total_cost", toPayload r.totalCost),
      ("traceability", toPayload r.traceability) ]⟩

/-- Some stress label is one of these: `not labels.isdisjoint(...)`. -/
def HasLabel (r : SyntheticScenarioResult) (labels : List String) : Prop :=
  ∃ label ∈ r.stressLabels, label ∈ labels

instance (r : SyntheticScenarioResult) (labels : List String) : Decidable (r.HasLabel labels) := by
  unfold HasLabel
  infer_instance

/-- `_validate_result_traceability`. -/
def validateTraceability (r : SyntheticScenarioResult) : Raises Unit := do
  require ("FR-012" ∈ r.traceability)
    "synthetic scenario result traceability must include FR-012"
  require (r.scenarioId = .crash → "RISK-001" ∈ r.traceability ∧
      r.HasLabel ["market_drawdown", "drawdown_stress", "market_stress"])
    "crash scenario must include RISK-001 market drawdown evidence"
  require (r.scenarioId = .spread → "RISK-002" ∈ r.traceability ∧ "RISK-005" ∈ r.traceability)
    "spread scenario must include RISK-002 and RISK-005 traceability"
  require (r.scenarioId = .spread → r.HasLabel ["cost_sensitivity", "liquidity_cost_stress"])
    "spread scenario must include cost-sensitivity evidence"
  require (r.scenarioId = .liquidity → "RISK-002" ∈ r.traceability ∧
      r.HasLabel ["liquidity_collapse", "insufficient_liquidity"])
    "liquidity scenario must include RISK-002 liquidity evidence"
  require (r.scenarioId = .outage → "RISK-002" ∈ r.traceability ∧
      r.HasLabel ["fail_closed", "venue_outage"])
    "outage scenario must include RISK-002 fail-closed evidence"

/-- The validators `SyntheticScenarioResult(...)` runs on stripped texts: the bounds of its fields,
then the traceability. -/
def validate (r : SyntheticScenarioResult) : Raises Unit := do
  require (r.scenarioName ≠ "") "scenario_name: String should have at least 1 character"
  require (∀ text ∈ r.traceability, text ≠ "")
    "traceability: String should have at least 1 character"
  require (∀ label ∈ r.stressLabels, label ≠ "")
    "stress_labels: String should have at least 1 character"
  require (∀ c ∈ r.statusCounts, 0 < c.count) "count: Input should be greater than 0"
  require (0 ≤ r.totalCost) "total_cost: Input should be greater than or equal to 0"
  require (0 ≤ r.filledQuantity) "filled_quantity: Input should be greater than or equal to 0"
  require (0 ≤ r.remainingQuantity)
    "remaining_quantity: Input should be greater than or equal to 0"
  require (0 ≤ r.minClosePrice) "min_close_price: Input should be greater than or equal to 0"
  require (0 ≤ r.maxClosePrice) "max_close_price: Input should be greater than or equal to 0"
  require (∀ cost ∈ r.comparisonTotalCost, 0 ≤ cost)
    "comparison_total_cost: Input should be greater than or equal to 0"
  r.validateTraceability

end SyntheticScenarioResult

/-- What a scenario says of itself. -/
structure ScenarioEvidence where
  scenarioId : SyntheticScenarioId
  scenarioName : String
  traceability : List String
  stressLabels : List String
  minClosePrice : Decimal
  maxClosePrice : Decimal
  comparisonTotalCost : Option Decimal := none

/-- The status counts of a summary, sorted by the value of the status. -/
def statusCountsOf (results : List ReplayOrderResult) : List ScenarioStatusCount :=
  ((tally ReplayOrderResult.status results).insertionSort fun a b =>
    a.1.status.value ≤ b.1.status.value).map fun entry => ⟨entry.1.status, entry.2⟩

/-- The balances of an account in the order of `(venue_id, asset_id)`. -/
def sortedBalances (state : SimulatedAccountState) : List SimulatedBalance :=
  state.balances.insertionSort fun a b =>
    a.venueId < b.venueId ∨ (a.venueId = b.venueId ∧ a.assetId ≤ b.assetId)

/-- The result of `from_replay_report` before its validators, its texts stripped. -/
def summaryOf (evidence : ScenarioEvidence) (report : ReplayReport) : SyntheticScenarioResult where
  scenarioId := evidence.scenarioId
  scenarioName := strip evidence.scenarioName
  traceability := evidence.traceability.map strip
  stressLabels := evidence.stressLabels.map strip
  replayReportId := report.replayReportId
  replayReportHash := report.replayReportHash
  marketDataHash := report.marketDataHash
  statusCounts := statusCountsOf report.results
  rejectionCounts := report.rejectionCounts.map fun c => (c.reason, c.count)
  totalCost := decimalSum (report.results.map ReplayOrderResult.totalCost)
  filledQuantity := decimalSum (report.results.map ReplayOrderResult.filledQuantity)
  remainingQuantity := decimalSum (report.results.map ReplayOrderResult.remainingQuantity)
  minClosePrice := evidence.minClosePrice
  maxClosePrice := evidence.maxClosePrice
  finalBalances := match report.finalAccountState with
    | none => []
    | some state => (sortedBalances state).map fun b => (b.assetId, b.available.val)
  comparisonTotalCost := evidence.comparisonTotalCost

/-- `SyntheticScenarioResult.from_replay_report`. -/
def fromReplayReport (evidence : ScenarioEvidence) (report : ReplayReport) :
    Raises SyntheticScenarioResult := do
  (summaryOf evidence report).validate
  .ok (summaryOf evidence report)

/-! ## The suite report -/

/-- Scenario-suite evidence artifact. -/
structure SyntheticScenarioSuiteReport where
  suiteReportId : String
  suiteHash : String
  runId : {s : String // isCanonicalId s = true}
  seed : Int
  requirementIds : List String := ["FR-012"]
  riskIds : List String := ["RISK-001", "RISK-002", "RISK-005"]
  scenarioResults : List SyntheticScenarioResult

namespace SyntheticScenarioSuiteReport

/-- `_validate_suite_traceability`, `_validate_required_scenarios` and the traceability of the
results. -/
def validateFields (r : SyntheticScenarioSuiteReport) : Raises Unit := do
  require (r.requirementIds = ["FR-012"])
    "synthetic scenario suite requirement_ids must equal ('FR-012',)"
  require ("RISK-001" ∈ r.riskIds ∧ "RISK-002" ∈ r.riskIds)
    "synthetic scenario suite risk_ids must include RISK-001 and RISK-002"
  require (r.scenarioResults.map SyntheticScenarioResult.scenarioId = SyntheticScenarioId.all)
    "scenario_results must contain each required scenario exactly once in order"
  r.scenarioResults.forM SyntheticScenarioResult.validateTraceability

variable [Sha256]

/-- `build_synthetic_scenario_suite_hash`. -/
def buildHash (r : SyntheticScenarioSuiteReport) : String :=
  hash (.record
    [ ("requirement_ids", toPayload r.requirementIds), ("risk_ids", toPayload r.riskIds),
      ("run_id", toPayload r.runId.val), ("scenario_results", toPayload r.scenarioResults),
      ("seed", toPayload r.seed) ])

/-- `build_synthetic_scenario_suite_id`. -/
def buildId (suiteHash : String) : String := stableIdOfHash "SYNTHSUITE" "suite_hash" suiteHash

/-- Where a suite report stores its hash and id. -/
def stamping : Stamping SyntheticScenarioSuiteReport String String where
  checkFields := validateFields
  storedHash := suiteHash
  storedId := suiteReportId
  contentHash := buildHash
  idOfHash := buildId
  stamp r newHash newId := { r with suiteHash := newHash, suiteReportId := newId }
  hashError := "suite_hash is not deterministic"
  idError := "suite_report_id is not deterministic"
  storedHash_stamp _ _ _ := rfl
  storedId_stamp _ _ _ := rfl
  contentHash_stamp _ _ _ := rfl
  checkFields_stamp _ _ _ := rfl

end SyntheticScenarioSuiteReport

/-- `make_synthetic_scenario_suite_report`. -/
def makeSyntheticScenarioSuiteReport [Sha256] (runId : {s : String // isCanonicalId s = true})
    (seed : Int) (scenarioResults : List SyntheticScenarioResult) :
    Raises SyntheticScenarioSuiteReport :=
  SyntheticScenarioSuiteReport.stamping.construct
    { suiteReportId := "", suiteHash := "", runId := runId, seed := seed,
      scenarioResults := scenarioResults }

end TaModel.Contracts
