import TaModel.Contracts.DecimalContext
import TaModel.Contracts.Decisions
import TaModel.Contracts.Risk
import TaModel.Library.KeyedLists
import TaModel.Library.Tally

/-!
# The strategy gate report

`build_strategy_gate_report` of `evaluation/strategy_gate.py` and its contracts: the utility of taken
and skipped decisions, turnover, cost drag and the distribution of reasons. The arithmetic rounds
like the default decimal context.
-/

set_option autoImplicit false

namespace TaModel.Strategy

open Contracts Library

/-! ## Contracts -/

/-- Realized utility input aligned to one decision. -/
structure StrategyGateUtilityObservation where
  decisionId : String
  realizedReturn : Decimal
  cashReturn : Decimal := 0
  source : String := "deterministic_fixture_realized_forward_return"

instance : ToPayload StrategyGateUtilityObservation := ⟨fun o =>
  .record
    [ ("cash_return", toPayload o.cashReturn), ("decision_id", toPayload o.decisionId),
      ("realized_return", toPayload o.realizedReturn), ("source", toPayload o.source) ]⟩

/-- How many decisions have a reason. -/
structure StrategyDecisionReasonCount where
  reasonCode : StrategyDecisionReasonCode
  count : Nat

instance : ToPayload StrategyDecisionReasonCount := ⟨fun c =>
  .record [("count", toPayload c.count), ("reason_code", toPayload c.reasonCode)]⟩

/-- Strategy-quality report from decisions. -/
structure StrategyGateReport where
  reportId : String
  reportHash : String
  inputDecisionIds : List String
  inputDecisionHashes : List String
  observationCount : Nat
  takenCount : Nat
  skippedCount : Nat
  takenMeanUtility : Decimal
  skippedMeanOpportunityUtility : Decimal
  skippedVsTakenMeanUtility : Decimal
  turnoverProxyNotional : Decimal
  costDragNotional : Decimal
  reasonCounts : List StrategyDecisionReasonCount
  utilityObservations : List StrategyGateUtilityObservation
  requirementIds : List String := ["FR-009", "FR-014"]
  caveats : List String :=
    ["S8 strategy gate consumes StrategyDecision proposals only; it does not approve risk.",
      "Turnover and cost drag are pre-risk proposal proxies, not gateway fills or TCA."]

namespace StrategyGateReport

section Identity

variable [Sha256]

/-- `build_strategy_gate_report_hash`. -/
def buildHash (r : StrategyGateReport) : String :=
  hash (.record
    [ ("caveats", toPayload r.caveats), ("cost_drag_notional", toPayload r.costDragNotional),
      ("input_decision_hashes", toPayload r.inputDecisionHashes),
      ("input_decision_ids", toPayload r.inputDecisionIds),
      ("observation_count", toPayload r.observationCount),
      ("reason_counts", toPayload r.reasonCounts),
      ("requirement_ids", toPayload r.requirementIds),
      ("skipped_count", toPayload r.skippedCount),
      ("skipped_mean_opportunity_utility", toPayload r.skippedMeanOpportunityUtility),
      ("skipped_vs_taken_mean_utility", toPayload r.skippedVsTakenMeanUtility),
      ("taken_count", toPayload r.takenCount),
      ("taken_mean_utility", toPayload r.takenMeanUtility),
      ("turnover_proxy_notional", toPayload r.turnoverProxyNotional),
      ("utility_observations", toPayload r.utilityObservations) ])

/-- `build_strategy_gate_report_id`. -/
def buildId (reportHash : String) : String :=
  stableIdOfHash "STRATEGYGATE" "report_hash" reportHash

omit [Sha256] in
/-- The bounds of the fields, and the part of `strategy_gate_report_identity_is_deterministic` that
compares counts. -/
def validateFields (r : StrategyGateReport) : Raises Unit := do
  require (0 < r.observationCount) "observation_count: Input should be greater than 0"
  require (0 ≤ r.turnoverProxyNotional)
    "turnover_proxy_notional: Input should be greater than or equal to 0"
  require (0 ≤ r.costDragNotional)
    "cost_drag_notional: Input should be greater than or equal to 0"
  require (∀ c ∈ r.reasonCounts, 0 < c.count) "count: Input should be greater than 0"
  require (r.observationCount = r.inputDecisionIds.length)
    "observation_count must match input decisions"
  require (r.observationCount = r.utilityObservations.length)
    "observation_count must match utility observations"
  require (r.takenCount + r.skippedCount = r.observationCount)
    "taken_count plus skipped_count must equal observation_count"

/-- Where a report stores its hash and id. -/
def stamping : Stamping StrategyGateReport String String where
  checkFields := validateFields
  storedHash := reportHash
  storedId := reportId
  contentHash := buildHash
  idOfHash := buildId
  stamp r newHash newId := { r with reportHash := newHash, reportId := newId }
  hashError := "strategy gate report_hash is not deterministic"
  idError := "strategy gate report_id is not deterministic"
  storedHash_stamp _ _ _ := rfl
  storedId_stamp _ _ _ := rfl
  contentHash_stamp _ _ _ := rfl
  checkFields_stamp _ _ _ := rfl

end Identity

end StrategyGateReport

/-! ## Totals -/

/-- `build_strategy_decision_reason_counts`. -/
def buildStrategyDecisionReasonCounts (decisions : List StrategyDecision) :
    List StrategyDecisionReasonCount :=
  (sortedByKey (fun entry : StrategyDecision × Nat => entry.1.reasonCode.value)
    (tally StrategyDecision.reasonCode decisions)).map fun entry =>
      ⟨entry.1.reasonCode, entry.2⟩

/-- `_mean`. -/
def gateMean (values : List Decimal) : Decimal := rounded (decimalSum values / values.length)

/-- What the loop over the decisions accumulates. -/
structure GateTotals where
  takenUtilities : List Decimal := []
  skippedUtilities : List Decimal := []
  turnoverProxyNotional : Decimal := 0
  costDragNotional : Decimal := 0

/-- `observation.realized_return - decision.expected_cost - observation.cash_return`. -/
def netUtility (pair : StrategyDecision × StrategyGateUtilityObservation) : Decimal :=
  rounded (rounded (pair.2.realizedReturn - pair.1.expectedCost.val) - pair.2.cashReturn)

/-- One turn of the loop. -/
def GateTotals.add (totals : GateTotals)
    (pair : StrategyDecision × StrategyGateUtilityObservation) : GateTotals :=
  match pair.1.action with
  | .buy =>
      let notional := pair.1.sizing.proposedNotional.val
      { totals with
        takenUtilities := totals.takenUtilities ++ [netUtility pair],
        turnoverProxyNotional := rounded (totals.turnoverProxyNotional + notional),
        costDragNotional := rounded (totals.costDragNotional +
          rounded (notional * pair.1.expectedCost.val)) }
  | .noTrade => { totals with skippedUtilities := totals.skippedUtilities ++ [netUtility pair] }

/-! ## The report -/

/-- `_observations_by_decision_id`. -/
def observationsByDecisionId (utilityObservations : List StrategyGateUtilityObservation) :
    Raises (List StrategyGateUtilityObservation) :=
  collectFresh StrategyGateUtilityObservation.decisionId
    "duplicate utility observation decision_id" utilityObservations

/-- A decision with its observation. -/
def withObservation (observations : List StrategyGateUtilityObservation)
    (decision : StrategyDecision) :
    Raises (StrategyDecision × StrategyGateUtilityObservation) :=
  match lookupKey StrategyGateUtilityObservation.decisionId observations decision.decisionId with
  | some observation => .ok (decision, observation)
  | none => .error decision.decisionId

/-- The report before its hash and id. -/
def gateDraft (ordered : List (StrategyDecision × StrategyGateUtilityObservation))
    (totals : GateTotals) : StrategyGateReport :=
  let decisions := ordered.map Prod.fst
  { reportId := "STRATEGYGATE:PLACEHOLDER", reportHash := "",
    inputDecisionIds := decisions.map StrategyDecision.decisionId,
    inputDecisionHashes := decisions.map StrategyDecision.decisionHash,
    observationCount := ordered.length, takenCount := totals.takenUtilities.length,
    skippedCount := totals.skippedUtilities.length,
    takenMeanUtility := gateMean totals.takenUtilities,
    skippedMeanOpportunityUtility := gateMean totals.skippedUtilities,
    skippedVsTakenMeanUtility :=
      rounded (gateMean totals.skippedUtilities - gateMean totals.takenUtilities),
    turnoverProxyNotional := totals.turnoverProxyNotional,
    costDragNotional := totals.costDragNotional,
    reasonCounts := buildStrategyDecisionReasonCounts decisions,
    utilityObservations := ordered.map Prod.snd }

/-- `build_strategy_gate_report`. -/
def buildStrategyGateReport [Sha256] (decisions : List StrategyDecision)
    (utilityObservations : List StrategyGateUtilityObservation) : Raises StrategyGateReport := do
  require (decisions ≠ []) "at least one strategy decision is required"
  let observations ← observationsByDecisionId utilityObservations
  require (∀ d ∈ decisions, d.decisionId ∈ observations.map
      StrategyGateUtilityObservation.decisionId)
    "utility observations must cover every decision"
  require (∀ o ∈ observations, o.decisionId ∈ decisions.map StrategyDecision.decisionId)
    "utility observations include unknown decisions"
  let ordered ← (sortedByKey StrategyDecision.decisionId decisions).mapM
    (withObservation observations)
  let totals := ordered.foldl GateTotals.add {}
  require (totals.takenUtilities ≠ [] ∧ totals.skippedUtilities ≠ [])
    "strategy gate report requires at least one taken and one skipped decision"
  StrategyGateReport.stamping.construct (gateDraft ordered totals)

end TaModel.Strategy
