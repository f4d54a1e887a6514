import TaModel.Contracts.Datasets
import TaModel.Contracts.Decisions

/-!
# The expected net edge strategy

`decide_expected_net_edge` and `propose_pre_risk_size` of `strategy/decisions.py`. The classifier
settles the action, a drawdown can still block it, and the size is proposed from three multipliers
before the decision validates that action and size fit together.
-/

set_option autoImplicit false

namespace TaModel.Strategy

open Contracts

/-- A multiplier of a pre-risk size. -/
abbrev Multiplier := {q : Decimal // 0 ≤ q ∧ q ≤ 1}

namespace Multiplier

def zero : Multiplier := ⟨0, Decimal.zero_mem_unit⟩

def one : Multiplier := ⟨1, Decimal.one_mem_unit⟩

/-- The product of two multipliers. -/
def mul (m n : Multiplier) : Multiplier :=
  ⟨m.val * n.val, mul_nonneg m.2.1 n.2.1, mul_le_one₀ m.2.2 n.2.1 n.2.2⟩

end Multiplier

/-- `_threshold_multiplier`. -/
def thresholdMultiplier (value threshold : Decimal) : Multiplier :=
  if threshold = 0 then
    if value = 0 then .one else .zero
  else if hlow : 1 - value / threshold ≤ 0 then .zero
  else if hhigh : 1 ≤ 1 - value / threshold then .one
  else ⟨1 - value / threshold, (not_le.mp hlow).le, (not_le.mp hhigh).le⟩

/-- `_breaches_threshold`. -/
def breachesThreshold (value threshold : Decimal) : Bool :=
  if threshold = 0 then decide (0 < value) else decide (threshold ≤ value)

/-! ## Sizing -/

/-- `_sizing_block_reason`. -/
def sizingBlockReason : StrategyDecisionReasonCode → StrategySizingReasonCode
  | .costThreshold => .costBlock
  | .uncertaintyThreshold => .uncertaintyBlock
  | .drawdownThreshold => .drawdownBlock
  | _ => .noTradeAction

/-- The codes of one multiplier: none for a zero value. -/
def reductionReason (value : Decimal) (multiplier : Multiplier)
    (block reduction : StrategySizingReasonCode) : List StrategySizingReasonCode :=
  if 0 < value then [if multiplier.val = 0 then block else reduction] else []

/-- `_sizing_reduction_reasons`. -/
def sizingReductionReasons (expectedCost : Decimal) (costMultiplier : Multiplier)
    (uncertainty : Decimal) (uncertaintyMultiplier : Multiplier) (currentDrawdown : Decimal)
    (drawdownMultiplier : Multiplier) : List StrategySizingReasonCode :=
  reductionReason expectedCost costMultiplier .costBlock .costReduction ++
    reductionReason uncertainty uncertaintyMultiplier .uncertaintyBlock .uncertaintyReduction ++
    reductionReason currentDrawdown drawdownMultiplier .drawdownBlock .drawdownReduction

/-- `StrategySizingProposal(...)`. -/
def makeProposal (proposal : StrategySizingProposal) : Raises StrategySizingProposal := do
  proposal.validate
  return proposal

/-- A proposal of zero size. -/
def blockedProposal (inputs : StrategySizingInputs) (reasonCodes : List StrategySizingReasonCode)
    (multiplier : Multiplier) : StrategySizingProposal where
  sizingStatus := .blockedBeforeIndependentRisk
  sizingInputs := some inputs
  sizingReasonCodes := reasonCodes
  preRiskMultiplier := multiplier

/-- A proposal of the budget times the multiplier. -/
def positiveProposal (inputs : StrategySizingInputs) (reasonCodes : List StrategySizingReasonCode)
    (multiplier : Multiplier) : StrategySizingProposal where
  sizingStatus := .proposedPendingIndependentRisk
  sizingInputs := some inputs
  sizingReasonCodes := reasonCodes ++ [.positivePreRiskSize]
  preRiskMultiplier := multiplier
  proposedNotional :=
    ⟨inputs.riskBudgetNotional.val * multiplier.val,
      mul_nonneg inputs.riskBudgetNotional.2 multiplier.2.1⟩
  proposedQuantity :=
    ⟨inputs.riskBudgetNotional.val * multiplier.val / inputs.referencePrice.val,
      div_nonneg (mul_nonneg inputs.riskBudgetNotional.2 multiplier.2.1)
        inputs.referencePrice.2.le⟩

section Policy

variable [Sha256]

/-- The product of the three multipliers. -/
def preRiskMultiplier (expectedCost uncertainty : Decimal) (policy : StrategyDecisionPolicy)
    (inputs : StrategySizingInputs) : Multiplier :=
  ((thresholdMultiplier expectedCost policy.maxExpectedCost).mul
    (thresholdMultiplier uncertainty policy.maxUncertainty)).mul
    (thresholdMultiplier inputs.currentDrawdown inputs.maxDrawdown)

/-- `propose_pre_risk_size`. -/
def proposePreRiskSize (action : StrategyDecisionAction) (reasonCode : StrategyDecisionReasonCode)
    (expectedCost uncertainty : Decimal) (policy : StrategyDecisionPolicy)
    (sizingInputs : Option StrategySizingInputs) : Raises StrategySizingProposal :=
  match sizingInputs with
  | none => makeProposal {}
  | some inputs =>
      if action = .noTrade then
        makeProposal (blockedProposal inputs [sizingBlockReason reasonCode] .zero)
      else if inputs.riskBudgetNotional.val = 0 then
        makeProposal (blockedProposal inputs [.zeroRiskBudget] .zero)
      else
        let multiplier := preRiskMultiplier expectedCost uncertainty policy inputs
        let reasonCodes := sizingReductionReasons
          expectedCost (thresholdMultiplier expectedCost policy.maxExpectedCost)
          uncertainty (thresholdMultiplier uncertainty policy.maxUncertainty)
          inputs.currentDrawdown (thresholdMultiplier inputs.currentDrawdown inputs.maxDrawdown)
        if multiplier.val = 0 then makeProposal (blockedProposal inputs reasonCodes multiplier)
        else makeProposal (positiveProposal inputs reasonCodes multiplier)

/-! ## Decision -/

/-- `_expected_return_from_forecast`. -/
def expectedReturnFromForecast (forecast : Forecast) (policy : StrategyDecisionPolicy) :
    Option Decimal :=
  match policy.expectedReturnSource with
  | .medianQuantile =>
      let atLevel := forecast.quantiles.filter fun quantile =>
        decide (quantile.level.val = policy.expectedReturnQuantile.val)
      match atLevel.map ForecastQuantile.value with
      | [value] => some value
      | _ => none

/-- `_classify_decision`. -/
def classifyDecision (expectedReturn expectedCost uncertainty netEdge : Decimal)
    (policy : StrategyDecisionPolicy) (unsupportedForecast : Bool) :
    StrategyDecisionAction × StrategyDecisionReasonCode :=
  if unsupportedForecast then (.noTrade, .unsupportedForecast)
  else if expectedReturn ≤ 0 then (.noTrade, .nonPositiveExpectedReturn)
  else if breachesThreshold expectedCost policy.maxExpectedCost then (.noTrade, .costThreshold)
  else if breachesThreshold uncertainty policy.maxUncertainty then
    (.noTrade, .uncertaintyThreshold)
  else if netEdge ≤ policy.minNetEdge.val then (.noTrade, .insufficientNetEdge)
  else (.buy, .tradePositiveNetEdge)

/-- `_drawdown_blocks_size`. -/
def drawdownBlocksSize (action : StrategyDecisionAction)
    (sizingInputs : Option StrategySizingInputs) : Bool :=
  match sizingInputs with
  | none => false
  | some inputs =>
      decide (action = .buy) && decide (inputs.maxDrawdown.val ≤ inputs.currentDrawdown.val)

/-- `_decision_requirement_ids`. -/
def decisionRequirementIds (policy : StrategyDecisionPolicy)
    (sizingInputs : Option StrategySizingInputs) : List String :=
  match sizingInputs with
  | none => policy.requirementIds
  | some inputs => (policy.requirementIds ++ inputs.requirementIds).eraseDups

/-- `forecast.uncertainty * policy.uncertainty_buffer_multiplier`. -/
def uncertaintyBuffer (forecast : Forecast) (policy : StrategyDecisionPolicy) :
    NonNegativeDecimal :=
  ⟨forecast.uncertainty.val * policy.uncertaintyBufferMultiplier.val,
    mul_nonneg forecast.uncertainty.2 policy.uncertaintyBufferMultiplier.2⟩

/-- The action and its reason after the drawdown check. -/
def settleAction (forecast : Forecast) (policy : StrategyDecisionPolicy)
    (sizingInputs : Option StrategySizingInputs) :
    StrategyDecisionAction × StrategyDecisionReasonCode :=
  let extracted := expectedReturnFromForecast forecast policy
  let expectedReturn := extracted.getD 0
  let classified := classifyDecision expectedReturn policy.expectedCost forecast.uncertainty
    (expectedReturn - policy.expectedCost.val - (uncertaintyBuffer forecast policy).val) policy
    extracted.isNone
  if drawdownBlocksSize classified.1 sizingInputs then (.noTrade, .drawdownThreshold)
  else classified

/-- The decision before its hash and id. -/
def decisionDraft (forecast : Forecast) (policy : StrategyDecisionPolicy)
    (strategyRunId : CanonicalId) (decisionTs : AwareDatetime)
    (sizingInputs : Option StrategySizingInputs) (sizing : StrategySizingProposal) :
    StrategyDecision :=
  let expectedReturn := (expectedReturnFromForecast forecast policy).getD 0
  let settled := settleAction forecast policy sizingInputs
  { decisionId := "STRATEGYDECISION:PLACEHOLDER", decisionHash := "",
    traceId := StrategyDecision.buildTraceId strategyRunId forecast.forecastId policy.policyHash
      decisionTs,
    strategyRunId := strategyRunId, policyId := policy.policyId, policyHash := policy.policyHash,
    sourceForecastId := forecast.forecastId, datasetSnapshotId := forecast.datasetSnapshotId,
    datasetRowId := forecast.datasetRowId, featureVectorId := forecast.featureVectorId,
    featureInputSnapshotId := forecast.featureInputSnapshotId,
    featureVersion := forecast.featureVersion,
    sourceFeatureSnapshotIds := forecast.sourceFeatureSnapshotIds,
    instrumentId := forecast.instrumentId, venueId := forecast.venueId,
    featureTs := forecast.featureTs, decisionTs := decisionTs, labelRuleId := forecast.labelRuleId,
    split := forecast.split, trainingRunId := forecast.trainingRunId,
    modelVersionId := forecast.modelVersionId, modelVersionHash := forecast.modelVersionHash,
    action := settled.1, expectedReturn := expectedReturn, expectedCost := policy.expectedCost,
    uncertainty := forecast.uncertainty, uncertaintyBuffer := uncertaintyBuffer forecast policy,
    netEdge :=
      expectedReturn - policy.expectedCost.val - (uncertaintyBuffer forecast policy).val,
    reasonCode := settled.2, sizing := sizing,
    requirementIds := decisionRequirementIds policy sizingInputs }

/-- `decide_expected_net_edge`. -/
def decideExpectedNetEdge (forecast : Forecast) (policy : StrategyDecisionPolicy)
    (strategyRunId : CanonicalId) (decisionTs : AwareDatetime)
    (sizingInputs : Option StrategySizingInputs) : Raises StrategyDecision := do
  require (forecast.split ≠ .train) "strategy decisions require out-of-sample forecasts"
  let settled := settleAction forecast policy sizingInputs
  let sizing ← proposePreRiskSize settled.1 settled.2 policy.expectedCost forecast.uncertainty
    policy sizingInputs
  StrategyDecision.stamping.construct
    (decisionDraft forecast policy strategyRunId decisionTs sizingInputs sizing)

end Policy

end TaModel.Strategy
