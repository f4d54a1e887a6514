import TaModel.Contracts.Forecasts
import TaModel.Library.Stamping

/-!
# Strategy decision contracts

The trade or no-trade decision of `contracts/decisions.py` with its pre-risk sizing proposal. The
trace id of a decision is derived from the run, the forecast, the policy and the decision time.
-/

set_option autoImplicit false

namespace TaModel.Contracts

inductive StrategyDecisionAction where
  | buy | noTrade
deriving DecidableEq

def StrategyDecisionAction.value : StrategyDecisionAction → String
  | .buy => "buy"
  | .noTrade => "no_trade"

inductive StrategyDecisionReasonCode where
  | tradePositiveNetEdge | insufficientNetEdge | costThreshold | uncertaintyThreshold
  | drawdownThreshold | nonPositiveExpectedReturn | unsupportedForecast
deriving DecidableEq

def StrategyDecisionReasonCode.value : StrategyDecisionReasonCode → String
  | .tradePositiveNetEdge => "trade_positive_net_edge"
  | .insufficientNetEdge => "insufficient_net_edge"
  | .costThreshold => "cost_threshold"
  | .uncertaintyThreshold => "uncertainty_threshold"
  | .drawdownThreshold => "drawdown_threshold"
  | .nonPositiveExpectedReturn => "non_positive_expected_return"
  | .unsupportedForecast => "unsupported_forecast"

inductive StrategySizingStatus where
  | placeholderPendingRisk | proposedPendingIndependentRisk | blockedBeforeIndependentRisk
deriving DecidableEq

def StrategySizingStatus.value : StrategySizingStatus → String
  | .placeholderPendingRisk => "placeholder_pending_independent_risk"
  | .proposedPendingIndependentRisk => "proposed_pending_independent_risk"
  | .blockedBeforeIndependentRisk => "blocked_before_independent_risk"

inductive StrategySizingReasonCode where
  | noSizingInputs | noTradeAction | positivePreRiskSize | zeroRiskBudget | costReduction
  | costBlock | uncertaintyReduction | uncertaintyBlock | drawdownReduction | drawdownBlock
deriving DecidableEq

def StrategySizingReasonCode.value : StrategySizingReasonCode → String
  | .noSizingInputs => "no_sizing_inputs"
  | .noTradeAction => "no_trade_action"
  | .positivePreRiskSize => "positive_pre_risk_size"
  | .zeroRiskBudget => "zero_risk_budget"
  | .costReduction => "cost_reduction"
  | .costBlock => "cost_block"
  | .uncertaintyReduction => "uncertainty_reduction"
  | .uncertaintyBlock => "uncertainty_block"
  | .drawdownReduction => "drawdown_reduction"
  | .drawdownBlock => "drawdown_block"

inductive StrategyRiskApprovalStatus where
  | notEvaluated
deriving DecidableEq

def StrategyRiskApprovalStatus.value : StrategyRiskApprovalStatus → String
  | .notEvaluated => "not_evaluated"

instance : ToPayload StrategyDecisionAction := ⟨fun x => .text x.value⟩
instance : ToPayload StrategyDecisionReasonCode := ⟨fun x => .text x.value⟩
instance : ToPayload StrategySizingStatus := ⟨fun x => .text x.value⟩
instance : ToPayload StrategySizingReasonCode := ⟨fun x => .text x.value⟩
instance : ToPayload StrategyRiskApprovalStatus := ⟨fun x => .text x.value⟩

/-- Forecast field read by the expected-net-edge policy. -/
inductive ExpectedReturnSource where
  | medianQuantile
deriving DecidableEq

def ExpectedReturnSource.value : ExpectedReturnSource → String
  | .medianQuantile => "median_quantile"

instance : ToPayload ExpectedReturnSource := ⟨fun x => .text x.value⟩

/-! ## Policy -/

section Policy

variable [Sha256]

/-- `build_strategy_decision_policy_hash`. -/
def buildStrategyDecisionPolicyHash (name : String) (expectedReturnSource : ExpectedReturnSource)
    (expectedReturnQuantile expectedCost maxExpectedCost uncertaintyBufferMultiplier maxUncertainty
      minNetEdge : Decimal) (requirementIds : List String) : String :=
  hash (.record
    [ ("expected_cost", toPayload expectedCost),
      ("expected_return_quantile", toPayload expectedReturnQuantile),
      ("expected_return_source", toPayload expectedReturnSource),
      ("max_expected_cost", toPayload maxExpectedCost),
      ("max_uncertainty", toPayload maxUncertainty), ("min_net_edge", toPayload minNetEdge),
      ("name", toPayload name), ("requirement_ids", toPayload requirementIds),
      ("uncertainty_buffer_multiplier", toPayload uncertaintyBufferMultiplier) ])

/-- `build_strategy_decision_policy_id`. -/
def buildStrategyDecisionPolicyId (policyHash : String) : String :=
  stableIdOfHash "STRATEGYPOLICY" "policy_hash" policyHash

/-- Assumptions that turn a forecast into a decision; the proof fields are
`policy_identity_is_deterministic`. -/
structure StrategyDecisionPolicy where
  policyId : String
  policyHash : String
  name : String
  expectedReturnSource : ExpectedReturnSource := .medianQuantile
  expectedReturnQuantile : {q : Decimal // 0 < q ∧ q < 1} := ⟨1 / 2, Decimal.half_is_level⟩
  expectedCost : NonNegativeDecimal
  maxExpectedCost : NonNegativeDecimal
  uncertaintyBufferMultiplier : NonNegativeDecimal := ⟨1, Decimal.zero_le_one⟩
  maxUncertainty : NonNegativeDecimal
  minNetEdge : NonNegativeDecimal := ⟨0, Decimal.zero_le_zero⟩
  requirementIds : List String := ["FR-009", "FR-015"]
  hash_is_deterministic : policyHash = buildStrategyDecisionPolicyHash name expectedReturnSource
    expectedReturnQuantile expectedCost maxExpectedCost uncertaintyBufferMultiplier maxUncertainty
    minNetEdge requirementIds
  id_is_deterministic : policyId = buildStrategyDecisionPolicyId policyHash

end Policy

/-! ## Sizing -/

/-- Explicit deterministic inputs of a pre-risk sizing proposal. -/
structure StrategySizingInputs where
  riskBudgetNotional : NonNegativeDecimal
  referencePrice : PositiveDecimal
  currentDrawdown : NonNegativeDecimal := ⟨0, Decimal.zero_le_zero⟩
  maxDrawdown : PositiveDecimal
  requirementIds : List String := ["FR-009", "FR-010"]

instance : ToPayload StrategySizingInputs := ⟨fun i =>
  .record
    [ ("current_drawdown", toPayload i.currentDrawdown), ("max_drawdown", toPayload i.maxDrawdown),
      ("reference_price", toPayload i.referencePrice),
      ("requirement_ids", toPayload i.requirementIds),
      ("risk_budget_notional", toPayload i.riskBudgetNotional) ]⟩

/-- Sizing proposal carried to the risk check without approval. -/
structure StrategySizingProposal where
  sizingStatus : StrategySizingStatus := .placeholderPendingRisk
  sizingInputs : Option StrategySizingInputs := none
  sizingReasonCodes : List StrategySizingReasonCode := [.noSizingInputs]
  preRiskMultiplier : {q : Decimal // 0 ≤ q ∧ q ≤ 1} := ⟨0, Decimal.zero_mem_unit⟩
  proposedNotional : NonNegativeDecimal := ⟨0, Decimal.zero_le_zero⟩
  proposedQuantity : NonNegativeDecimal := ⟨0, Decimal.zero_le_zero⟩
  approvedNotional : Option NonNegativeDecimal := none
  approvedQuantity : Option NonNegativeDecimal := none
  riskApprovalStatus : StrategyRiskApprovalStatus := .notEvaluated
  riskApprovalId : Option String := none

namespace StrategySizingProposal

instance : ToPayload StrategySizingProposal := ⟨fun s =>
  .record
    [ ("approved_notional", toPayload s.approvedNotional),
      ("approved_quantity", toPayload s.approvedQuantity),
      ("pre_risk_multiplier", toPayload s.preRiskMultiplier),
      ("proposed_notional", toPayload s.proposedNotional),
      ("proposed_quantity", toPayload s.proposedQuantity),
      ("risk_approval_id", toPayload s.riskApprovalId),
      ("risk_approval_status", toPayload s.riskApprovalStatus),
      ("sizing_inputs", toPayload s.sizingInputs),
      ("sizing_reason_codes", toPayload s.sizingReasonCodes),
      ("sizing_status", toPayload s.sizingStatus) ]⟩

/-- Both proposed amounts are positive. -/
def HasPositiveSize (s : StrategySizingProposal) : Prop :=
  0 < s.proposedNotional.val ∧ 0 < s.proposedQuantity.val

instance (s : StrategySizingProposal) : Decidable s.HasPositiveSize := by
  simp only [HasPositiveSize]
  infer_instance

/-- Both proposed amounts are zero. -/
def HasZeroSize (s : StrategySizingProposal) : Prop :=
  s.proposedNotional.val = 0 ∧ s.proposedQuantity.val = 0

instance (s : StrategySizingProposal) : Decidable s.HasZeroSize := by
  simp only [HasZeroSize]
  infer_instance

/-- `s8_does_not_approve_risk`. -/
def validate (s : StrategySizingProposal) : Raises Unit := do
  require (s.sizingReasonCodes ≠ []) "sizing proposals require at least one reason code"
  require (s.approvedNotional = none ∧ s.approvedQuantity = none ∧ s.riskApprovalId = none ∧
      s.riskApprovalStatus = .notEvaluated)
    "S8 decisions must not carry independent risk approval"
  require (s.HasPositiveSize ∨ s.HasZeroSize)
    "proposed notional and quantity must both be zero or both positive"
  if s.sizingInputs.isNone then do
    require (¬ s.HasPositiveSize) "positive pre-risk sizing requires explicit sizing inputs"
    require (s.sizingStatus = .placeholderPendingRisk)
      "missing sizing inputs require placeholder sizing status"
    require (s.sizingReasonCodes = [.noSizingInputs])
      "missing sizing inputs require no_sizing_inputs reason"
  else
    require (StrategySizingReasonCode.noSizingInputs ∉ s.sizingReasonCodes)
      "explicit sizing inputs cannot use no_sizing_inputs reason"
  if s.sizingStatus = .proposedPendingIndependentRisk then do
    require s.HasPositiveSize "proposed sizing status requires positive proposed size"
    require (0 < s.preRiskMultiplier.val)
      "positive proposed size requires positive pre-risk multiplier"
  else
    require (¬ s.HasPositiveSize) "positive proposed size requires proposed pending risk status"

end StrategySizingProposal

/-! ## Decisions -/

/-- Auditable trade or no-trade strategy decision produced from one forecast. -/
structure StrategyDecision where
  decisionId : String
  decisionHash : String
  traceId : String
  strategyRunId : String
  policyId : String
  policyHash : String
  sourceForecastId : String
  datasetSnapshotId : String
  datasetRowId : String
  featureVectorId : String
  featureInputSnapshotId : String
  featureVersion : String
  sourceFeatureSnapshotIds : List String
  instrumentId : String
  venueId : String
  featureTs : AwareDatetime
  decisionTs : AwareDatetime
  labelRuleId : String
  split : DatasetSplit
  trainingRunId : String
  modelVersionId : String
  modelVersionHash : String
  action : StrategyDecisionAction
  expectedReturn : Decimal
  expectedCost : NonNegativeDecimal
  uncertainty : NonNegativeDecimal
  uncertaintyBuffer : NonNegativeDecimal
  netEdge : Decimal
  reasonCode : StrategyDecisionReasonCode
  sizing : StrategySizingProposal := {}
  requirementIds : List String := ["FR-009", "FR-015"]

namespace StrategyDecision

/-- The fields hashed by `build_strategy_decision_hash`. -/
def identityFields (d : StrategyDecision) : List (String × Payload) :=
  [ ("action", toPayload d.action), ("dataset_row_id", toPayload d.datasetRowId),
    ("dataset_snapshot_id", toPayload d.datasetSnapshotId),
    ("decision_ts", toPayload d.decisionTs), ("expected_cost", toPayload d.expectedCost),
    ("expected_return", toPayload d.expectedReturn),
    ("feature_input_snapshot_id", toPayload d.featureInputSnapshotId),
    ("feature_ts", toPayload d.featureTs), ("feature_vector_id", toPayload d.featureVectorId),
    ("feature_version", toPayload d.featureVersion), ("instrument_id", toPayload d.instrumentId),
    ("label_rule_id", toPayload d.labelRuleId),
    ("model_version_hash", toPayload d.modelVersionHash),
    ("model_version_id", toPayload d.modelVersionId), ("net_edge", toPayload d.netEdge),
    ("policy_hash", toPayload d.policyHash), ("policy_id", toPayload d.policyId),
    ("reason_code", toPayload d.reasonCode), ("requirement_ids", toPayload d.requirementIds),
    ("sizing", toPayload d.sizing),
    ("source_feature_snapshot_ids", toPayload d.sourceFeatureSnapshotIds),
    ("source_forecast_id", toPayload d.sourceForecastId), ("split", toPayload d.split),
    ("strategy_run_id", toPayload d.strategyRunId), ("trace_id", toPayload d.traceId),
    ("training_run_id", toPayload d.trainingRunId), ("uncertainty", toPayload d.uncertainty),
    ("uncertainty_buffer", toPayload d.uncertaintyBuffer), ("venue_id", toPayload d.venueId) ]

/-- The checks of `decision_is_consistent_and_deterministic` that depend on the action. -/
def validateAction (d : StrategyDecision) : Raises Unit :=
  match d.action with
  | .buy => do
      require (d.reasonCode = .tradePositiveNetEdge)
        "buy decisions require trade_positive_net_edge reason"
      require (0 < d.expectedReturn ∧ 0 < d.netEdge)
        "buy decisions require positive expected return and net edge"
      require (d.sizing.sizingInputs.isSome →
          d.sizing.sizingStatus = .proposedPendingIndependentRisk ∧ d.sizing.HasPositiveSize)
        "buy decisions with sizing inputs require positive proposed size"
  | .noTrade => do
      require (d.reasonCode ≠ .tradePositiveNetEdge)
        "no-trade decisions require a no-trade reason"
      require d.sizing.HasZeroSize "no-trade decisions must keep proposed size at zero"

section Identity

variable [Sha256]

/-- `build_strategy_trace_id`. -/
def buildTraceId (strategyRunId sourceForecastId policyHash : String) (decisionTs : AwareDatetime) :
    String :=
  stableId "TRACE" (.record
    [ ("decision_ts", toPayload decisionTs), ("policy_hash", .text policyHash),
      ("source_forecast_id", .text sourceForecastId), ("strategy_run_id", .text strategyRunId) ])

/-- `build_strategy_decision_hash`. -/
def buildHash (d : StrategyDecision) : String := hash (.record d.identityFields)

/-- `build_strategy_decision_id`. -/
def buildId (decisionHash : String) : String :=
  stableIdOfHash "STRATEGYDECISION" "decision_hash" decisionHash

/-- The part of the validators that looks at neither the hash nor the id of the decision. -/
def validateFields (d : StrategyDecision) : Raises Unit := do
  d.sizing.validate
  require (d.split ≠ .train) "strategy decisions require out-of-sample forecasts"
  require (d.featureTs ≤ d.decisionTs) "decision_ts must not precede feature_ts"
  require (d.netEdge = d.expectedReturn - d.expectedCost.val - d.uncertaintyBuffer.val)
    "net_edge must equal expected_return minus expected_cost minus uncertainty_buffer"
  require (d.traceId =
      buildTraceId d.strategyRunId d.sourceForecastId d.policyHash d.decisionTs)
    "trace_id is not deterministic"
  d.validateAction

theorem validateFields_eq_ok_iff (d : StrategyDecision) :
    d.validateFields = .ok () ↔
      d.sizing.validate = .ok () ∧ d.split ≠ .train ∧ d.featureTs ≤ d.decisionTs ∧
      d.netEdge = d.expectedReturn - d.expectedCost.val - d.uncertaintyBuffer.val ∧
      d.traceId = buildTraceId d.strategyRunId d.sourceForecastId d.policyHash d.decisionTs ∧
      d.validateAction = .ok () := by
  simp only [validateFields, check_bind_eq_ok_iff, require_eq_ok_iff]

/-- Where a decision stores its hash and id. -/
def stamping : Library.Stamping StrategyDecision String String where
  checkFields := validateFields
  storedHash := decisionHash
  storedId := decisionId
  contentHash := buildHash
  idOfHash := buildId
  stamp d newHash newId := { d with decisionHash := newHash, decisionId := newId }
  hashError := "decision_hash is not deterministic"
  idError := "decision_id is not deterministic"
  storedHash_stamp _ _ _ := rfl
  storedId_stamp _ _ _ := rfl
  contentHash_stamp _ _ _ := rfl
  checkFields_stamp _ _ _ := rfl

/-- The validators `StrategyDecision(...)` runs. -/
def validate (d : StrategyDecision) : Raises Unit := stamping.validate d

/-- A valid decision carries the trace id of its run, forecast, policy and time. -/
theorem traceId_of_validate {d : StrategyDecision} (h : d.validate = .ok ()) :
    d.traceId = buildTraceId d.strategyRunId d.sourceForecastId d.policyHash d.decisionTs := by
  obtain ⟨hfields, -⟩ := (stamping.validate_eq_ok_iff d).mp h
  obtain ⟨-, -, -, -, htrace, -⟩ := (validateFields_eq_ok_iff d).mp hfields
  exact htrace

theorem isCanonicalId_traceId {d : StrategyDecision} (h : d.validate = .ok ()) :
    isCanonicalId d.traceId = true := by
  rw [traceId_of_validate h]
  exact isCanonicalId_stableId _ _ (by decide) (by decide)

end Identity

end StrategyDecision

end TaModel.Contracts
