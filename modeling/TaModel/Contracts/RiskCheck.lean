import TaModel.Contracts.Risk

/-!
# Risk-check requests, events and risk-gated replay results

The artifacts of `contracts/risk.py` that carry a hash and an id of their own. `validate` is what
the constructor runs, on the record and on the records nested in it; `construct` is the builder.
-/

set_option autoImplicit false

namespace TaModel.Contracts

/-! ## Requests -/

/-- Complete risk-check input of one pre-trade order intent. -/
structure RiskCheckRequest where
  requestId : String
  requestHash : String
  runId : String
  traceId : String
  sourceDecisionId : String
  decisionTs : AwareDatetime
  riskCheckTs : AwareDatetime
  strategyVersion : String
  accountId : String
  orderIntent : OrderIntent
  idempotencyKey : String
  referencePrice : PositiveDecimal
  accountEquity : PositiveDecimal
  currentCash : NonNegativeDecimal
  currentInstrumentPositionQuantity : NonNegativeDecimal := ⟨0, Decimal.zero_le_zero⟩
  currentInstrumentExposureNotional : NonNegativeDecimal := ⟨0, Decimal.zero_le_zero⟩
  currentStrategyExposureNotional : NonNegativeDecimal := ⟨0, Decimal.zero_le_zero⟩
  currentTotalSpotExposureNotional : NonNegativeDecimal := ⟨0, Decimal.zero_le_zero⟩
  instrumentMasterSnapshot : InstrumentMasterSnapshot
  killSwitchSnapshot : KillSwitchSnapshot
  priceRisk : PriceRiskTelemetry := {}
  lossRisk : LossRiskTelemetry := {}
  liquidityRisk : LiquidityRiskTelemetry := {}
  marketRisk : MarketRiskTelemetry := {}
  engineLatency : EngineLatencyTelemetry := {}
  modelRisk : ModelRiskTelemetry := {}
  tcaRisk : TcaRiskTelemetry := {}
  dataHealthSignals : List DataHealthSignal := []
  idempotencyRecords : List OrderIdempotencyRecord := []
  throttleWindows : List OrderThrottleWindow := []
  rejectBurstWindows : List ExecutionRejectBurstWindow := []
  requirementIds : List String := ["FR-010", "FR-011", "NFR-004"]

/-- `build_order_intent_hash`. -/
def buildOrderIntentHash [Sha256] (intent : OrderIntent) : String := hash (toPayload intent)

namespace RiskCheckRequest

/-- The fields hashed by `build_risk_check_request_hash`. -/
def identityFields (r : RiskCheckRequest) : List (String × Payload) :=
  [ ("account_equity", toPayload r.accountEquity), ("account_id", toPayload r.accountId),
    ("current_cash", toPayload r.currentCash),
    ("current_instrument_exposure_notional", toPayload r.currentInstrumentExposureNotional),
    ("current_instrument_position_quantity", toPayload r.currentInstrumentPositionQuantity),
    ("current_strategy_exposure_notional", toPayload r.currentStrategyExposureNotional),
    ("current_total_spot_exposure_notional", toPayload r.currentTotalSpotExposureNotional),
    ("data_health_signals", toPayload r.dataHealthSignals),
    ("decision_ts", toPayload r.decisionTs), ("idempotency_key", toPayload r.idempotencyKey),
    ("idempotency_records", toPayload r.idempotencyRecords),
    ("engine_latency", toPayload r.engineLatency),
    ("instrument_master_snapshot", r.instrumentMasterSnapshot.riskPayload),
    ("kill_switch_snapshot", toPayload r.killSwitchSnapshot),
    ("liquidity_risk", toPayload r.liquidityRisk), ("loss_risk", toPayload r.lossRisk),
    ("market_risk", toPayload r.marketRisk), ("model_risk", toPayload r.modelRisk),
    ("order_intent", toPayload r.orderIntent), ("price_risk", toPayload r.priceRisk),
    ("reference_price", toPayload r.referencePrice),
    ("reject_burst_windows", toPayload r.rejectBurstWindows),
    ("requirement_ids", toPayload r.requirementIds), ("risk_check_ts", toPayload r.riskCheckTs),
    ("run_id", toPayload r.runId), ("source_decision_id", toPayload r.sourceDecisionId),
    ("strategy_version", toPayload r.strategyVersion), ("tca_risk", toPayload r.tcaRisk),
    ("throttle_windows", toPayload r.throttleWindows), ("trace_id", toPayload r.traceId) ]

section Identity

variable [Sha256]

/-- `build_risk_check_request_hash`. -/
def buildHash (r : RiskCheckRequest) : String := hash (.record r.identityFields)

/-- `build_risk_check_request_id`. -/
def buildId (requestHash : String) : String :=
  stableIdOfHash "RISKREQUEST" "request_hash" requestHash

/-- The part of the validators that looks at neither the hash nor the id of the request. -/
def validateFields (r : RiskCheckRequest) : Raises Unit := do
  require (isCanonicalId r.runId ∧ isCanonicalId r.accountId)
    "String should match pattern '^[A-Z0-9][A-Z0-9._:-]*$'"
  require (isNonEmptyString r.strategyVersion ∧ isNonEmptyString r.idempotencyKey)
    "String should have at least 1 character"
  r.instrumentMasterSnapshot.validateReferences
  r.killSwitchSnapshot.validate
  r.idempotencyRecords.forM OrderIdempotencyRecord.validate
  require (r.decisionTs ≤ r.riskCheckTs) "risk_check_ts must not precede decision_ts"
  require (r.traceId = r.orderIntent.traceId)
    "risk-check trace_id must match order intent trace_id"
  require (r.sourceDecisionId = r.orderIntent.sourceDecisionId)
    "source_decision_id must match order intent source_decision_id"
  require (r.decisionTs ≤ r.orderIntent.submittedAt)
    "order intent submitted_at must not precede decision_ts"
  require (r.orderIntent.instrumentId ∈
      r.instrumentMasterSnapshot.instruments.map Instrument.instrumentId)
    "order intent instrument_id must exist in instrument master snapshot"

theorem validateFields_eq_ok_iff (r : RiskCheckRequest) :
    r.validateFields = .ok () ↔
      (isCanonicalId r.runId = true ∧ isCanonicalId r.accountId = true) ∧
      (isNonEmptyString r.strategyVersion = true ∧ isNonEmptyString r.idempotencyKey = true) ∧
      r.instrumentMasterSnapshot.validateReferences = .ok () ∧
      r.killSwitchSnapshot.validate = .ok () ∧
      (∀ record ∈ r.idempotencyRecords, record.validate = .ok ()) ∧
      r.decisionTs ≤ r.riskCheckTs ∧ r.traceId = r.orderIntent.traceId ∧
      r.sourceDecisionId = r.orderIntent.sourceDecisionId ∧
      r.decisionTs ≤ r.orderIntent.submittedAt ∧
      r.orderIntent.instrumentId ∈
        r.instrumentMasterSnapshot.instruments.map Instrument.instrumentId := by
  simp only [validateFields, check_bind_eq_ok_iff, require_eq_ok_iff, forM_eq_ok_iff]

/-- Where a request stores its hash and id. -/
def stamping : Library.Stamping RiskCheckRequest String String where
  checkFields := validateFields
  storedHash := requestHash
  storedId := requestId
  contentHash := buildHash
  idOfHash := buildId
  stamp r newHash newId := { r with requestHash := newHash, requestId := newId }
  hashError := "risk-check request_hash is not deterministic"
  idError := "risk-check request_id is not deterministic"
  storedHash_stamp _ _ _ := rfl
  storedId_stamp _ _ _ := rfl
  contentHash_stamp _ _ _ := rfl
  checkFields_stamp _ _ _ := rfl

/-- The validators `RiskCheckRequest(...)` runs. -/
def validate (r : RiskCheckRequest) : Raises Unit := stamping.validate r

/-- The builder: a draft gets its hash and id, and is validated. -/
def construct (draft : RiskCheckRequest) : Raises RiskCheckRequest := stamping.construct draft

/-- `make_risk_check_request`: trace and decision come from the order intent, and an empty
idempotency key is replaced by the client order id. -/
def make (draft : RiskCheckRequest) : Raises RiskCheckRequest :=
  construct
    { draft with
      requestId := "RISKREQUEST:PLACEHOLDER", requestHash := "",
      traceId := draft.orderIntent.traceId, sourceDecisionId := draft.orderIntent.sourceDecisionId,
      idempotencyKey :=
        if draft.idempotencyKey = "" then draft.orderIntent.clientOrderId
        else draft.idempotencyKey,
      requirementIds := ["FR-010", "FR-011", "NFR-004"] }

end Identity

end RiskCheckRequest

/-! ## Events -/

/-- Pre-trade risk approval or rejection evidence. -/
structure RiskCheckEvent where
  riskCheckId : String
  riskCheckHash : String
  request : RiskCheckRequest
  riskPolicyId : String
  riskPolicyHash : String
  orderEffect : OrderEffect
  limitEvaluations : List RiskLimitEvaluation
  activeKillState : KillSwitchState
  finalDecision : RiskDecisionStatus
  reasonCodes : List RiskReasonCode
  approvedOrderIntent : Option OrderIntent := none
  requirementIds : List String := ["FR-010", "FR-011", "NFR-004"]

/-- The reason codes of the breached evaluations. -/
def breachedReasonCodes (evaluations : List RiskLimitEvaluation) : List RiskReasonCode :=
  (evaluations.map RiskLimitEvaluation.reasonCode).filter (· ≠ .passed)

/-- Some evaluation is a hard breach. -/
def hasHardBreach (evaluations : List RiskLimitEvaluation) : Bool :=
  evaluations.any fun e => e.status = .hardBreach

theorem hasHardBreach_eq_false_iff (evaluations : List RiskLimitEvaluation) :
    hasHardBreach evaluations = false ↔ ∀ e ∈ evaluations, e.status ≠ .hardBreach := by
  simp [hasHardBreach]

/-- The decisions that carry an approved intent. -/
def RiskDecisionStatus.isApproval (d : RiskDecisionStatus) : Bool :=
  d = .approved || d = .approvedAfterCap || d = .cancelReduceOnlyApproved

namespace RiskCheckEvent

/-- The fields hashed by `build_risk_check_event_hash`. -/
def identityFields (e : RiskCheckEvent) : List (String × Payload) :=
  [ ("active_kill_state", toPayload e.activeKillState),
    ("approved_order_intent", toPayload e.approvedOrderIntent),
    ("final_decision", toPayload e.finalDecision),
    ("limit_evaluations", toPayload e.limitEvaluations),
    ("order_effect", toPayload e.orderEffect), ("reason_codes", toPayload e.reasonCodes),
    ("request_hash", toPayload e.request.requestHash),
    ("request_id", toPayload e.request.requestId),
    ("requirement_ids", toPayload e.requirementIds),
    ("risk_policy_hash", toPayload e.riskPolicyHash),
    ("risk_policy_id", toPayload e.riskPolicyId) ]

section Identity

variable [Sha256]

/-- `build_risk_check_event_hash`. -/
def buildHash (e : RiskCheckEvent) : String := hash (.record e.identityFields)

/-- `build_risk_check_event_id`. -/
def buildId (riskCheckHash : String) : String :=
  stableIdOfHash "RISKCHECK" "risk_check_hash" riskCheckHash

/-- The part of the validators that looks at neither the hash nor the id of the event. -/
def validateFields (e : RiskCheckEvent) : Raises Unit := do
  e.request.validate
  require (e.limitEvaluations ≠ []) "limit_evaluations: Tuple should have at least 1 item"
  e.limitEvaluations.forM RiskLimitEvaluation.validate
  require (e.activeKillState = e.request.killSwitchSnapshot.activeState)
    "active_kill_state must match kill-switch snapshot"
  require (e.reasonCodes = breachedReasonCodes e.limitEvaluations)
    "risk reason_codes must match breached limit evaluations"
  require (hasHardBreach e.limitEvaluations → e.finalDecision = .rejected)
    "hard breaches must reject the risk check"
  require (e.finalDecision.isApproval → e.approvedOrderIntent ≠ none)
    "approved risk decisions require an approved order intent"
  require (e.finalDecision.isApproval = false → e.approvedOrderIntent = none)
    "rejected/no-trade risk decisions must not carry an approved intent"

theorem validateFields_eq_ok_iff (e : RiskCheckEvent) :
    e.validateFields = .ok () ↔
      e.request.validate = .ok () ∧ e.limitEvaluations ≠ [] ∧
      (∀ evaluation ∈ e.limitEvaluations, evaluation.validate = .ok ()) ∧
      e.activeKillState = e.request.killSwitchSnapshot.activeState ∧
      e.reasonCodes = breachedReasonCodes e.limitEvaluations ∧
      (hasHardBreach e.limitEvaluations = true → e.finalDecision = .rejected) ∧
      (e.finalDecision.isApproval = true → e.approvedOrderIntent ≠ none) ∧
      (e.finalDecision.isApproval = false → e.approvedOrderIntent = none) := by
  simp only [validateFields, check_bind_eq_ok_iff, require_eq_ok_iff, forM_eq_ok_iff]

/-- Where a event stores its hash and id. -/
def stamping : Library.Stamping RiskCheckEvent String String where
  checkFields := validateFields
  storedHash := riskCheckHash
  storedId := riskCheckId
  contentHash := buildHash
  idOfHash := buildId
  stamp e newHash newId := { e with riskCheckHash := newHash, riskCheckId := newId }
  hashError := "risk_check_hash is not deterministic"
  idError := "risk_check_id is not deterministic"
  storedHash_stamp _ _ _ := rfl
  storedId_stamp _ _ _ := rfl
  contentHash_stamp _ _ _ := rfl
  checkFields_stamp _ _ _ := rfl

/-- The validators `RiskCheckEvent(...)` runs. -/
def validate (e : RiskCheckEvent) : Raises Unit := stamping.validate e

/-- The builder: a draft gets its hash and id, and is validated. -/
def construct (draft : RiskCheckEvent) : Raises RiskCheckEvent := stamping.construct draft

/-- `make_risk_check_event`. -/
def make (request : RiskCheckRequest) (policy : RiskPolicy) (orderEffect : OrderEffect)
    (limitEvaluations : List RiskLimitEvaluation) (finalDecision : RiskDecisionStatus)
    (approvedOrderIntent : Option OrderIntent) : Raises RiskCheckEvent :=
  construct
    { riskCheckId := "RISKCHECK:PLACEHOLDER", riskCheckHash := "", request := request,
      riskPolicyId := policy.policyId, riskPolicyHash := policy.policyHash,
      orderEffect := orderEffect, limitEvaluations := limitEvaluations,
      activeKillState := request.killSwitchSnapshot.activeState, finalDecision := finalDecision,
      reasonCodes := breachedReasonCodes limitEvaluations,
      approvedOrderIntent := approvedOrderIntent }

end Identity

end RiskCheckEvent

/-! ## Risk-gated replay results -/

/-- `parts` makes up `ids`: same length and same members. -/
def isPartitionOf (parts ids : List String) : Prop :=
  parts.length = ids.length ∧ (∀ id ∈ parts, id ∈ ids) ∧ ∀ id ∈ ids, id ∈ parts

instance (parts ids : List String) : Decidable (isPartitionOf parts ids) := by
  simp only [isPartitionOf]
  infer_instance

/-- Evidence that only approved intents were forwarded to replay. -/
structure RiskGatedReplayResult where
  resultId : String
  resultHash : String
  runId : String
  riskCheckIds : List String
  approvedRiskCheckIds : List String
  blockedRiskCheckIds : List String
  replayReport : Option ReplayReport := none
  requirementIds : List String := ["FR-010", "FR-012", "NFR-004"]

/-- `_model_json(report)`. -/
instance : ToPayload ReplayReport := ⟨fun r =>
  .record
    [ ("final_account_state", toPayload r.finalAccountState),
      ("market_data_hash", toPayload r.marketDataHash),
      ("rejection_counts", toPayload r.rejectionCounts),
      ("replay_report_hash", toPayload r.replayReportHash),
      ("replay_report_id", toPayload r.replayReportId),
      ("requirement_ids", toPayload r.requirementIds), ("result_ids", toPayload r.resultIds),
      ("results", toPayload r.results), ("run_id", toPayload r.runId) ]⟩

namespace RiskGatedReplayResult

/-- The fields hashed by `build_risk_gated_replay_result_hash`. -/
def identityFields (r : RiskGatedReplayResult) : List (String × Payload) :=
  [ ("approved_risk_check_ids", toPayload r.approvedRiskCheckIds),
    ("blocked_risk_check_ids", toPayload r.blockedRiskCheckIds),
    ("replay_report", toPayload r.replayReport), ("requirement_ids", toPayload r.requirementIds),
    ("risk_check_ids", toPayload r.riskCheckIds), ("run_id", toPayload r.runId) ]

section Identity

variable [Sha256]

/-- `build_risk_gated_replay_result_hash`. -/
def buildHash (r : RiskGatedReplayResult) : String := hash (.record r.identityFields)

/-- `build_risk_gated_replay_result_id`. -/
def buildId (resultHash : String) : String :=
  stableIdOfHash "RISKGATEDREPLAY" "result_hash" resultHash

/-- The part of the validators that looks at neither the hash nor the id of the result. -/
def validateFields (r : RiskGatedReplayResult) : Raises Unit := do
  require (isCanonicalId r.runId) "String should match pattern '^[A-Z0-9][A-Z0-9._:-]*$'"
  require (isPartitionOf (r.approvedRiskCheckIds ++ r.blockedRiskCheckIds) r.riskCheckIds)
    "risk-gated replay ids must partition input risk checks"
  require (r.approvedRiskCheckIds = [] → r.replayReport = none)
    "risk-gated replay must not create a replay report without approvals"
  require (r.approvedRiskCheckIds ≠ [] → r.replayReport ≠ none)
    "approved risk checks require a replay report"

omit [Sha256] in
theorem validateFields_eq_ok_iff (r : RiskGatedReplayResult) :
    r.validateFields = .ok () ↔
      isCanonicalId r.runId = true ∧
      isPartitionOf (r.approvedRiskCheckIds ++ r.blockedRiskCheckIds) r.riskCheckIds ∧
      (r.approvedRiskCheckIds = [] → r.replayReport = none) ∧
      (r.approvedRiskCheckIds ≠ [] → r.replayReport ≠ none) := by
  simp only [validateFields, check_bind_eq_ok_iff, require_eq_ok_iff]

/-- Where a result stores its hash and id. -/
def stamping : Library.Stamping RiskGatedReplayResult String String where
  checkFields := validateFields
  storedHash := resultHash
  storedId := resultId
  contentHash := buildHash
  idOfHash := buildId
  stamp r newHash newId := { r with resultHash := newHash, resultId := newId }
  hashError := "risk-gated replay result_hash is not deterministic"
  idError := "risk-gated replay result_id is not deterministic"
  storedHash_stamp _ _ _ := rfl
  storedId_stamp _ _ _ := rfl
  contentHash_stamp _ _ _ := rfl
  checkFields_stamp _ _ _ := rfl

/-- The validators `RiskGatedReplayResult(...)` runs. -/
def validate (r : RiskGatedReplayResult) : Raises Unit := stamping.validate r

/-- The builder: a draft gets its hash and id, and is validated. -/
def construct (draft : RiskGatedReplayResult) : Raises RiskGatedReplayResult :=
  stamping.construct draft

end Identity

end RiskGatedReplayResult

end TaModel.Contracts
