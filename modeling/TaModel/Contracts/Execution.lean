import TaModel.Contracts.RiskCheck

/-!
# Execution gateway contracts

The lifecycle events and reports of `contracts/execution.py` that the simulator and the paper
gateway share. A lifecycle event is blocked, or it repeats a replay result; `validateBlocked` and
`validateReplayBacked` are the two halves of its validator.
-/

set_option autoImplicit false

namespace TaModel.Contracts

inductive ExecutionGatewayKind where
  | simulator | paper
deriving DecidableEq

def ExecutionGatewayKind.value : ExecutionGatewayKind → String
  | .simulator => "simulator"
  | .paper => "paper"

inductive ExecutionFillMode where
  | eventTimeReplay | paperSimulatedFill
deriving DecidableEq

def ExecutionFillMode.value : ExecutionFillMode → String
  | .eventTimeReplay => "event_time_replay"
  | .paperSimulatedFill => "paper_simulated_fill"

inductive ExecutionGatewayOrderStatus where
  | blocked | rejected | unfilled | partiallyFilled | filled
deriving DecidableEq

namespace ExecutionGatewayOrderStatus

def value : ExecutionGatewayOrderStatus → String
  | .blocked => "blocked"
  | .rejected => "rejected"
  | .unfilled => "unfilled"
  | .partiallyFilled => "partially_filled"
  | .filled => "filled"

/-- `_REPLAY_TO_GATEWAY_STATUS`. -/
def ofReplay : ReplayFillStatus → ExecutionGatewayOrderStatus
  | .filled => .filled
  | .partiallyFilled => .partiallyFilled
  | .unfilled => .unfilled
  | .rejected => .rejected

theorem ofReplay_ne_blocked (status : ReplayFillStatus) : ofReplay status ≠ .blocked := by
  cases status <;> decide

/-- `_FILLED_STATUSES`. -/
def isFilled (status : ExecutionGatewayOrderStatus) : Bool :=
  status = .filled || status = .partiallyFilled

end ExecutionGatewayOrderStatus

instance : ToPayload ExecutionGatewayKind := ⟨fun x => .text x.value⟩
instance : ToPayload ExecutionFillMode := ⟨fun x => .text x.value⟩
instance : ToPayload ExecutionGatewayOrderStatus := ⟨fun x => .text x.value⟩

/-- The fill mode of a gateway. -/
def ExecutionGatewayKind.fillMode : ExecutionGatewayKind → ExecutionFillMode
  | .paper => .paperSimulatedFill
  | .simulator => .eventTimeReplay

/-- `_validate_gateway_fill_mode`. -/
def validateGatewayFillMode (gatewayKind : ExecutionGatewayKind) (fillMode : ExecutionFillMode) :
    Raises Unit :=
  match gatewayKind with
  | .paper =>
      require (fillMode = .paperSimulatedFill)
        "paper gateway reports must use paper_simulated_fill mode"
  | .simulator =>
      require (fillMode = .eventTimeReplay)
        "simulator gateway reports must use event_time_replay mode"

theorem validateGatewayFillMode_eq_ok_iff (gatewayKind : ExecutionGatewayKind)
    (fillMode : ExecutionFillMode) :
    validateGatewayFillMode gatewayKind fillMode = .ok () ↔ fillMode = gatewayKind.fillMode := by
  cases gatewayKind with
  | simulator => exact require_eq_ok_iff _ _ _
  | paper => exact require_eq_ok_iff _ _ _

/-! ## Lifecycle events -/

/-- Auditable lifecycle event of one risk-gated order attempt. -/
structure ExecutionGatewayLifecycleEvent where
  gatewayEventId : String
  gatewayEventHash : String
  gatewayOrderId : Option String
  gatewayKind : ExecutionGatewayKind
  fillMode : ExecutionFillMode
  runId : String
  riskCheckId : String
  riskCheckHash : String
  riskDecision : RiskDecisionStatus
  riskReasonCodes : List RiskReasonCode
  clientOrderId : String
  traceId : String
  sourceDecisionId : String
  instrumentId : String
  venueId : String
  side : OrderSide
  orderType : OrderType
  requestedQuantity : PositiveDecimal
  gatewayQuantity : PositiveDecimal
  submittedAt : AwareDatetime
  status : ExecutionGatewayOrderStatus
  replayOrderResultId : Option String
  replayStatus : Option ReplayFillStatus
  replayRejectReason : Option ReplayRejectReason
  fillPrice : Option Decimal
  filledQuantity : Decimal
  remainingQuantity : Decimal
  fillEventOpenTs : Option AwareDatetime
  fillEventCloseTs : Option AwareDatetime
  fillEventSourceTs : Option AwareDatetime
  fillRawPayloadId : Option String
  costModelId : Option String
  costModelHash : Option String
  latencyBars : Nat
  eligibleEventIndex : Option Nat
  fillAttemptEventIndex : Option Nat
  arrivalReferencePrice : Option Decimal
  effectiveFillPrice : Option Decimal
  referenceNotional : Decimal
  effectiveNotional : Decimal
  feeCost : Decimal
  spreadCost : Decimal
  slippageCost : Decimal
  totalCost : Decimal
  requirementIds : List String
deriving DecidableEq

namespace ExecutionGatewayLifecycleEvent

/-- The fields hashed by `build_execution_gateway_event_hash`. -/
def identityFields (e : ExecutionGatewayLifecycleEvent) : List (String × Payload) :=
  [ ("arrival_reference_price", toPayload e.arrivalReferencePrice),
    ("client_order_id", toPayload e.clientOrderId),
    ("cost_model_hash", toPayload e.costModelHash), ("cost_model_id", toPayload e.costModelId),
    ("effective_fill_price", toPayload e.effectiveFillPrice),
    ("effective_notional", toPayload e.effectiveNotional),
    ("eligible_event_index", toPayload e.eligibleEventIndex), ("fee_cost", toPayload e.feeCost),
    ("fill_attempt_event_index", toPayload e.fillAttemptEventIndex),
    ("fill_event_close_ts", toPayload e.fillEventCloseTs),
    ("fill_event_open_ts", toPayload e.fillEventOpenTs),
    ("fill_event_source_ts", toPayload e.fillEventSourceTs), ("fill_mode", toPayload e.fillMode),
    ("fill_price", toPayload e.fillPrice), ("fill_raw_payload_id", toPayload e.fillRawPayloadId),
    ("filled_quantity", toPayload e.filledQuantity), ("gateway_kind", toPayload e.gatewayKind),
    ("gateway_order_id", toPayload e.gatewayOrderId),
    ("gateway_quantity", toPayload e.gatewayQuantity),
    ("instrument_id", toPayload e.instrumentId), ("latency_bars", toPayload e.latencyBars),
    ("order_type", toPayload e.orderType),
    ("reference_notional", toPayload e.referenceNotional),
    ("remaining_quantity", toPayload e.remainingQuantity),
    ("replay_order_result_id", toPayload e.replayOrderResultId),
    ("replay_reject_reason", toPayload e.replayRejectReason),
    ("replay_status", toPayload e.replayStatus),
    ("requested_quantity", toPayload e.requestedQuantity),
    ("requirement_ids", toPayload e.requirementIds),
    ("risk_check_hash", toPayload e.riskCheckHash), ("risk_check_id", toPayload e.riskCheckId),
    ("risk_decision", toPayload e.riskDecision),
    ("risk_reason_codes", toPayload e.riskReasonCodes), ("run_id", toPayload e.runId),
    ("side", toPayload e.side), ("slippage_cost", toPayload e.slippageCost),
    ("source_decision_id", toPayload e.sourceDecisionId),
    ("spread_cost", toPayload e.spreadCost), ("status", toPayload e.status),
    ("submitted_at", toPayload e.submittedAt), ("total_cost", toPayload e.totalCost),
    ("trace_id", toPayload e.traceId), ("venue_id", toPayload e.venueId) ]

/-- `_model_json(event)`. -/
instance : ToPayload ExecutionGatewayLifecycleEvent := ⟨fun e =>
  .record (("gateway_event_hash", toPayload e.gatewayEventHash) ::
    ("gateway_event_id", toPayload e.gatewayEventId) :: e.identityFields)⟩

/-- Field bounds of a lifecycle event (`ge=0`). -/
def FieldsInBounds (e : ExecutionGatewayLifecycleEvent) : Prop :=
  (∀ p ∈ e.fillPrice, 0 ≤ p) ∧ 0 ≤ e.filledQuantity ∧ 0 ≤ e.remainingQuantity ∧
    (∀ p ∈ e.arrivalReferencePrice, 0 ≤ p) ∧ (∀ p ∈ e.effectiveFillPrice, 0 ≤ p) ∧
    0 ≤ e.referenceNotional ∧ 0 ≤ e.effectiveNotional ∧ 0 ≤ e.feeCost ∧ 0 ≤ e.spreadCost ∧
    0 ≤ e.slippageCost ∧ 0 ≤ e.totalCost

instance (e : ExecutionGatewayLifecycleEvent) : Decidable e.FieldsInBounds := by
  simp only [FieldsInBounds]
  infer_instance

/-- No price, lineage or cost of a fill. -/
def NoFillAttribution (e : ExecutionGatewayLifecycleEvent) : Prop :=
  e.fillEventOpenTs = none ∧ e.fillEventCloseTs = none ∧ e.fillEventSourceTs = none ∧
    e.fillRawPayloadId = none ∧ e.arrivalReferencePrice = none ∧ e.effectiveFillPrice = none ∧
    e.referenceNotional = 0 ∧ e.effectiveNotional = 0 ∧ e.feeCost = 0 ∧ e.spreadCost = 0 ∧
    e.slippageCost = 0 ∧ e.totalCost = 0

instance (e : ExecutionGatewayLifecycleEvent) : Decidable e.NoFillAttribution := by
  simp only [NoFillAttribution]
  infer_instance

/-- `_validate_blocked_event`. -/
def validateBlocked (e : ExecutionGatewayLifecycleEvent) : Raises Unit := do
  require (e.gatewayOrderId = none) "blocked risk events must not create a gateway_order_id"
  require (e.replayOrderResultId = none ∧ e.replayStatus = none)
    "blocked risk events must not carry replay result evidence"
  require (e.replayRejectReason = none)
    "blocked risk events use risk reasons, not replay reject reasons"
  require (e.filledQuantity = 0 ∧ e.remainingQuantity = e.gatewayQuantity.val)
    "blocked risk events must not carry fills"
  require (e.fillPrice = none ∧ e.costModelId = none ∧ e.costModelHash = none ∧
      e.latencyBars = 0 ∧ e.eligibleEventIndex = none ∧ e.fillAttemptEventIndex = none ∧
      e.NoFillAttribution)
    "blocked risk events must not carry placement or fill attribution"

/-- `_validate_filled_event`. -/
def validateFilled (e : ExecutionGatewayLifecycleEvent) : Raises Unit := do
  require (e.replayRejectReason = none) "filled gateway event must not set replay_reject_reason"
  require (∃ p ∈ e.fillPrice, 0 < p) "filled gateway event requires positive fill_price"
  require (e.status = .filled → e.filledQuantity = e.gatewayQuantity.val)
    "filled gateway event must fill full gateway quantity"
  require (e.status ≠ .filled → 0 < e.filledQuantity ∧ e.filledQuantity < e.gatewayQuantity.val)
    "partially filled gateway event requires partial quantity"
  require (e.fillEventOpenTs ≠ none ∧ e.fillEventCloseTs ≠ none ∧ e.fillEventSourceTs ≠ none ∧
      e.fillRawPayloadId ≠ none)
    "filled gateway event requires fill event lineage"
  match e.arrivalReferencePrice, e.effectiveFillPrice with
  | some arrival, some effective => do
      require (some effective = e.fillPrice)
        "effective_fill_price must match fill_price when present"
      require (e.referenceNotional = arrival * e.filledQuantity)
        "reference_notional must match arrival price times fill quantity"
      require (e.effectiveNotional = effective * e.filledQuantity)
        "effective_notional must match effective price times fill quantity"
  | _, _ => .error "filled gateway event requires price attribution"

/-- `_validate_unfilled_or_rejected_event`. -/
def validateUnfilledOrRejected (e : ExecutionGatewayLifecycleEvent) : Raises Unit := do
  require (e.replayRejectReason ≠ none)
    "unfilled/rejected gateway event requires replay_reject_reason"
  require (e.fillPrice = none ∧ e.filledQuantity = 0)
    "unfilled/rejected gateway event must not carry a fill"
  require e.NoFillAttribution "unfilled/rejected gateway event must not carry fill attribution"
  require (e.remainingQuantity = e.gatewayQuantity.val)
    "unfilled/rejected gateway event must leave full quantity remaining"

section Identity

variable [Sha256]

/-- `build_execution_gateway_order_id_from_parts`. -/
def buildOrderIdFromParts (gatewayKind : ExecutionGatewayKind)
    (runId riskCheckId clientOrderId : String) : String :=
  stableId "GATEWAYORDER" (.record
    [ ("client_order_id", toPayload clientOrderId), ("gateway_kind", toPayload gatewayKind),
      ("risk_check_id", toPayload riskCheckId), ("run_id", toPayload runId) ])

/-- `build_execution_gateway_order_id`. -/
def buildOrderId (e : ExecutionGatewayLifecycleEvent) : String :=
  buildOrderIdFromParts e.gatewayKind e.runId e.riskCheckId e.clientOrderId

/-- `_validate_replay_backed_event`. -/
def validateReplayBacked (e : ExecutionGatewayLifecycleEvent) : Raises Unit := do
  require (e.gatewayOrderId ≠ none) "approved gateway events require a gateway_order_id"
  require (e.gatewayOrderId = some e.buildOrderId) "gateway_order_id is not deterministic"
  require (e.replayOrderResultId ≠ none ∧ e.replayStatus ≠ none)
    "approved gateway events require replay result evidence"
  require (∀ status ∈ e.replayStatus, e.status = .ofReplay status)
    "gateway status must match replay result status"
  if e.status.isFilled then e.validateFilled else e.validateUnfilledOrRejected

/-- `build_execution_gateway_event_hash`. -/
def buildHash (e : ExecutionGatewayLifecycleEvent) : String := hash (.record e.identityFields)

/-- `build_execution_gateway_event_id`. -/
def buildId (eventHash : String) : String :=
  stableIdOfHash "GATEWAYEVENT" "gateway_event_hash" eventHash

/-- The check that depends on the status: a blocked event has no approval, any other one has. -/
def validateStatus (e : ExecutionGatewayLifecycleEvent) : Raises Unit :=
  if e.status = .blocked then do
    require (e.riskDecision.isApproval = false)
      "approved risk decisions cannot emit blocked gateway events"
    e.validateBlocked
  else do
    require (e.riskDecision.isApproval = true)
      "non-blocked gateway events require approved risk evidence"
    e.validateReplayBacked

/-- The part of the validators that looks at neither the hash nor the id of the event. -/
def validateFields (e : ExecutionGatewayLifecycleEvent) : Raises Unit := do
  require e.FieldsInBounds "Input should be greater than or equal to 0"
  require (isCanonicalId e.runId) "String should match pattern '^[A-Z0-9][A-Z0-9._:-]*$'"
  validateGatewayFillMode e.gatewayKind e.fillMode
  require (e.costModelId = none ↔ e.costModelHash = none)
    "cost_model_id and cost_model_hash must be set together"
  require (e.totalCost = e.feeCost + e.spreadCost + e.slippageCost)
    "total_cost must equal fee_cost plus spread_cost plus slippage_cost"
  require (0 < e.totalCost → e.costModelId ≠ none ∧ e.costModelHash ≠ none)
    "positive execution costs require cost model identity"
  require (e.remainingQuantity = e.gatewayQuantity.val - e.filledQuantity)
    "remaining_quantity must equal gateway_quantity minus filled_quantity"
  e.validateStatus

theorem validateFields_eq_ok_iff (e : ExecutionGatewayLifecycleEvent) :
    e.validateFields = .ok () ↔
      e.FieldsInBounds ∧ isCanonicalId e.runId = true ∧
      validateGatewayFillMode e.gatewayKind e.fillMode = .ok () ∧
      (e.costModelId = none ↔ e.costModelHash = none) ∧
      e.totalCost = e.feeCost + e.spreadCost + e.slippageCost ∧
      (0 < e.totalCost → e.costModelId ≠ none ∧ e.costModelHash ≠ none) ∧
      e.remainingQuantity = e.gatewayQuantity.val - e.filledQuantity ∧
      e.validateStatus = .ok () := by
  simp only [validateFields, check_bind_eq_ok_iff, require_eq_ok_iff]

/-- Where a lifecycle event stores its hash and id. -/
def stamping : Library.Stamping ExecutionGatewayLifecycleEvent String String where
  checkFields := validateFields
  storedHash := gatewayEventHash
  storedId := gatewayEventId
  contentHash := buildHash
  idOfHash := buildId
  stamp e newHash newId := { e with gatewayEventHash := newHash, gatewayEventId := newId }
  hashError := "gateway_event_hash is not deterministic"
  idError := "gateway_event_id is not deterministic"
  storedHash_stamp _ _ _ := rfl
  storedId_stamp _ _ _ := rfl
  contentHash_stamp _ _ _ := rfl
  checkFields_stamp _ _ _ := rfl

/-- The validators `ExecutionGatewayLifecycleEvent(...)` runs. -/
def validate (e : ExecutionGatewayLifecycleEvent) : Raises Unit := stamping.validate e

/-- The builder: a draft gets its hash and id, and is validated. -/
def construct (draft : ExecutionGatewayLifecycleEvent) : Raises ExecutionGatewayLifecycleEvent :=
  stamping.construct draft

/-- The draft of a risk event without a replay result. -/
def blockedDraft (gatewayKind : ExecutionGatewayKind) (fillMode : ExecutionFillMode)
    (runId : String) (riskEvent : RiskCheckEvent) (requirementIds : List String) :
    ExecutionGatewayLifecycleEvent :=
  let intent := riskEvent.request.orderIntent
  { gatewayEventId := "GATEWAYEVENT:PLACEHOLDER", gatewayEventHash := "", gatewayOrderId := none,
    gatewayKind := gatewayKind, fillMode := fillMode, runId := runId,
    riskCheckId := riskEvent.riskCheckId, riskCheckHash := riskEvent.riskCheckHash,
    riskDecision := riskEvent.finalDecision, riskReasonCodes := riskEvent.reasonCodes,
    clientOrderId := intent.clientOrderId, traceId := intent.traceId,
    sourceDecisionId := intent.sourceDecisionId, instrumentId := intent.instrumentId,
    venueId := intent.venueId, side := intent.side, orderType := intent.orderType,
    requestedQuantity := intent.quantity, gatewayQuantity := intent.quantity,
    submittedAt := intent.submittedAt, status := .blocked, replayOrderResultId := none,
    replayStatus := none, replayRejectReason := none, fillPrice := none, filledQuantity := 0,
    remainingQuantity := intent.quantity.val, fillEventOpenTs := none, fillEventCloseTs := none,
    fillEventSourceTs := none, fillRawPayloadId := none, costModelId := none,
    costModelHash := none, latencyBars := 0, eligibleEventIndex := none,
    fillAttemptEventIndex := none, arrivalReferencePrice := none, effectiveFillPrice := none,
    referenceNotional := 0, effectiveNotional := 0, feeCost := 0, spreadCost := 0,
    slippageCost := 0, totalCost := 0, requirementIds := requirementIds }

/-- The draft of a risk event with its approved intent and its replay result. -/
def replayDraft (gatewayKind : ExecutionGatewayKind) (fillMode : ExecutionFillMode)
    (runId : String) (riskEvent : RiskCheckEvent) (intent : OrderIntent)
    (result : ReplayOrderResult) (requirementIds : List String) :
    ExecutionGatewayLifecycleEvent :=
  { gatewayEventId := "GATEWAYEVENT:PLACEHOLDER", gatewayEventHash := "",
    gatewayOrderId := some (buildOrderIdFromParts gatewayKind runId riskEvent.riskCheckId
      intent.clientOrderId),
    gatewayKind := gatewayKind, fillMode := fillMode, runId := runId,
    riskCheckId := riskEvent.riskCheckId, riskCheckHash := riskEvent.riskCheckHash,
    riskDecision := riskEvent.finalDecision, riskReasonCodes := riskEvent.reasonCodes,
    clientOrderId := intent.clientOrderId, traceId := intent.traceId,
    sourceDecisionId := intent.sourceDecisionId, instrumentId := intent.instrumentId,
    venueId := intent.venueId, side := intent.side, orderType := intent.orderType,
    requestedQuantity := riskEvent.request.orderIntent.quantity,
    gatewayQuantity := intent.quantity, submittedAt := intent.submittedAt,
    status := .ofReplay result.status, replayOrderResultId := some result.replayOrderResultId,
    replayStatus := some result.status, replayRejectReason := result.reason,
    fillPrice := result.fillPrice, filledQuantity := result.filledQuantity,
    remainingQuantity := result.remainingQuantity, fillEventOpenTs := result.fillEventOpenTs,
    fillEventCloseTs := result.fillEventCloseTs, fillEventSourceTs := result.fillEventSourceTs,
    fillRawPayloadId := result.fillRawPayloadId, costModelId := result.costModelId,
    costModelHash := result.costModelHash, latencyBars := result.latencyBars,
    eligibleEventIndex := result.eligibleEventIndex,
    fillAttemptEventIndex := result.fillAttemptEventIndex,
    arrivalReferencePrice := result.arrivalReferencePrice,
    effectiveFillPrice := result.effectiveFillPrice,
    referenceNotional := result.referenceNotional, effectiveNotional := result.effectiveNotional,
    feeCost := result.feeCost, spreadCost := result.spreadCost,
    slippageCost := result.slippageCost, totalCost := result.totalCost,
    requirementIds := requirementIds }

/-- `make_execution_gateway_lifecycle_event`. -/
def make (gatewayKind : ExecutionGatewayKind) (fillMode : ExecutionFillMode) (runId : String)
    (riskEvent : RiskCheckEvent) (replayResult : Option ReplayOrderResult)
    (requirementIds : List String) : Raises ExecutionGatewayLifecycleEvent := do
  validateGatewayFillMode gatewayKind fillMode
  match replayResult, riskEvent.approvedOrderIntent with
  | none, _ => construct (blockedDraft gatewayKind fillMode runId riskEvent requirementIds)
  | some _, none => .error "replay-backed gateway events require approved risk intent"
  | some result, some intent =>
      construct (replayDraft gatewayKind fillMode runId riskEvent intent result requirementIds)

end Identity

end ExecutionGatewayLifecycleEvent

/-! ## Reports -/

/-- Lifecycle report of a gateway, produced from a risk-gated replay. -/
structure ExecutionGatewayReport where
  gatewayReportId : String
  gatewayReportHash : String
  runId : String
  gatewayKind : ExecutionGatewayKind
  fillMode : ExecutionFillMode
  riskCheckIds : List String
  approvedRiskCheckIds : List String
  blockedRiskCheckIds : List String
  gatewayEventIds : List String
  events : List ExecutionGatewayLifecycleEvent
  sourceRiskGatedReplayResultId : String
  sourceRiskGatedReplayResultHash : String
  sourceReplayReportId : Option String
  sourceReplayReportHash : Option String
  sourceReplayFinalAccountStateId : Option String
  sourceReplayFinalAccountStateHash : Option String
  sourceReplayFinalAccountState : Option SimulatedAccountState
  requirementIds : List String
deriving DecidableEq

namespace ExecutionGatewayReport

/-- The fields hashed by `build_execution_gateway_report_hash`. -/
def identityFields (r : ExecutionGatewayReport) : List (String × Payload) :=
  [ ("approved_risk_check_ids", toPayload r.approvedRiskCheckIds),
    ("blocked_risk_check_ids", toPayload r.blockedRiskCheckIds), ("events", toPayload r.events),
    ("fill_mode", toPayload r.fillMode), ("gateway_event_ids", toPayload r.gatewayEventIds),
    ("gateway_kind", toPayload r.gatewayKind), ("requirement_ids", toPayload r.requirementIds),
    ("risk_check_ids", toPayload r.riskCheckIds), ("run_id", toPayload r.runId),
    ("source_replay_report_hash", toPayload r.sourceReplayReportHash),
    ("source_replay_report_id", toPayload r.sourceReplayReportId),
    ("source_replay_final_account_state", toPayload r.sourceReplayFinalAccountState),
    ("source_replay_final_account_state_hash", toPayload r.sourceReplayFinalAccountStateHash),
    ("source_replay_final_account_state_id", toPayload r.sourceReplayFinalAccountStateId),
    ("source_risk_gated_replay_result_hash", toPayload r.sourceRiskGatedReplayResultHash),
    ("source_risk_gated_replay_result_id", toPayload r.sourceRiskGatedReplayResultId) ]

/-- The risk ids of the events that are not blocked. -/
def approvedIds (events : List ExecutionGatewayLifecycleEvent) : List String :=
  (events.filter fun e => decide (e.status ≠ .blocked)).map
    ExecutionGatewayLifecycleEvent.riskCheckId

/-- The risk ids of the blocked events. -/
def blockedIds (events : List ExecutionGatewayLifecycleEvent) : List String :=
  (events.filter fun e => decide (e.status = .blocked)).map
    ExecutionGatewayLifecycleEvent.riskCheckId

section Identity

variable [Sha256]

/-- `build_execution_gateway_account_state_hash`. -/
def buildAccountStateHash (state : SimulatedAccountState) : String := hash (toPayload state)

/-- `build_execution_gateway_account_state_id`. -/
def buildAccountStateId (accountStateHash : String) : String :=
  stableIdOfHash "GATEWAYACCOUNTSTATE" "account_state_hash" accountStateHash

/-- `_validate_final_account_state_linkage`. -/
def validateFinalAccountStateLinkage (r : ExecutionGatewayReport) : Raises Unit :=
  match r.sourceReplayReportId, r.sourceReplayFinalAccountState with
  | none, _ =>
      require (r.sourceReplayFinalAccountStateId = none ∧
          r.sourceReplayFinalAccountStateHash = none ∧ r.sourceReplayFinalAccountState = none)
        "blocked-only gateway reports must not carry source replay account state"
  | some _, none =>
      require (r.sourceReplayFinalAccountStateId = none ∧
          r.sourceReplayFinalAccountStateHash = none)
        "source replay account state id/hash require embedded account state"
  | some _, some state => do
      require (r.sourceReplayFinalAccountStateHash = some (buildAccountStateHash state))
        "source replay final account state hash is not deterministic"
      require (r.sourceReplayFinalAccountStateId =
          some (buildAccountStateId (buildAccountStateHash state)))
        "source replay final account state id is not deterministic"

/-- `build_execution_gateway_report_hash`. -/
def buildHash (r : ExecutionGatewayReport) : String := hash (.record r.identityFields)

/-- `build_execution_gateway_report_id`. -/
def buildId (reportHash : String) : String :=
  stableIdOfHash "GATEWAYREPORT" "gateway_report_hash" reportHash

/-- The part of the validators that looks at neither the hash nor the id of the report. -/
def validateFields (r : ExecutionGatewayReport) : Raises Unit := do
  require (isCanonicalId r.runId) "String should match pattern '^[A-Z0-9][A-Z0-9._:-]*$'"
  r.events.forM ExecutionGatewayLifecycleEvent.validate
  validateGatewayFillMode r.gatewayKind r.fillMode
  require (r.gatewayEventIds = r.events.map ExecutionGatewayLifecycleEvent.gatewayEventId)
    "gateway_event_ids must match events"
  require (r.riskCheckIds = r.events.map ExecutionGatewayLifecycleEvent.riskCheckId)
    "risk_check_ids must match lifecycle events"
  require (r.approvedRiskCheckIds = approvedIds r.events)
    "approved_risk_check_ids must match non-blocked events"
  require (r.blockedRiskCheckIds = blockedIds r.events)
    "blocked_risk_check_ids must match blocked events"
  require (isPartitionOf (r.approvedRiskCheckIds ++ r.blockedRiskCheckIds) r.riskCheckIds)
    "gateway risk ids must partition input risk checks"
  require (∀ e ∈ r.events, e.runId = r.runId) "event run_id must match gateway report"
  require (∀ e ∈ r.events, e.gatewayKind = r.gatewayKind ∧ e.fillMode = r.fillMode)
    "event gateway kind/fill mode must match gateway report"
  require (∀ e ∈ r.events, e.requirementIds = r.requirementIds)
    "event requirement_ids must match gateway report"
  require (r.sourceReplayReportId = none ↔ r.sourceReplayReportHash = none)
    "source replay report id/hash must be set together"
  r.validateFinalAccountStateLinkage
  require (r.approvedRiskCheckIds ≠ [] → r.sourceReplayReportId ≠ none)
    "approved gateway reports require a source replay report"
  require (r.approvedRiskCheckIds = [] → r.sourceReplayReportId = none)
    "blocked-only gateway reports must not carry a source replay report"

theorem validateFields_eq_ok_iff (r : ExecutionGatewayReport) :
    r.validateFields = .ok () ↔
      isCanonicalId r.runId = true ∧ (∀ e ∈ r.events, e.validate = .ok ()) ∧
      validateGatewayFillMode r.gatewayKind r.fillMode = .ok () ∧
      r.gatewayEventIds = r.events.map ExecutionGatewayLifecycleEvent.gatewayEventId ∧
      r.riskCheckIds = r.events.map ExecutionGatewayLifecycleEvent.riskCheckId ∧
      r.approvedRiskCheckIds = approvedIds r.events ∧
      r.blockedRiskCheckIds = blockedIds r.events ∧
      isPartitionOf (r.approvedRiskCheckIds ++ r.blockedRiskCheckIds) r.riskCheckIds ∧
      (∀ e ∈ r.events, e.runId = r.runId) ∧
      (∀ e ∈ r.events, e.gatewayKind = r.gatewayKind ∧ e.fillMode = r.fillMode) ∧
      (∀ e ∈ r.events, e.requirementIds = r.requirementIds) ∧
      (r.sourceReplayReportId = none ↔ r.sourceReplayReportHash = none) ∧
      r.validateFinalAccountStateLinkage = .ok () ∧
      (r.approvedRiskCheckIds ≠ [] → r.sourceReplayReportId ≠ none) ∧
      (r.approvedRiskCheckIds = [] → r.sourceReplayReportId = none) := by
  simp only [validateFields, check_bind_eq_ok_iff, require_eq_ok_iff, forM_eq_ok_iff]

/-- Where a report stores its hash and id. -/
def stamping : Library.Stamping ExecutionGatewayReport String String where
  checkFields := validateFields
  storedHash := gatewayReportHash
  storedId := gatewayReportId
  contentHash := buildHash
  idOfHash := buildId
  stamp r newHash newId := { r with gatewayReportHash := newHash, gatewayReportId := newId }
  hashError := "gateway_report_hash is not deterministic"
  idError := "gateway_report_id is not deterministic"
  storedHash_stamp _ _ _ := rfl
  storedId_stamp _ _ _ := rfl
  contentHash_stamp _ _ _ := rfl
  checkFields_stamp _ _ _ := rfl

/-- The validators `ExecutionGatewayReport(...)` runs. -/
def validate (r : ExecutionGatewayReport) : Raises Unit := stamping.validate r

/-- The builder: a draft gets its hash and id, and is validated. -/
def construct (draft : ExecutionGatewayReport) : Raises ExecutionGatewayReport :=
  stamping.construct draft

/-- The draft of `make_execution_gateway_report`. -/
def draft (runId : String) (gatewayKind : ExecutionGatewayKind) (fillMode : ExecutionFillMode)
    (gated : RiskGatedReplayResult) (events : List ExecutionGatewayLifecycleEvent)
    (requirementIds : List String) : ExecutionGatewayReport :=
  let finalState := gated.replayReport.bind ReplayReport.finalAccountState
  let finalHash := finalState.map buildAccountStateHash
  { gatewayReportId := "GATEWAYREPORT:PLACEHOLDER", gatewayReportHash := "", runId := runId,
    gatewayKind := gatewayKind, fillMode := fillMode, riskCheckIds := gated.riskCheckIds,
    approvedRiskCheckIds := gated.approvedRiskCheckIds,
    blockedRiskCheckIds := gated.blockedRiskCheckIds,
    gatewayEventIds := events.map ExecutionGatewayLifecycleEvent.gatewayEventId,
    events := events, sourceRiskGatedReplayResultId := gated.resultId,
    sourceRiskGatedReplayResultHash := gated.resultHash,
    sourceReplayReportId := gated.replayReport.map ReplayReport.replayReportId,
    sourceReplayReportHash := gated.replayReport.map ReplayReport.replayReportHash,
    sourceReplayFinalAccountStateId := finalHash.map buildAccountStateId,
    sourceReplayFinalAccountStateHash := finalHash, sourceReplayFinalAccountState := finalState,
    requirementIds := requirementIds }

/-- `make_execution_gateway_report`. -/
def make (runId : String) (gatewayKind : ExecutionGatewayKind) (fillMode : ExecutionFillMode)
    (gated : RiskGatedReplayResult) (events : List ExecutionGatewayLifecycleEvent)
    (requirementIds : List String) : Raises ExecutionGatewayReport := do
  validateGatewayFillMode gatewayKind fillMode
  construct (draft runId gatewayKind fillMode gated events requirementIds)

end Identity

end ExecutionGatewayReport

end TaModel.Contracts
