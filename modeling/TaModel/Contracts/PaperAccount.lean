import TaModel.Contracts.DecimalRange
import TaModel.Contracts.Execution

/-!
# Paper account contracts

The order, fill and rejection logs of `contracts/paper.py` and the session report that collects
them. Each log repeats one gateway event; the report checks its counts, totals and account states
against its own logs.
-/

set_option autoImplicit false

namespace TaModel.Contracts

inductive PaperRejectionSource where
  | risk | gatewayReplay
deriving DecidableEq

def PaperRejectionSource.value : PaperRejectionSource → String
  | .risk => "risk"
  | .gatewayReplay => "gateway_replay"

/-- How the final account state of a session was obtained. -/
inductive PaperAccountStateSource where
  | gatewayReplay | unchangedFromInitial | explicitLinkage
deriving DecidableEq

def PaperAccountStateSource.value : PaperAccountStateSource → String
  | .gatewayReplay => "gateway_replay"
  | .unchangedFromInitial => "unchanged_from_initial"
  | .explicitLinkage => "explicit_linkage"

instance : ToPayload PaperRejectionSource := ⟨fun x => .text x.value⟩
instance : ToPayload PaperAccountStateSource := ⟨fun x => .text x.value⟩

/-! ## Account states -/

section AccountState

variable [Sha256]

/-- `build_paper_account_state_hash`. -/
def buildPaperAccountStateHash (state : SimulatedAccountState) : String := hash (toPayload state)

/-- `build_paper_account_state_id`. -/
def buildPaperAccountStateId (accountStateHash : String) : String :=
  stableIdOfHash "PAPERACCOUNTSTATE" "account_state_hash" accountStateHash

end AccountState

/-! ## Order logs -/

/-- Order row of one gateway lifecycle event. -/
structure PaperOrderLifecycleLogEntry where
  orderLogId : String
  orderLogHash : String
  gatewayReportId : String
  gatewayReportHash : String
  gatewayEventId : String
  gatewayEventHash : String
  gatewayOrderId : Option String
  runId : String
  riskCheckId : String
  riskCheckHash : String
  riskDecision : RiskDecisionStatus
  riskReasonCodes : List RiskReasonCode
  clientOrderId : String
  traceId : String
  sourceDecisionId : String
  instrumentId : String
  venueId : String
  side : OrderSide
  orderType : OrderType
  requestedQuantity : PositiveDecimal
  gatewayQuantity : PositiveDecimal
  submittedAt : AwareDatetime
  status : ExecutionGatewayOrderStatus
  replayStatus : Option ReplayFillStatus
  replayRejectReason : Option ReplayRejectReason
  requirementIds : List String
deriving DecidableEq

namespace PaperOrderLifecycleLogEntry

/-- The fields hashed by `build_paper_order_lifecycle_log_hash`. -/
def identityFields (e : PaperOrderLifecycleLogEntry) : List (String × Payload) :=
  [ ("client_order_id", toPayload e.clientOrderId),
    ("gateway_event_hash", toPayload e.gatewayEventHash),
    ("gateway_event_id", toPayload e.gatewayEventId),
    ("gateway_order_id", toPayload e.gatewayOrderId),
    ("gateway_quantity", toPayload e.gatewayQuantity),
    ("gateway_report_hash", toPayload e.gatewayReportHash),
    ("gateway_report_id", toPayload e.gatewayReportId),
    ("instrument_id", toPayload e.instrumentId), ("order_type", toPayload e.orderType),
    ("replay_reject_reason", toPayload e.replayRejectReason),
    ("replay_status", toPayload e.replayStatus),
    ("requested_quantity", toPayload e.requestedQuantity),
    ("requirement_ids", toPayload e.requirementIds),
    ("risk_check_hash", toPayload e.riskCheckHash), ("risk_check_id", toPayload e.riskCheckId),
    ("risk_decision", toPayload e.riskDecision),
    ("risk_reason_codes", toPayload e.riskReasonCodes), ("run_id", toPayload e.runId),
    ("side", toPayload e.side), ("source_decision_id", toPayload e.sourceDecisionId),
    ("status", toPayload e.status), ("submitted_at", toPayload e.submittedAt),
    ("trace_id", toPayload e.traceId), ("venue_id", toPayload e.venueId) ]


/-- `_model_json(entry)`. -/
instance : ToPayload PaperOrderLifecycleLogEntry := ⟨fun e =>
  .record (("order_log_hash", toPayload e.orderLogHash) ::
    ("order_log_id", toPayload e.orderLogId) :: e.identityFields)⟩

/-- The part of the validators that looks at neither the hash nor the id of the entry. -/
def validateFields (e : PaperOrderLifecycleLogEntry) : Raises Unit := do
  require (isCanonicalId e.runId) "String should match pattern '^[A-Z0-9][A-Z0-9._:-]*$'"
  if e.status = .blocked then
    require (e.gatewayOrderId = none ∧ e.replayStatus = none)
      "blocked lifecycle logs must not carry placement evidence"
  else
    require (e.gatewayOrderId ≠ none ∧ e.replayStatus ≠ none)
      "non-blocked lifecycle logs require gateway/replay evidence"

theorem validateFields_eq_ok_iff (e : PaperOrderLifecycleLogEntry) :
    e.validateFields = .ok () ↔
      isCanonicalId e.runId = true ∧
      (e.status = .blocked → e.gatewayOrderId = none ∧ e.replayStatus = none) ∧
      (e.status ≠ .blocked → e.gatewayOrderId ≠ none ∧ e.replayStatus ≠ none) := by
  simp only [validateFields, check_bind_eq_ok_iff, require_eq_ok_iff]
  by_cases hstatus : e.status = .blocked
  · simp [hstatus]
  · simp [hstatus]

section Identity

variable [Sha256]

/-- `build_paper_order_lifecycle_log_hash`. -/
def buildHash (e : PaperOrderLifecycleLogEntry) : String := hash (.record e.identityFields)

/-- `build_paper_order_lifecycle_log_id`. -/
def buildId (entryHash : String) : String :=
  stableIdOfHash "PAPERORDERLOG" "order_log_hash" entryHash

/-- Where an order log stores its hash and id. -/
def stamping : Library.Stamping PaperOrderLifecycleLogEntry String String where
  checkFields := validateFields
  storedHash := orderLogHash
  storedId := orderLogId
  contentHash := buildHash
  idOfHash := buildId
  stamp e newHash newId := { e with orderLogHash := newHash, orderLogId := newId }
  hashError := "order_log_hash is not deterministic"
  idError := "order_log_id is not deterministic"
  storedHash_stamp _ _ _ := rfl
  storedId_stamp _ _ _ := rfl
  contentHash_stamp _ _ _ := rfl
  checkFields_stamp _ _ _ := rfl

/-- The validators `PaperOrderLifecycleLogEntry(...)` runs. -/
def validate (e : PaperOrderLifecycleLogEntry) : Raises Unit := stamping.validate e

end Identity

end PaperOrderLifecycleLogEntry

/-! ## Fill logs -/

/-- Fill row with its cost attribution. -/
structure PaperFillLogEntry where
  fillLogId : String
  fillLogHash : String
  gatewayReportId : String
  gatewayReportHash : String
  gatewayEventId : String
  gatewayEventHash : String
  gatewayOrderId : String
  runId : String
  riskCheckId : String
  riskCheckHash : String
  clientOrderId : String
  traceId : String
  sourceDecisionId : String
  instrumentId : String
  venueId : String
  side : OrderSide
  orderType : OrderType
  status : ExecutionGatewayOrderStatus
  replayOrderResultId : String
  fillPrice : Decimal
  filledQuantity : Decimal
  remainingQuantity : Decimal
  fillEventOpenTs : AwareDatetime
  fillEventCloseTs : AwareDatetime
  fillEventSourceTs : AwareDatetime
  fillRawPayloadId : String
  costModelId : Option String
  costModelHash : Option String
  latencyBars : Nat
  eligibleEventIndex : Option Nat
  fillAttemptEventIndex : Option Nat
  arrivalReferencePrice : Decimal
  effectiveFillPrice : Decimal
  referenceNotional : Decimal
  effectiveNotional : Decimal
  feeCost : Decimal
  spreadCost : Decimal
  slippageCost : Decimal
  totalCost : Decimal
  requirementIds : List String
deriving DecidableEq

namespace PaperFillLogEntry

/-- The fields hashed by `build_paper_fill_log_hash`. -/
def identityFields (e : PaperFillLogEntry) : List (String × Payload) :=
  [ ("arrival_reference_price", toPayload e.arrivalReferencePrice),
    ("client_order_id", toPayload e.clientOrderId), ("cost_model_hash", toPayload e.costModelHash),
    ("cost_model_id", toPayload e.costModelId),
    ("effective_fill_price", toPayload e.effectiveFillPrice),
    ("effective_notional", toPayload e.effectiveNotional),
    ("eligible_event_index", toPayload e.eligibleEventIndex), ("fee_cost", toPayload e.feeCost),
    ("fill_attempt_event_index", toPayload e.fillAttemptEventIndex),
    ("fill_event_close_ts", toPayload e.fillEventCloseTs),
    ("fill_event_open_ts", toPayload e.fillEventOpenTs),
    ("fill_event_source_ts", toPayload e.fillEventSourceTs), ("fill_price", toPayload e.fillPrice),
    ("fill_raw_payload_id", toPayload e.fillRawPayloadId),
    ("filled_quantity", toPayload e.filledQuantity),
    ("gateway_event_hash", toPayload e.gatewayEventHash),
    ("gateway_event_id", toPayload e.gatewayEventId),
    ("gateway_order_id", toPayload e.gatewayOrderId),
    ("gateway_report_hash", toPayload e.gatewayReportHash),
    ("gateway_report_id", toPayload e.gatewayReportId),
    ("instrument_id", toPayload e.instrumentId), ("latency_bars", toPayload e.latencyBars),
    ("order_type", toPayload e.orderType), ("reference_notional", toPayload e.referenceNotional),
    ("remaining_quantity", toPayload e.remainingQuantity),
    ("replay_order_result_id", toPayload e.replayOrderResultId),
    ("requirement_ids", toPayload e.requirementIds),
    ("risk_check_hash", toPayload e.riskCheckHash), ("risk_check_id", toPayload e.riskCheckId),
    ("run_id", toPayload e.runId), ("side", toPayload e.side),
    ("slippage_cost", toPayload e.slippageCost),
    ("source_decision_id", toPayload e.sourceDecisionId), ("spread_cost", toPayload e.spreadCost),
    ("status", toPayload e.status), ("total_cost", toPayload e.totalCost),
    ("trace_id", toPayload e.traceId), ("venue_id", toPayload e.venueId) ]


/-- `_model_json(entry)`. -/
instance : ToPayload PaperFillLogEntry := ⟨fun e =>
  .record (("fill_log_hash", toPayload e.fillLogHash) ::
    ("fill_log_id", toPayload e.fillLogId) :: e.identityFields)⟩

/-- Field bounds of a fill log (`gt=0`, `ge=0`). -/
def FieldsInBounds (e : PaperFillLogEntry) : Prop :=
  0 < e.fillPrice ∧ 0 < e.filledQuantity ∧ 0 ≤ e.remainingQuantity ∧
    0 < e.arrivalReferencePrice ∧ 0 < e.effectiveFillPrice ∧ 0 ≤ e.referenceNotional ∧
    0 ≤ e.effectiveNotional ∧ 0 ≤ e.feeCost ∧ 0 ≤ e.spreadCost ∧ 0 ≤ e.slippageCost ∧
    0 ≤ e.totalCost

instance (e : PaperFillLogEntry) : Decidable e.FieldsInBounds := by
  simp only [FieldsInBounds]
  infer_instance

/-- The part of the validators that looks at neither the hash nor the id of the entry. -/
def validateFields (e : PaperFillLogEntry) : Raises Unit := do
  require (isCanonicalId e.runId) "String should match pattern '^[A-Z0-9][A-Z0-9._:-]*$'"
  require e.FieldsInBounds "Input should be greater than 0"
  require (e.status.isFilled)
    "fill logs require filled or partially_filled gateway status"
  require (e.costModelId = none ↔ e.costModelHash = none)
    "cost_model_id and cost_model_hash must be set together"
  require (e.effectiveFillPrice = e.fillPrice) "effective_fill_price must match fill_price"
  require (e.referenceNotional = e.arrivalReferencePrice * e.filledQuantity)
    "reference_notional must match arrival price times fill quantity"
  require (e.effectiveNotional = e.effectiveFillPrice * e.filledQuantity)
    "effective_notional must match effective price times fill quantity"
  require (e.totalCost = e.feeCost + e.spreadCost + e.slippageCost)
    "total_cost must equal fee_cost plus spread_cost plus slippage_cost"

theorem validateFields_eq_ok_iff (e : PaperFillLogEntry) :
    e.validateFields = .ok () ↔
      isCanonicalId e.runId = true ∧ e.FieldsInBounds ∧ e.status.isFilled = true ∧
      (e.costModelId = none ↔ e.costModelHash = none) ∧ e.effectiveFillPrice = e.fillPrice ∧
      e.referenceNotional = e.arrivalReferencePrice * e.filledQuantity ∧
      e.effectiveNotional = e.effectiveFillPrice * e.filledQuantity ∧
      e.totalCost = e.feeCost + e.spreadCost + e.slippageCost := by
  simp only [validateFields, check_bind_eq_ok_iff, require_eq_ok_iff]

section Identity

variable [Sha256]

/-- `build_paper_fill_log_hash`. -/
def buildHash (e : PaperFillLogEntry) : String := hash (.record e.identityFields)

/-- `build_paper_fill_log_id`. -/
def buildId (entryHash : String) : String :=
  stableIdOfHash "PAPERFILLLOG" "fill_log_hash" entryHash

/-- Where a fill log stores its hash and id. -/
def stamping : Library.Stamping PaperFillLogEntry String String where
  checkFields := validateFields
  storedHash := fillLogHash
  storedId := fillLogId
  contentHash := buildHash
  idOfHash := buildId
  stamp e newHash newId := { e with fillLogHash := newHash, fillLogId := newId }
  hashError := "fill_log_hash is not deterministic"
  idError := "fill_log_id is not deterministic"
  storedHash_stamp _ _ _ := rfl
  storedId_stamp _ _ _ := rfl
  contentHash_stamp _ _ _ := rfl
  checkFields_stamp _ _ _ := rfl

/-- The validators `PaperFillLogEntry(...)` runs. -/
def validate (e : PaperFillLogEntry) : Raises Unit := stamping.validate e

end Identity

end PaperFillLogEntry

/-! ## Rejection logs -/

/-- Row of a blocked, rejected or unfilled paper order. -/
structure PaperRejectionLogEntry where
  rejectionLogId : String
  rejectionLogHash : String
  gatewayReportId : String
  gatewayReportHash : String
  gatewayEventId : String
  gatewayEventHash : String
  gatewayOrderId : Option String
  runId : String
  riskCheckId : String
  riskCheckHash : String
  riskDecision : RiskDecisionStatus
  riskReasonCodes : List RiskReasonCode
  replayRejectReason : Option ReplayRejectReason
  rejectionSource : PaperRejectionSource
  clientOrderId : String
  traceId : String
  sourceDecisionId : String
  instrumentId : String
  venueId : String
  side : OrderSide
  orderType : OrderType
  requestedQuantity : PositiveDecimal
  gatewayQuantity : PositiveDecimal
  remainingQuantity : Decimal
  submittedAt : AwareDatetime
  status : ExecutionGatewayOrderStatus
  requirementIds : List String
deriving DecidableEq

namespace PaperRejectionLogEntry

/-- The fields hashed by `build_paper_rejection_log_hash`. -/
def identityFields (e : PaperRejectionLogEntry) : List (String × Payload) :=
  [ ("client_order_id", toPayload e.clientOrderId),
    ("gateway_event_hash", toPayload e.gatewayEventHash),
    ("gateway_event_id", toPayload e.gatewayEventId),
    ("gateway_order_id", toPayload e.gatewayOrderId),
    ("gateway_quantity", toPayload e.gatewayQuantity),
    ("gateway_report_hash", toPayload e.gatewayReportHash),
    ("gateway_report_id", toPayload e.gatewayReportId),
    ("instrument_id", toPayload e.instrumentId), ("order_type", toPayload e.orderType),
    ("rejection_source", toPayload e.rejectionSource),
    ("remaining_quantity", toPayload e.remainingQuantity),
    ("replay_reject_reason", toPayload e.replayRejectReason),
    ("requested_quantity", toPayload e.requestedQuantity),
    ("requirement_ids", toPayload e.requirementIds),
    ("risk_check_hash", toPayload e.riskCheckHash), ("risk_check_id", toPayload e.riskCheckId),
    ("risk_decision", toPayload e.riskDecision),
    ("risk_reason_codes", toPayload e.riskReasonCodes), ("run_id", toPayload e.runId),
    ("side", toPayload e.side), ("source_decision_id", toPayload e.sourceDecisionId),
    ("status", toPayload e.status), ("submitted_at", toPayload e.submittedAt),
    ("trace_id", toPayload e.traceId), ("venue_id", toPayload e.venueId) ]


/-- `_model_json(entry)`. -/
instance : ToPayload PaperRejectionLogEntry := ⟨fun e =>
  .record (("rejection_log_hash", toPayload e.rejectionLogHash) ::
    ("rejection_log_id", toPayload e.rejectionLogId) :: e.identityFields)⟩

/-- The part of the validators that looks at neither the hash nor the id of the entry. -/
def validateFields (e : PaperRejectionLogEntry) : Raises Unit := do
  require (isCanonicalId e.runId) "String should match pattern '^[A-Z0-9][A-Z0-9._:-]*$'"
  require (0 ≤ e.remainingQuantity) "Input should be greater than or equal to 0"
  require (e.status.isFilled = false)
    "rejection logs require blocked, rejected, or unfilled status"
  match e.rejectionSource with
  | .risk => do
      require (e.status = .blocked)
        "risk-sourced rejection logs must be blocked gateway events"
      require (e.replayRejectReason = none)
        "risk-sourced rejection logs require risk/no-trade reasons only"
  | .gatewayReplay => do
      require (e.status ≠ .blocked)
        "gateway replay rejection logs cannot be risk-blocked events"
      require (e.replayRejectReason ≠ none)
        "gateway replay rejection logs require replay_reject_reason"

theorem validateFields_eq_ok_iff (e : PaperRejectionLogEntry) :
    e.validateFields = .ok () ↔
      isCanonicalId e.runId = true ∧ 0 ≤ e.remainingQuantity ∧ e.status.isFilled = false ∧
      (e.rejectionSource = .risk → e.status = .blocked ∧ e.replayRejectReason = none) ∧
      (e.rejectionSource = .gatewayReplay →
        e.status ≠ .blocked ∧ e.replayRejectReason ≠ none) := by
  simp only [validateFields, check_bind_eq_ok_iff, require_eq_ok_iff]
  cases hsource : e.rejectionSource with
  | risk => simp [check_bind_eq_ok_iff]
  | gatewayReplay => simp [check_bind_eq_ok_iff]

section Identity

variable [Sha256]

/-- `build_paper_rejection_log_hash`. -/
def buildHash (e : PaperRejectionLogEntry) : String := hash (.record e.identityFields)

/-- `build_paper_rejection_log_id`. -/
def buildId (entryHash : String) : String :=
  stableIdOfHash "PAPERREJECTLOG" "rejection_log_hash" entryHash

/-- Where a rejection log stores its hash and id. -/
def stamping : Library.Stamping PaperRejectionLogEntry String String where
  checkFields := validateFields
  storedHash := rejectionLogHash
  storedId := rejectionLogId
  contentHash := buildHash
  idOfHash := buildId
  stamp e newHash newId := { e with rejectionLogHash := newHash, rejectionLogId := newId }
  hashError := "rejection_log_hash is not deterministic"
  idError := "rejection_log_id is not deterministic"
  storedHash_stamp _ _ _ := rfl
  storedId_stamp _ _ _ := rfl
  contentHash_stamp _ _ _ := rfl
  checkFields_stamp _ _ _ := rfl

/-- The validators `PaperRejectionLogEntry(...)` runs. -/
def validate (e : PaperRejectionLogEntry) : Raises Unit := stamping.validate e

end Identity

end PaperRejectionLogEntry

/-! ## Session reports -/

/-- `_count_status`. -/
def countStatus (entries : List PaperOrderLifecycleLogEntry)
    (status : ExecutionGatewayOrderStatus) : Nat :=
  entries.countP fun e => decide (e.status = status)

/-- Paper account session built from a gateway report. -/
structure PaperAccountSessionReport where
  sessionReportId : String
  sessionReportHash : String
  runId : String
  gatewayReportId : String
  gatewayReportHash : String
  gatewayKind : ExecutionGatewayKind
  fillMode : ExecutionFillMode
  sourceRiskGatedReplayResultId : String
  sourceRiskGatedReplayResultHash : String
  sourceReplayReportId : Option String
  sourceReplayReportHash : Option String
  initialAccountStateId : String
  initialAccountStateHash : String
  finalAccountStateId : String
  finalAccountStateHash : String
  finalAccountStateSource : PaperAccountStateSource
  initialAccountState : Option SimulatedAccountState
  finalAccountState : Option SimulatedAccountState
  orderLogIds : List String
  fillLogIds : List String
  rejectionLogIds : List String
  orderLogs : List PaperOrderLifecycleLogEntry
  fillLogs : List PaperFillLogEntry
  rejectionLogs : List PaperRejectionLogEntry
  totalOrderCount : Nat
  filledOrderCount : Nat
  partiallyFilledOrderCount : Nat
  blockedOrderCount : Nat
  rejectedOrderCount : Nat
  unfilledOrderCount : Nat
  filledQuantityTotal : Decimal
  feeCostTotal : Decimal
  spreadCostTotal : Decimal
  slippageCostTotal : Decimal
  totalExecutionCost : Decimal
  requirementIds : List String
deriving DecidableEq

namespace PaperAccountSessionReport

/-- The fields hashed by `build_paper_account_session_report_hash`. -/
def identityFields (r : PaperAccountSessionReport) : List (String × Payload) :=
  [ ("blocked_order_count", toPayload r.blockedOrderCount),
    ("fee_cost_total", toPayload r.feeCostTotal), ("fill_log_ids", toPayload r.fillLogIds),
    ("fill_logs", toPayload r.fillLogs), ("fill_mode", toPayload r.fillMode),
    ("filled_order_count", toPayload r.filledOrderCount),
    ("filled_quantity_total", toPayload r.filledQuantityTotal),
    ("final_account_state", toPayload r.finalAccountState),
    ("final_account_state_hash", toPayload r.finalAccountStateHash),
    ("final_account_state_id", toPayload r.finalAccountStateId),
    ("final_account_state_source", toPayload r.finalAccountStateSource),
    ("gateway_kind", toPayload r.gatewayKind),
    ("gateway_report_hash", toPayload r.gatewayReportHash),
    ("gateway_report_id", toPayload r.gatewayReportId),
    ("initial_account_state", toPayload r.initialAccountState),
    ("initial_account_state_hash", toPayload r.initialAccountStateHash),
    ("initial_account_state_id", toPayload r.initialAccountStateId),
    ("order_log_ids", toPayload r.orderLogIds), ("order_logs", toPayload r.orderLogs),
    ("partially_filled_order_count", toPayload r.partiallyFilledOrderCount),
    ("rejected_order_count", toPayload r.rejectedOrderCount),
    ("rejection_log_ids", toPayload r.rejectionLogIds),
    ("rejection_logs", toPayload r.rejectionLogs), ("requirement_ids", toPayload r.requirementIds),
    ("run_id", toPayload r.runId), ("slippage_cost_total", toPayload r.slippageCostTotal),
    ("source_replay_report_hash", toPayload r.sourceReplayReportHash),
    ("source_replay_report_id", toPayload r.sourceReplayReportId),
    ("source_risk_gated_replay_result_hash", toPayload r.sourceRiskGatedReplayResultHash),
    ("source_risk_gated_replay_result_id", toPayload r.sourceRiskGatedReplayResultId),
    ("spread_cost_total", toPayload r.spreadCostTotal),
    ("total_execution_cost", toPayload r.totalExecutionCost),
    ("total_order_count", toPayload r.totalOrderCount),
    ("unfilled_order_count", toPayload r.unfilledOrderCount) ]


/-- Field bounds of a session report (`ge=0`). -/
def FieldsInBounds (r : PaperAccountSessionReport) : Prop :=
  0 ≤ r.filledQuantityTotal ∧ 0 ≤ r.feeCostTotal ∧ 0 ≤ r.spreadCostTotal ∧
    0 ≤ r.slippageCostTotal ∧ 0 ≤ r.totalExecutionCost

instance (r : PaperAccountSessionReport) : Decidable r.FieldsInBounds := by
  simp only [FieldsInBounds]
  infer_instance

/-- The account-state ids and hashes are well formed. -/
def LinkageWellFormed (r : PaperAccountSessionReport) : Prop :=
  isCanonicalId r.initialAccountStateId = true ∧ isHexDigest r.initialAccountStateHash = true ∧
    isCanonicalId r.finalAccountStateId = true ∧ isHexDigest r.finalAccountStateHash = true

instance (r : PaperAccountSessionReport) : Decidable r.LinkageWellFormed := by
  simp only [LinkageWellFormed]
  infer_instance

/-- `_validate_one_log_linkage`. -/
def validateOneLogLinkage (r : PaperAccountSessionReport)
    (runId gatewayReportId gatewayReportHash : String) : Raises Unit := do
  require (runId = r.runId) "log run_id must match session report"
  require (gatewayReportId = r.gatewayReportId) "log gateway_report_id must match session report"
  require (gatewayReportHash = r.gatewayReportHash)
    "log gateway_report_hash must match session report"

/-- `_validate_report_linkage`. -/
def validateReportLinkage (r : PaperAccountSessionReport) : Raises Unit := do
  r.orderLogs.forM fun e => r.validateOneLogLinkage e.runId e.gatewayReportId e.gatewayReportHash
  r.fillLogs.forM fun e => r.validateOneLogLinkage e.runId e.gatewayReportId e.gatewayReportHash
  r.rejectionLogs.forM fun e =>
    r.validateOneLogLinkage e.runId e.gatewayReportId e.gatewayReportHash

/-- `_validate_logs_and_totals`. -/
def validateLogsAndTotals (r : PaperAccountSessionReport) : Raises Unit := do
  require (r.orderLogIds = r.orderLogs.map PaperOrderLifecycleLogEntry.orderLogId)
    "order_log_ids must match order_logs"
  require (r.fillLogIds = r.fillLogs.map PaperFillLogEntry.fillLogId)
    "fill_log_ids must match fill_logs"
  require (r.rejectionLogIds = r.rejectionLogs.map PaperRejectionLogEntry.rejectionLogId)
    "rejection_log_ids must match rejection_logs"
  r.validateReportLinkage
  require (r.totalOrderCount = r.orderLogs.length) "total_order_count must match order_logs"
  require (r.filledOrderCount = countStatus r.orderLogs .filled)
    "filled_order_count must match order_logs"
  require (r.partiallyFilledOrderCount = countStatus r.orderLogs .partiallyFilled)
    "partially_filled_order_count must match order_logs"
  require (r.blockedOrderCount = countStatus r.orderLogs .blocked)
    "blocked_order_count must match order_logs"
  require (r.rejectedOrderCount = countStatus r.orderLogs .rejected)
    "rejected_order_count must match order_logs"
  require (r.unfilledOrderCount = countStatus r.orderLogs .unfilled)
    "unfilled_order_count must match order_logs"
  require (r.filledQuantityTotal = contextTotal (r.fillLogs.map PaperFillLogEntry.filledQuantity))
    "filled_quantity_total must match fill logs"
  require (r.feeCostTotal = contextTotal (r.fillLogs.map PaperFillLogEntry.feeCost))
    "fee_cost_total must match fill logs"
  require (r.spreadCostTotal = contextTotal (r.fillLogs.map PaperFillLogEntry.spreadCost))
    "spread_cost_total must match fill logs"
  require (r.slippageCostTotal = contextTotal (r.fillLogs.map PaperFillLogEntry.slippageCost))
    "slippage_cost_total must match fill logs"
  require (r.totalExecutionCost = contextTotal (r.fillLogs.map PaperFillLogEntry.totalCost))
    "total_execution_cost must match fill logs"

/-- Every log of a session report names the run and the gateway report. -/
def LogsLinked (r : PaperAccountSessionReport) : Prop :=
  (∀ e ∈ r.orderLogs, e.runId = r.runId ∧ e.gatewayReportId = r.gatewayReportId ∧
      e.gatewayReportHash = r.gatewayReportHash) ∧
    (∀ e ∈ r.fillLogs, e.runId = r.runId ∧ e.gatewayReportId = r.gatewayReportId ∧
      e.gatewayReportHash = r.gatewayReportHash) ∧
    (∀ e ∈ r.rejectionLogs, e.runId = r.runId ∧ e.gatewayReportId = r.gatewayReportId ∧
      e.gatewayReportHash = r.gatewayReportHash)

theorem validateReportLinkage_eq_ok_iff (r : PaperAccountSessionReport) :
    r.validateReportLinkage = .ok () ↔ r.LogsLinked := by
  simp only [validateReportLinkage, validateOneLogLinkage, check_bind_eq_ok_iff,
    require_eq_ok_iff, forM_eq_ok_iff, LogsLinked]

section Identity

variable [Sha256]

/-- An embedded account state carries the given hash and id. -/
def validateEmbeddedState (label : String) (state : SimulatedAccountState)
    (storedId storedHash : String) : Raises Unit := do
  require (storedHash = buildPaperAccountStateHash state)
    (label ++ "_account_state_hash does not match embedded state")
  require (storedId = buildPaperAccountStateId (buildPaperAccountStateHash state))
    (label ++ "_account_state_id does not match embedded state")

/-- `_validate_account_state_linkage`. -/
def validateAccountStateLinkage (r : PaperAccountSessionReport) : Raises Unit := do
  r.initialAccountState.toList.forM fun state =>
    validateEmbeddedState "initial" state r.initialAccountStateId r.initialAccountStateHash
  r.finalAccountState.toList.forM fun state =>
    validateEmbeddedState "final" state r.finalAccountStateId r.finalAccountStateHash
  require (∀ initial ∈ r.initialAccountState, ∀ final ∈ r.finalAccountState,
      initial.accountId = final.accountId)
    "initial/final account states must refer to the same account"
  match r.finalAccountStateSource with
  | .gatewayReplay =>
      require (r.finalAccountState ≠ none)
        "gateway-replay final account state requires embedded state"
  | .unchangedFromInitial => do
      require (r.initialAccountState ≠ none ∧ r.finalAccountState ≠ none)
        "unchanged final account state requires embedded states"
      require (r.initialAccountStateHash = r.finalAccountStateHash)
        "unchanged final account state must match initial state hash"
      require (r.initialAccountStateId = r.finalAccountStateId)
        "unchanged final account state must match initial state id"
  | .explicitLinkage => .ok ()

theorem validateAccountStateLinkage_eq_ok_iff (r : PaperAccountSessionReport) :
    r.validateAccountStateLinkage = .ok () ↔
      (∀ state ∈ r.initialAccountState,
        r.initialAccountStateHash = buildPaperAccountStateHash state ∧
        r.initialAccountStateId = buildPaperAccountStateId (buildPaperAccountStateHash state)) ∧
      (∀ state ∈ r.finalAccountState,
        r.finalAccountStateHash = buildPaperAccountStateHash state ∧
        r.finalAccountStateId = buildPaperAccountStateId (buildPaperAccountStateHash state)) ∧
      (∀ initial ∈ r.initialAccountState, ∀ final ∈ r.finalAccountState,
        initial.accountId = final.accountId) ∧
      (r.finalAccountStateSource = .gatewayReplay → r.finalAccountState ≠ none) ∧
      (r.finalAccountStateSource = .unchangedFromInitial →
        (r.initialAccountState ≠ none ∧ r.finalAccountState ≠ none) ∧
        r.initialAccountStateHash = r.finalAccountStateHash ∧
        r.initialAccountStateId = r.finalAccountStateId) := by
  simp only [validateAccountStateLinkage, validateEmbeddedState, check_bind_eq_ok_iff,
    require_eq_ok_iff, forM_eq_ok_iff, Option.mem_toList, Option.mem_def]
  cases hsource : r.finalAccountStateSource with
  | gatewayReplay => simp
  | unchangedFromInitial => simp [check_bind_eq_ok_iff]
  | explicitLinkage => simp

/-- `build_paper_account_session_report_hash`. -/
def buildHash (r : PaperAccountSessionReport) : String := hash (.record r.identityFields)

/-- `build_paper_account_session_report_id`. -/
def buildId (reportHash : String) : String :=
  stableIdOfHash "PAPERSESSION" "session_report_hash" reportHash

/-- The part of the validators that looks at neither the hash nor the id of the report. -/
def validateFields (r : PaperAccountSessionReport) : Raises Unit := do
  require (isCanonicalId r.runId) "String should match pattern '^[A-Z0-9][A-Z0-9._:-]*$'"
  require r.LinkageWellFormed "String should match pattern '^[a-f0-9]\x7b64\x7d$'"
  require r.FieldsInBounds "Input should be greater than or equal to 0"
  r.orderLogs.forM PaperOrderLifecycleLogEntry.validate
  r.fillLogs.forM PaperFillLogEntry.validate
  r.rejectionLogs.forM PaperRejectionLogEntry.validate
  require (r.gatewayKind = .paper) "paper account session reports require paper gateway kind"
  require (r.fillMode = .paperSimulatedFill)
    "paper account session reports require paper_simulated_fill mode"
  require (r.sourceReplayReportId = none ↔ r.sourceReplayReportHash = none)
    "source replay report id/hash must be set together"
  r.validateAccountStateLinkage
  r.validateLogsAndTotals

/-- Where a session report stores its hash and id. -/
def stamping : Library.Stamping PaperAccountSessionReport String String where
  checkFields := validateFields
  storedHash := sessionReportHash
  storedId := sessionReportId
  contentHash := buildHash
  idOfHash := buildId
  stamp r newHash newId := { r with sessionReportHash := newHash, sessionReportId := newId }
  hashError := "session_report_hash is not deterministic"
  idError := "session_report_id is not deterministic"
  storedHash_stamp _ _ _ := rfl
  storedId_stamp _ _ _ := rfl
  contentHash_stamp _ _ _ := rfl
  checkFields_stamp _ _ _ := rfl

/-- The validators `PaperAccountSessionReport(...)` runs. -/
def validate (r : PaperAccountSessionReport) : Raises Unit := stamping.validate r

end Identity

end PaperAccountSessionReport

end TaModel.Contracts
