import TaModel.Contracts.InstrumentMaster

/-!
# Simulation and replay contracts

Order intents, simulated balances, execution cost models, replay results and replay reports of
`contracts/simulation.py`. A replay result is a plain record: `ReplayOrderResult.validate` is the
validator its constructor runs. Identifiers that the validators force to be digests of other
fields (`cost_model_id`, `cost_model_hash`) are functions of those fields.
-/

set_option autoImplicit false

namespace TaModel.Contracts

inductive OrderSide where
  | buy | sell
deriving DecidableEq

def OrderSide.value : OrderSide → String
  | .buy => "buy"
  | .sell => "sell"

inductive ReplayFillStatus where
  | filled | partiallyFilled | unfilled | rejected
deriving DecidableEq

def ReplayFillStatus.value : ReplayFillStatus → String
  | .filled => "filled"
  | .partiallyFilled => "partially_filled"
  | .unfilled => "unfilled"
  | .rejected => "rejected"

inductive ReplayRejectReason where
  | unsupportedOrderType | noFutureEligibleEvent | insufficientLiquidity | venueNotTradable
  | instrumentNotTradable | accountNotTradable | constraintViolation | insufficientCash
  | insufficientInventory
deriving DecidableEq

def ReplayRejectReason.value : ReplayRejectReason → String
  | .unsupportedOrderType => "unsupported_order_type"
  | .noFutureEligibleEvent => "no_future_eligible_event"
  | .insufficientLiquidity => "insufficient_liquidity"
  | .venueNotTradable => "venue_not_tradable"
  | .instrumentNotTradable => "instrument_not_tradable"
  | .accountNotTradable => "account_not_tradable"
  | .constraintViolation => "constraint_violation"
  | .insufficientCash => "insufficient_cash"
  | .insufficientInventory => "insufficient_inventory"

instance : ToPayload OrderSide := ⟨fun x => .text x.value⟩
instance : ToPayload ReplayFillStatus := ⟨fun x => .text x.value⟩
instance : ToPayload ReplayRejectReason := ⟨fun x => .text x.value⟩

/-! ## Simulated account state -/

/-- The `(venue_id, asset_id)` key of a balance. -/
abbrev BalanceKey := String × String

/-- Non-negative simulated spot balance for one asset, account and venue. -/
structure SimulatedBalance where
  accountId : String
  venueId : String
  assetId : String
  available : NonNegativeDecimal
deriving DecidableEq

def SimulatedBalance.key (balance : SimulatedBalance) : BalanceKey :=
  (balance.venueId, balance.assetId)

instance : ToPayload SimulatedBalance := ⟨fun b =>
  .record [("account_id", toPayload b.accountId), ("asset_id", toPayload b.assetId),
    ("available", toPayload b.available), ("venue_id", toPayload b.venueId)]⟩

/-- Simulated account state; the proof fields are `balances_are_unique_and_match_account`. -/
structure SimulatedAccountState where
  accountId : String
  balances : List SimulatedBalance
  accounts_match : ∀ balance ∈ balances, balance.accountId = accountId
  keys_unique : (balances.map SimulatedBalance.key).Nodup
deriving DecidableEq

instance : ToPayload SimulatedAccountState := ⟨fun s =>
  .record [("account_id", toPayload s.accountId), ("balances", toPayload s.balances)]⟩

/-! ## Execution cost model -/

/-- Execution-cost assumptions of a replay. -/
structure ExecutionCostModel where
  takerFeeRate : BoundedFeeRate
  spreadBps : NonNegativeDecimal
  slippageBps : NonNegativeDecimal
  latencyBars : Nat
  maxParticipationRate : BoundedRiskFraction
  allowPartialFills : Bool
  adverse_below_unit : spreadBps.val + slippageBps.val < 10000
deriving DecidableEq

section CostModelIdentity

variable [Sha256]

/-- `build_execution_cost_model_hash`. -/
def ExecutionCostModel.costModelHash (model : ExecutionCostModel) : String :=
  hash (.record
    [ ("allow_partial_fills", toPayload model.allowPartialFills),
      ("latency_bars", toPayload model.latencyBars),
      ("max_participation_rate", toPayload model.maxParticipationRate),
      ("slippage_bps", toPayload model.slippageBps), ("spread_bps", toPayload model.spreadBps),
      ("taker_fee_rate", toPayload model.takerFeeRate) ])

/-- `build_execution_cost_model_id`. -/
def ExecutionCostModel.costModelId (model : ExecutionCostModel) : String :=
  stableId "COSTMODEL" (.text model.costModelHash)

end CostModelIdentity

/-! ## Order intents -/

/-- Auditable order intent; the proof field is `order_type_fields_are_consistent`. -/
structure OrderIntent where
  clientOrderId : String
  traceId : String
  sourceDecisionId : String
  instrumentId : String
  venueId : String
  side : OrderSide
  orderType : OrderType
  quantity : PositiveDecimal
  submittedAt : AwareDatetime
  limitPrice : Option PositiveDecimal
  market_iff_no_limit : orderType = .market ↔ limitPrice = none
deriving DecidableEq

/-- The intent with another quantity (`model_copy(update={"quantity": ...})`). -/
def OrderIntent.withQuantity (intent : OrderIntent) (quantity : PositiveDecimal) : OrderIntent :=
  { intent with quantity := quantity }

instance : ToPayload OrderIntent := ⟨fun o =>
  .record
    [ ("client_order_id", toPayload o.clientOrderId), ("instrument_id", toPayload o.instrumentId),
      ("limit_price", toPayload o.limitPrice), ("order_type", toPayload o.orderType),
      ("quantity", toPayload o.quantity), ("side", toPayload o.side),
      ("source_decision_id", toPayload o.sourceDecisionId),
      ("submitted_at", toPayload o.submittedAt), ("trace_id", toPayload o.traceId),
      ("venue_id", toPayload o.venueId) ]⟩

/-! ## Replay results -/

/-- Replay result of one order intent. -/
structure ReplayOrderResult where
  replayOrderResultId : String
  clientOrderId : String
  traceId : String
  sourceDecisionId : String
  instrumentId : String
  venueId : String
  side : OrderSide
  orderType : OrderType
  quantity : Decimal
  submittedAt : AwareDatetime
  status : ReplayFillStatus
  reason : Option ReplayRejectReason := none
  fillPrice : Option Decimal := none
  filledQuantity : Decimal := 0
  remainingQuantity : Decimal := 0
  fillEventOpenTs : Option AwareDatetime := none
  fillEventCloseTs : Option AwareDatetime := none
  fillEventSourceTs : Option AwareDatetime := none
  fillRawPayloadId : Option String := none
  costModelId : Option String := none
  costModelHash : Option String := none
  latencyBars : Nat := 0
  eligibleEventIndex : Option Nat := none
  fillAttemptEventIndex : Option Nat := none
  arrivalReferencePrice : Option Decimal := none
  effectiveFillPrice : Option Decimal := none
  referenceNotional : Decimal := 0
  effectiveNotional : Decimal := 0
  feeCost : Decimal := 0
  spreadCost : Decimal := 0
  slippageCost : Decimal := 0
  totalCost : Decimal := 0
deriving DecidableEq

namespace ReplayOrderResult

/-- `FILLED` or `PARTIALLY_FILLED`. -/
def isFill (result : ReplayOrderResult) : Bool :=
  result.status = .filled || result.status = .partiallyFilled

theorem isFill_iff (result : ReplayOrderResult) :
    result.isFill = true ↔ result.status = .filled ∨ result.status = .partiallyFilled := by
  simp [isFill]

theorem not_isFill_iff (result : ReplayOrderResult) :
    result.isFill = false ↔ result.status = .unfilled ∨ result.status = .rejected := by
  unfold isFill
  cases result.status <;> decide

/-- The fields hashed by `build_replay_order_result_id`. -/
def identityFields (result : ReplayOrderResult) : List (String × Payload) :=
  [ ("arrival_reference_price", toPayload result.arrivalReferencePrice),
    ("client_order_id", toPayload result.clientOrderId),
    ("cost_model_hash", toPayload result.costModelHash),
    ("cost_model_id", toPayload result.costModelId),
    ("effective_fill_price", toPayload result.effectiveFillPrice),
    ("effective_notional", toPayload result.effectiveNotional),
    ("eligible_event_index", toPayload result.eligibleEventIndex),
    ("fee_cost", toPayload result.feeCost),
    ("fill_attempt_event_index", toPayload result.fillAttemptEventIndex),
    ("fill_event_close_ts", toPayload result.fillEventCloseTs),
    ("fill_event_open_ts", toPayload result.fillEventOpenTs),
    ("fill_event_source_ts", toPayload result.fillEventSourceTs),
    ("fill_price", toPayload result.fillPrice),
    ("fill_raw_payload_id", toPayload result.fillRawPayloadId),
    ("filled_quantity", toPayload result.filledQuantity),
    ("instrument_id", toPayload result.instrumentId),
    ("latency_bars", toPayload result.latencyBars),
    ("order_type", toPayload result.orderType), ("quantity", toPayload result.quantity),
    ("reason", toPayload result.reason),
    ("reference_notional", toPayload result.referenceNotional),
    ("remaining_quantity", toPayload result.remainingQuantity), ("side", toPayload result.side),
    ("slippage_cost", toPayload result.slippageCost),
    ("source_decision_id", toPayload result.sourceDecisionId),
    ("spread_cost", toPayload result.spreadCost), ("status", toPayload result.status),
    ("submitted_at", toPayload result.submittedAt), ("total_cost", toPayload result.totalCost),
    ("trace_id", toPayload result.traceId), ("venue_id", toPayload result.venueId) ]

/-- `_model_json(result)`: the id in front of the hashed fields. -/
instance : ToPayload ReplayOrderResult := ⟨fun result =>
  .record (("replay_order_result_id", toPayload result.replayOrderResultId) ::
    result.identityFields)⟩

/-- `build_replay_order_result_id`. -/
def buildId [Sha256] (result : ReplayOrderResult) : String :=
  stableId "REPLAYORDER" (.record result.identityFields)

/-- Field bounds of `ReplayOrderResult` (`ge=0`, `gt=0`). -/
def FieldsInBounds (result : ReplayOrderResult) : Prop :=
  0 < result.quantity ∧ (∀ p ∈ result.fillPrice, 0 ≤ p) ∧ 0 ≤ result.filledQuantity ∧
    0 ≤ result.remainingQuantity ∧ (∀ p ∈ result.arrivalReferencePrice, 0 ≤ p) ∧
    (∀ p ∈ result.effectiveFillPrice, 0 ≤ p) ∧ 0 ≤ result.referenceNotional ∧
    0 ≤ result.effectiveNotional ∧ 0 ≤ result.feeCost ∧ 0 ≤ result.spreadCost ∧
    0 ≤ result.slippageCost ∧ 0 ≤ result.totalCost

instance (result : ReplayOrderResult) : Decidable result.FieldsInBounds := by
  unfold FieldsInBounds
  infer_instance

/-- The checks `result_is_consistent_and_deterministic` makes on a filled result. -/
def validateFill (result : ReplayOrderResult) : Raises Unit := do
  require (result.reason = none) "filled replay result must not set reason"
  require (∃ p ∈ result.fillPrice, 0 < p) "filled replay result requires positive fill_price"
  require (result.status = .filled → result.filledQuantity = result.quantity)
    "filled replay result must fill full market quantity"
  require (result.status = .partiallyFilled →
      0 < result.filledQuantity ∧ result.filledQuantity < result.quantity)
    "partially filled replay result requires partial quantity"
  require (result.fillEventOpenTs ≠ none ∧ result.fillEventCloseTs ≠ none ∧
      result.fillEventSourceTs ≠ none ∧ result.fillRawPayloadId ≠ none)
    "filled replay result requires fill event lineage"
  match result.arrivalReferencePrice, result.effectiveFillPrice with
  | some arrival, some effective => do
      require (some effective = result.fillPrice)
        "effective_fill_price must match fill_price when present"
      require (result.referenceNotional = arrival * result.filledQuantity)
        "reference_notional must match arrival price times fill quantity"
      require (result.effectiveNotional = effective * result.filledQuantity)
        "effective_notional must match effective price times fill quantity"
  | _, _ => .error "filled replay result requires price attribution"

/-- The checks `result_is_consistent_and_deterministic` makes on an unfilled or rejected result. -/
def validateNoFill (result : ReplayOrderResult) : Raises Unit := do
  require (result.reason ≠ none) "unfilled/rejected replay result requires reason"
  require (result.fillPrice = none ∧ result.filledQuantity = 0)
    "unfilled/rejected replay result must not carry a fill"
  require (result.fillEventOpenTs = none ∧ result.fillEventCloseTs = none ∧
      result.fillEventSourceTs = none ∧ result.fillRawPayloadId = none ∧
      result.arrivalReferencePrice = none ∧ result.effectiveFillPrice = none ∧
      result.referenceNotional = 0 ∧ result.effectiveNotional = 0 ∧ result.feeCost = 0 ∧
      result.spreadCost = 0 ∧ result.slippageCost = 0 ∧ result.totalCost = 0)
    "unfilled/rejected replay result must not carry attribution"
  require (result.remainingQuantity = result.quantity)
    "unfilled/rejected replay result must leave full quantity remaining"

/-- The part of the validators that does not look at the id. -/
def validateFields (result : ReplayOrderResult) : Raises Unit := do
  require result.FieldsInBounds "Input should be greater than or equal to 0"
  require (result.costModelId = none ↔ result.costModelHash = none)
    "cost_model_id and cost_model_hash must be set together"
  require (result.totalCost = result.feeCost + result.spreadCost + result.slippageCost)
    "total_cost must equal fee_cost plus spread_cost plus slippage_cost"
  require (0 < result.totalCost → result.costModelId ≠ none ∧ result.costModelHash ≠ none)
    "positive execution costs require cost model identity"
  require (result.remainingQuantity = result.quantity - result.filledQuantity)
    "remaining_quantity must equal quantity minus filled_quantity"
  if result.isFill then result.validateFill else result.validateNoFill

section Identity

variable [Sha256]

/-- The validators `ReplayOrderResult(...)` runs. -/
def validate (result : ReplayOrderResult) : Raises Unit := do
  result.validateFields
  require (result.replayOrderResultId = result.buildId) "replay_order_result_id is not deterministic"

/-- A draft with its deterministic id filled in. -/
def withBuiltId (draft : ReplayOrderResult) : ReplayOrderResult :=
  { draft with replayOrderResultId := draft.buildId }

theorem isFill_withBuiltId {draft : ReplayOrderResult} (h : draft.isFill = true) :
    draft.withBuiltId.isFill = true := h

/-- `ReplayOrderResult(**draft, replay_order_result_id=build_replay_order_result_id(draft))`. -/
def construct (draft : ReplayOrderResult) : Raises ReplayOrderResult := do
  draft.withBuiltId.validate
  .ok draft.withBuiltId

/-- The id check of a freshly built result never fails. -/
theorem construct_eq_ok_iff (draft result : ReplayOrderResult) :
    draft.construct = .ok result ↔ draft.validateFields = .ok () ∧ result = draft.withBuiltId := by
  unfold construct
  rw [bind_eq_ok_iff]
  have hfields : draft.withBuiltId.validateFields = draft.validateFields := rfl
  have hid : draft.withBuiltId.replayOrderResultId = draft.withBuiltId.buildId := rfl
  constructor
  · rintro ⟨u, hu, hr⟩
    obtain ⟨v, hv, -⟩ := (bind_eq_ok_iff _ _ _).mp hu
    rw [hfields] at hv
    cases hr
    exact ⟨hv, rfl⟩
  · rintro ⟨hv, rfl⟩
    refine ⟨(), ?_, rfl⟩
    unfold validate
    rw [hfields, hv, ok_bind]
    exact require_of hid _

end Identity

end ReplayOrderResult

/-! ## Replay reports -/

/-- Rejection accounting by machine-readable reason. -/
structure ReplayRejectionCount where
  reason : ReplayRejectReason
  count : Nat
deriving DecidableEq

instance : ToPayload ReplayRejectionCount := ⟨fun c =>
  .record [("count", toPayload c.count), ("reason", toPayload c.reason)]⟩

/-- Every reject reason, in the order of its value. -/
def ReplayRejectReason.sorted : List ReplayRejectReason :=
  [ .accountNotTradable, .constraintViolation, .instrumentNotTradable, .insufficientCash,
    .insufficientInventory, .insufficientLiquidity, .noFutureEligibleEvent, .unsupportedOrderType,
    .venueNotTradable ]

/-- `build_rejection_counts`: the non-zero counts, sorted by reason value. -/
def buildRejectionCounts (results : List ReplayOrderResult) : List ReplayRejectionCount :=
  (ReplayRejectReason.sorted.map fun reason =>
    ({ reason := reason, count := (results.filterMap ReplayOrderResult.reason).count reason } :
      ReplayRejectionCount)).filter fun c => decide (0 < c.count)

/-- Deterministic replay evidence artifact. -/
structure ReplayReport where
  replayReportId : String
  replayReportHash : String
  runId : String
  marketDataHash : String
  resultIds : List String
  results : List ReplayOrderResult
  requirementIds : List String
  rejectionCounts : List ReplayRejectionCount
  finalAccountState : Option SimulatedAccountState
deriving DecidableEq

section ReportIdentity

variable [Sha256]

/-- `build_replay_report_hash`. -/
def buildReplayReportHash (runId marketDataHash : String) (results : List ReplayOrderResult)
    (requirementIds : List String) (rejectionCounts : List ReplayRejectionCount)
    (finalAccountState : Option SimulatedAccountState) : String :=
  hash (.record
    [ ("final_account_state", toPayload finalAccountState),
      ("market_data_hash", toPayload marketDataHash),
      ("rejection_counts", toPayload rejectionCounts),
      ("requirement_ids", toPayload requirementIds), ("results", toPayload results),
      ("run_id", toPayload runId) ])

/-- `build_replay_report_id`. -/
def buildReplayReportId (replayReportHash : String) : String :=
  stableIdOfHash "REPLAYREPORT" "replay_report_hash" replayReportHash

/-- The validators `ReplayReport(...)` runs. -/
def ReplayReport.validate (report : ReplayReport) : Raises Unit := do
  require (isCanonicalId report.runId) "run_id: String should match pattern"
  require (report.resultIds = report.results.map ReplayOrderResult.replayOrderResultId)
    "result_ids must match results"
  require (report.rejectionCounts = buildRejectionCounts report.results)
    "rejection_counts must match result reasons"
  require (report.replayReportHash = buildReplayReportHash report.runId report.marketDataHash
      report.results report.requirementIds report.rejectionCounts report.finalAccountState)
    "replay_report_hash is not deterministic"
  require (report.replayReportId = buildReplayReportId report.replayReportHash)
    "replay_report_id is not deterministic"

end ReportIdentity

end TaModel.Contracts
