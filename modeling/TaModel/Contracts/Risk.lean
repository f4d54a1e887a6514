import TaModel.Contracts.KillSwitch
import TaModel.Contracts.RiskPolicy
import TaModel.Contracts.Simulation
import TaModel.Contracts.StreamHealth

/-!
# Pre-trade risk contracts

Order effects, limit evaluations, risk telemetry, risk-check requests and events, and risk-gated
replay results of `contracts/risk.py`. Requests, events and results are plain records that may have
been altered after they were built; `validate` is what their constructors run on the record and on
the records nested in it, and `construct` is the builder that fills in hash and id.
-/

set_option autoImplicit false

namespace TaModel.Contracts

/-! ## Enumerations -/

inductive RiskDecisionStatus where
  | approved | approvedAfterCap | rejected | noTrade | cancelReduceOnlyApproved
deriving DecidableEq

def RiskDecisionStatus.value : RiskDecisionStatus → String
  | .approved => "approved"
  | .approvedAfterCap => "approved_after_cap"
  | .rejected => "rejected"
  | .noTrade => "no_trade"
  | .cancelReduceOnlyApproved => "cancel_reduce_only_approved"

inductive RiskLimitStatus where
  | pass | softBreach | hardBreach
deriving DecidableEq

def RiskLimitStatus.value : RiskLimitStatus → String
  | .pass => "pass"
  | .softBreach => "soft_breach"
  | .hardBreach => "hard_breach"

inductive RiskReasonCode where
  | passed | requiredStateMissing | outsideMvpScope | unknownKillState | killSwitchActive
  | orderMaxNotionalSoft | orderMaxNotionalHard | orderPriceCollarSoft | orderPriceCollarHard
  | positionInstrumentExposureSoft | positionInstrumentExposureHard
  | positionStrategyExposureSoft | positionStrategyExposureHard
  | positionTotalSpotExposureSoft | positionTotalSpotExposureHard
  | cashReserveHard | noShortOrOversell | dailyAccountLossSoft | dailyAccountLossHard
  | dailyStrategyLossSoft | dailyStrategyLossHard | maxDrawdownSoft | maxDrawdownHard
  | liquidityParticipationSoft | liquidityParticipationHard | liquiditySpreadSoft
  | liquiditySpreadHard | marketVolatilitySoft | marketVolatilityHard | dataHealthBlock
  | venueStatusHard | venueStatusSoft | duplicateIdempotency | orderThrottleSoft
  | orderThrottleHard | rejectBurstSoft | rejectBurstHard | engineLatencySoft | engineLatencyHard
  | modelDriftOrCalibrationSoft | modelDriftOrCalibrationHard | tcaCostSlippageSoft
  | tcaCostSlippageHard
deriving DecidableEq

def RiskReasonCode.value : RiskReasonCode → String
  | .passed => "passed"
  | .requiredStateMissing => "required_state_missing"
  | .outsideMvpScope => "outside_mvp_scope"
  | .unknownKillState => "unknown_kill_state"
  | .killSwitchActive => "kill_switch_active"
  | .orderMaxNotionalSoft => "order_max_notional_soft"
  | .orderMaxNotionalHard => "order_max_notional_hard"
  | .orderPriceCollarSoft => "order_price_collar_soft"
  | .orderPriceCollarHard => "order_price_collar_hard"
  | .positionInstrumentExposureSoft => "position_instrument_exposure_soft"
  | .positionInstrumentExposureHard => "position_instrument_exposure_hard"
  | .positionStrategyExposureSoft => "position_strategy_exposure_soft"
  | .positionStrategyExposureHard => "position_strategy_exposure_hard"
  | .positionTotalSpotExposureSoft => "position_total_spot_exposure_soft"
  | .positionTotalSpotExposureHard => "position_total_spot_exposure_hard"
  | .cashReserveHard => "cash_reserve_hard"
  | .noShortOrOversell => "no_short_or_oversell"
  | .dailyAccountLossSoft => "daily_account_loss_soft"
  | .dailyAccountLossHard => "daily_account_loss_hard"
  | .dailyStrategyLossSoft => "daily_strategy_loss_soft"
  | .dailyStrategyLossHard => "daily_strategy_loss_hard"
  | .maxDrawdownSoft => "max_drawdown_soft"
  | .maxDrawdownHard => "max_drawdown_hard"
  | .liquidityParticipationSoft => "liquidity_participation_soft"
  | .liquidityParticipationHard => "liquidity_participation_hard"
  | .liquiditySpreadSoft => "liquidity_spread_soft"
  | .liquiditySpreadHard => "liquidity_spread_hard"
  | .marketVolatilitySoft => "market_volatility_soft"
  | .marketVolatilityHard => "market_volatility_hard"
  | .dataHealthBlock => "data_health_block"
  | .venueStatusHard => "venue_status_hard"
  | .venueStatusSoft => "venue_status_soft"
  | .duplicateIdempotency => "duplicate_idempotency"
  | .orderThrottleSoft => "order_throttle_soft"
  | .orderThrottleHard => "order_throttle_hard"
  | .rejectBurstSoft => "reject_burst_soft"
  | .rejectBurstHard => "reject_burst_hard"
  | .engineLatencySoft => "engine_latency_soft"
  | .engineLatencyHard => "engine_latency_hard"
  | .modelDriftOrCalibrationSoft => "model_drift_or_calibration_soft"
  | .modelDriftOrCalibrationHard => "model_drift_or_calibration_hard"
  | .tcaCostSlippageSoft => "tca_cost_slippage_soft"
  | .tcaCostSlippageHard => "tca_cost_slippage_hard"

inductive OrderIdempotencyState where
  | received | accepted | placed | reconciled | rejected | unknown
deriving DecidableEq

def OrderIdempotencyState.value : OrderIdempotencyState → String
  | .received => "received"
  | .accepted => "accepted"
  | .placed => "placed"
  | .reconciled => "reconciled"
  | .rejected => "rejected"
  | .unknown => "unknown"

inductive OrderThrottleScopeType where
  | strategyInstrument | account | venue
deriving DecidableEq

def OrderThrottleScopeType.value : OrderThrottleScopeType → String
  | .strategyInstrument => "strategy_instrument"
  | .account => "account"
  | .venue => "venue"

instance : ToPayload RiskDecisionStatus := ⟨fun x => .text x.value⟩
instance : ToPayload RiskLimitStatus := ⟨fun x => .text x.value⟩
instance : ToPayload RiskReasonCode := ⟨fun x => .text x.value⟩
instance : ToPayload OrderIdempotencyState := ⟨fun x => .text x.value⟩
instance : ToPayload OrderThrottleScopeType := ⟨fun x => .text x.value⟩

/-! ## Order effect and limit evaluations -/

/-- Effect of an order, evaluated before any gateway call. -/
structure OrderEffect where
  side : OrderSide
  quantity : PositiveDecimal
  referencePrice : PositiveDecimal
  proposedNotional : NonNegativeDecimal
  resultingPositionQuantity : Decimal
  resultingPositionNotional : NonNegativeDecimal
  resultingCash : Decimal
  resultingInstrumentExposureNotional : NonNegativeDecimal
  resultingStrategyExposureNotional : NonNegativeDecimal
  resultingTotalSpotExposureNotional : NonNegativeDecimal
  cashReservePct : Decimal
  riskIncreasing : Bool
deriving DecidableEq

instance : ToPayload OrderEffect := ⟨fun e =>
  .record
    [ ("cash_reserve_pct", toPayload e.cashReservePct),
      ("proposed_notional", toPayload e.proposedNotional), ("quantity", toPayload e.quantity),
      ("reference_price", toPayload e.referencePrice),
      ("resulting_cash", toPayload e.resultingCash),
      ("resulting_instrument_exposure_notional", toPayload e.resultingInstrumentExposureNotional),
      ("resulting_position_notional", toPayload e.resultingPositionNotional),
      ("resulting_position_quantity", toPayload e.resultingPositionQuantity),
      ("resulting_strategy_exposure_notional", toPayload e.resultingStrategyExposureNotional),
      ("resulting_total_spot_exposure_notional", toPayload e.resultingTotalSpotExposureNotional),
      ("risk_increasing", toPayload e.riskIncreasing), ("side", toPayload e.side) ]⟩

/-- One evaluated risk limit. -/
structure RiskLimitEvaluation where
  limitId : String
  owner : String
  status : RiskLimitStatus
  passed : Bool
  currentValue : Decimal
  softThreshold : Option Decimal
  hardThreshold : Option Decimal
  cappedValue : Option Decimal
  reasonCode : RiskReasonCode
deriving DecidableEq

instance : ToPayload RiskLimitEvaluation := ⟨fun e =>
  .record
    [ ("capped_value", toPayload e.cappedValue), ("current_value", toPayload e.currentValue),
      ("hard_threshold", toPayload e.hardThreshold), ("limit_id", toPayload e.limitId),
      ("owner", toPayload e.owner), ("passed", toPayload e.passed),
      ("reason_code", toPayload e.reasonCode), ("soft_threshold", toPayload e.softThreshold),
      ("status", toPayload e.status) ]⟩

/-- `status_matches_passed_flag`, with the string constraints. -/
def RiskLimitEvaluation.validate (e : RiskLimitEvaluation) : Raises Unit := do
  require (isNonEmptyString e.limitId ∧ isNonEmptyString e.owner)
    "String should have at least 1 character"
  require (e.passed = true ↔ e.status = .pass) "risk limit passed flag must match pass status"
  require (e.status = .pass → e.reasonCode = .passed)
    "passing risk limit evaluations must use passed reason code"
  require (e.status ≠ .pass → e.reasonCode ≠ .passed)
    "breached risk limit evaluations require a non-passed reason code"

/-! ## Telemetry -/

/-- Existing order state consumed by the duplicate-exposure check; the proof field is the time
check of `idempotency_record_is_consistent`. -/
structure OrderIdempotencyRecord where
  recordId : String
  idempotencyKey : String
  clientOrderId : String
  traceId : String
  orderIntentHash : String
  state : OrderIdempotencyState
  firstSeenAt : AwareDatetime
  updatedAt : AwareDatetime
  owner : String := "Execution / risk"
  requirementIds : List String := ["FR-010", "NFR-004"]
  seen_before_update : firstSeenAt ≤ updatedAt
deriving DecidableEq

instance : ToPayload OrderIdempotencyRecord := ⟨fun r =>
  .record
    [ ("client_order_id", toPayload r.clientOrderId), ("first_seen_at", toPayload r.firstSeenAt),
      ("idempotency_key", toPayload r.idempotencyKey),
      ("order_intent_hash", toPayload r.orderIntentHash), ("owner", toPayload r.owner),
      ("record_id", toPayload r.recordId), ("requirement_ids", toPayload r.requirementIds),
      ("state", toPayload r.state), ("trace_id", toPayload r.traceId),
      ("updated_at", toPayload r.updatedAt) ]⟩

/-- `build_order_idempotency_record_id`. -/
def OrderIdempotencyRecord.buildId [Sha256] (r : OrderIdempotencyRecord) : String :=
  stableId "IDEMPOTENCY" (.record
    [ ("client_order_id", toPayload r.clientOrderId), ("first_seen_at", toPayload r.firstSeenAt),
      ("idempotency_key", toPayload r.idempotencyKey),
      ("order_intent_hash", toPayload r.orderIntentHash), ("state", toPayload r.state),
      ("trace_id", toPayload r.traceId), ("updated_at", toPayload r.updatedAt) ])

/-- The id check of `idempotency_record_is_consistent`. -/
def OrderIdempotencyRecord.validate [Sha256] (r : OrderIdempotencyRecord) : Raises Unit :=
  require (r.recordId = r.buildId) "idempotency record_id is not deterministic"

/-- Scoped order-intent window of the throttle check. -/
structure OrderThrottleWindow where
  scopeType : OrderThrottleScopeType
  scopeId : String
  observedIntentCount : Nat
  softLimit : Nat
  hardLimit : Nat
  windowStartedAt : AwareDatetime
  windowSeconds : Nat
  owner : String := "Execution / ops"
  requirementIds : List String := ["FR-010", "NFR-004"]
  limits_positive : 0 < softLimit ∧ 0 < windowSeconds
  soft_le_hard : softLimit ≤ hardLimit
deriving DecidableEq

instance : ToPayload OrderThrottleWindow := ⟨fun w =>
  .record
    [ ("hard_limit", toPayload w.hardLimit),
      ("observed_intent_count", toPayload w.observedIntentCount), ("owner", toPayload w.owner),
      ("requirement_ids", toPayload w.requirementIds), ("scope_id", toPayload w.scopeId),
      ("scope_type", toPayload w.scopeType), ("soft_limit", toPayload w.softLimit),
      ("window_seconds", toPayload w.windowSeconds),
      ("window_started_at", toPayload w.windowStartedAt) ]⟩

/-- Recent venue or account reject burst. -/
structure ExecutionRejectBurstWindow where
  scopeId : String
  observedRejectCount : Nat
  softLimit : Nat := 3
  hardLimit : Nat := 5
  windowStartedAt : AwareDatetime
  windowSeconds : Nat := 300
  unknownStateRejectObserved : Bool := false
  owner : String := "Execution / ops"
  requirementIds : List String := ["FR-010", "NFR-004"]
  limits_positive : 0 < softLimit ∧ 0 < windowSeconds
  soft_le_hard : softLimit ≤ hardLimit
deriving DecidableEq

instance : ToPayload ExecutionRejectBurstWindow := ⟨fun w =>
  .record
    [ ("hard_limit", toPayload w.hardLimit),
      ("observed_reject_count", toPayload w.observedRejectCount), ("owner", toPayload w.owner),
      ("requirement_ids", toPayload w.requirementIds), ("scope_id", toPayload w.scopeId),
      ("soft_limit", toPayload w.softLimit),
      ("unknown_state_reject_observed", toPayload w.unknownStateRejectObserved),
      ("window_seconds", toPayload w.windowSeconds),
      ("window_started_at", toPayload w.windowStartedAt) ]⟩

/-- Price-collar telemetry of one order intent. -/
structure PriceRiskTelemetry where
  referencePriceAvailable : Bool := true
  priceDeviationBps : NonNegativeDecimal := ⟨0, Decimal.zero_le_zero⟩
deriving DecidableEq

/-- Daily loss and drawdown telemetry. -/
structure LossRiskTelemetry where
  dailyAccountPnl : Decimal := 0
  dailyStrategyPnl : Decimal := 0
  maxDrawdownPct : NonNegativeDecimal := ⟨0, Decimal.zero_le_zero⟩
deriving DecidableEq

/-- Liquidity, participation and spread telemetry. -/
structure LiquidityRiskTelemetry where
  rolling24hQuoteVolumeNotional : Option PositiveDecimal := none
  topOfBookDepthNotional : Option PositiveDecimal := none
  depthMetricRequired : Bool := false
  currentSpreadBps : Option NonNegativeDecimal := some ⟨0, Decimal.zero_le_zero⟩
  spreadCostModelEnvelopeBps : Option NonNegativeDecimal := none
deriving DecidableEq

/-- Volatility-envelope telemetry. -/
structure MarketRiskTelemetry where
  volatilityEnvelopeAvailable : Bool := true
  volatilityEnvelopeMultiplier : Option NonNegativeDecimal := some ⟨1, Decimal.zero_le_one⟩
  volatilityShockActive : Bool := false
deriving DecidableEq

/-- Decision, risk and gateway latency telemetry. -/
structure EngineLatencyTelemetry where
  latencyBudgetMs : PositiveDecimal := ⟨60000, by decide⟩
  riskToGatewayLatencyMs : NonNegativeDecimal := ⟨0, Decimal.zero_le_zero⟩
  eventTimeValidityProven : Bool := true
deriving DecidableEq

/-- Model drift and calibration telemetry. -/
structure ModelRiskTelemetry where
  sustainedDriftDetected : Bool := false
  severeAnomalyDetected : Bool := false
  calibratedOutputs : Bool := true
deriving DecidableEq

/-- Transaction-cost telemetry. -/
structure TcaRiskTelemetry where
  tcaAvailable : Bool := true
  fillQualityKnown : Bool := true
  costSlippageMultiplier : Option NonNegativeDecimal := some ⟨1, Decimal.zero_le_one⟩
deriving DecidableEq

instance : ToPayload PriceRiskTelemetry := ⟨fun t =>
  .record [("price_deviation_bps", toPayload t.priceDeviationBps),
    ("reference_price_available", toPayload t.referencePriceAvailable)]⟩

instance : ToPayload LossRiskTelemetry := ⟨fun t =>
  .record [("daily_account_pnl", toPayload t.dailyAccountPnl),
    ("daily_strategy_pnl", toPayload t.dailyStrategyPnl),
    ("max_drawdown_pct", toPayload t.maxDrawdownPct)]⟩

instance : ToPayload LiquidityRiskTelemetry := ⟨fun t =>
  .record
    [ ("current_spread_bps", toPayload t.currentSpreadBps),
      ("depth_metric_required", toPayload t.depthMetricRequired),
      ("rolling_24h_quote_volume_notional", toPayload t.rolling24hQuoteVolumeNotional),
      ("spread_cost_model_envelope_bps", toPayload t.spreadCostModelEnvelopeBps),
      ("top_of_book_depth_notional", toPayload t.topOfBookDepthNotional) ]⟩

instance : ToPayload MarketRiskTelemetry := ⟨fun t =>
  .record [("volatility_envelope_available", toPayload t.volatilityEnvelopeAvailable),
    ("volatility_envelope_multiplier", toPayload t.volatilityEnvelopeMultiplier),
    ("volatility_shock_active", toPayload t.volatilityShockActive)]⟩

instance : ToPayload EngineLatencyTelemetry := ⟨fun t =>
  .record [("event_time_validity_proven", toPayload t.eventTimeValidityProven),
    ("latency_budget_ms", toPayload t.latencyBudgetMs),
    ("risk_to_gateway_latency_ms", toPayload t.riskToGatewayLatencyMs)]⟩

instance : ToPayload ModelRiskTelemetry := ⟨fun t =>
  .record [("calibrated_outputs", toPayload t.calibratedOutputs),
    ("severe_anomaly_detected", toPayload t.severeAnomalyDetected),
    ("sustained_drift_detected", toPayload t.sustainedDriftDetected)]⟩

instance : ToPayload TcaRiskTelemetry := ⟨fun t =>
  .record [("cost_slippage_multiplier", toPayload t.costSlippageMultiplier),
    ("fill_quality_known", toPayload t.fillQualityKnown),
    ("tca_available", toPayload t.tcaAvailable)]⟩

/-! ## The hashed view of the instrument master -/

/-- The entry of one account in `_instrument_master_risk_payload`. -/
def Account.riskPayload (a : Account) : Payload :=
  .record
    [ ("account_id", toPayload a.accountId), ("account_type", toPayload a.accountType.value),
      ("derivatives_enabled", toPayload a.derivativesEnabled),
      ("live_capital_enabled", toPayload a.liveCapitalEnabled),
      ("margin_enabled", toPayload a.marginEnabled),
      ("risk_limits", .record
        [ ("max_drawdown_pct", toPayload a.riskLimits.maxDrawdownPct),
          ("max_instrument_exposure_pct", toPayload a.riskLimits.maxInstrumentExposurePct),
          ("max_order_notional_pct", toPayload a.riskLimits.maxOrderNotionalPct),
          ("max_strategy_exposure_pct", toPayload a.riskLimits.maxStrategyExposurePct),
          ("max_total_spot_exposure_pct", toPayload a.riskLimits.maxTotalSpotExposurePct),
          ("min_cash_reserve_pct", toPayload a.riskLimits.minCashReservePct) ]),
      ("shorting_enabled", toPayload a.shortingEnabled), ("status", toPayload a.status.value),
      ("trading_permissions", toPayload (sortedPermissions a.tradingPermissions)),
      ("venue_id", toPayload a.venueId) ]

/-- The entry of one constraint in `_instrument_master_risk_payload`. -/
def InstrumentConstraint.riskPayload (c : InstrumentConstraint) : Payload :=
  .record
    [ ("constraint_id", toPayload c.constraintId),
      ("effective_from", toPayload c.window.effectiveFrom),
      ("effective_to", toPayload c.window.effectiveTo),
      ("instrument_id", toPayload c.instrumentId), ("lot_size", toPayload c.lotSize),
      ("max_order_notional", toPayload c.maxOrderNotional),
      ("max_order_quantity", toPayload c.maxOrderQuantity),
      ("min_notional", toPayload c.minNotional),
      ("min_order_quantity", toPayload c.minOrderQuantity), ("tick_size", toPayload c.tickSize) ]

/-- The entry of one instrument in `_instrument_master_risk_payload`. -/
def Instrument.riskPayload (i : Instrument) : Payload :=
  .record
    [ ("instrument_id", toPayload i.instrumentId),
      ("instrument_type", toPayload i.instrumentType.value),
      ("is_derivative", toPayload i.isDerivative),
      ("leverage_allowed", toPayload i.leverageAllowed), ("lot_size", toPayload i.lotSize),
      ("margin_allowed", toPayload i.marginAllowed), ("min_notional", toPayload i.minNotional),
      ("short_selling_allowed", toPayload i.shortSellingAllowed),
      ("status", toPayload i.status.value),
      ("supported_order_types", toPayload (sortedOrderTypes i.supportedOrderTypes)),
      ("tick_size", toPayload i.tickSize), ("venue_id", toPayload i.venueId) ]

/-- The entry of one venue in `_instrument_master_risk_payload`. -/
def Venue.riskPayload (v : Venue) : Payload :=
  .record
    [ ("status", toPayload v.status),
      ("supported_order_types", toPayload (sortedOrderTypes v.supportedOrderTypes)),
      ("venue_id", toPayload v.venueId) ]

/-- `sorted(items, key=...)` by a string key. -/
def sortedByKey {α : Type} (key : α → String) (items : List α) : List α :=
  items.insertionSort fun a b => key a ≤ key b

/-- `_instrument_master_risk_payload`. -/
def InstrumentMasterSnapshot.riskPayload (s : InstrumentMasterSnapshot) : Payload :=
  .record
    [ ("accounts", .list ((sortedByKey Account.accountId s.accounts).map Account.riskPayload)),
      ("created_at", toPayload s.createdAt),
      ("instrument_constraints", .list
        ((sortedByKey InstrumentConstraint.constraintId s.instrumentConstraints).map
          InstrumentConstraint.riskPayload)),
      ("instruments", .list
        ((sortedByKey Instrument.instrumentId s.instruments).map Instrument.riskPayload)),
      ("snapshot_id", toPayload s.snapshotId),
      ("venues", .list ((sortedByKey Venue.venueId s.venues).map Venue.riskPayload)) ]

end TaModel.Contracts
