import TaModel.Contracts.RiskCheck

/-!
# The pre-trade risk engine

`evaluate_pre_trade_risk` of `risk/engine.py`: the metadata view, the effect of the order, the
evaluations of every limit and the decision after soft caps.
-/

set_option autoImplicit false

namespace TaModel.Risk

open Contracts

/-! ## Limits -/

/-- The limits of the engine, the keys of `_LIMIT_OWNERS`. -/
inductive LimitId where
  | scopeProductMvp | configRequiredState | killSwitchActiveState | orderMaxNotional
  | orderPriceCollar | positionInstrumentExposure | positionStrategyExposure
  | positionTotalSpotExposure | positionNoShortOrOversell | lossDailyAccount | lossDailyStrategy
  | lossMaxDrawdown | liquidityParticipation | liquiditySpread | marketVolatility | dataFreshness
  | venueStatus | executionOrderThrottle | executionDuplicateIdempotency | executionRejectBurst
  | engineLatency | modelDriftOrCalibration | tcaCostSlippage
deriving DecidableEq

def LimitId.value : LimitId → String
  | .scopeProductMvp => "scope.product_mvp"
  | .configRequiredState => "config.required_state"
  | .killSwitchActiveState => "kill_switch.active_state"
  | .orderMaxNotional => "order.max_notional"
  | .orderPriceCollar => "order.price_collar"
  | .positionInstrumentExposure => "position.instrument_exposure"
  | .positionStrategyExposure => "position.strategy_exposure"
  | .positionTotalSpotExposure => "position.total_spot_exposure"
  | .positionNoShortOrOversell => "position.no_short_or_oversell"
  | .lossDailyAccount => "loss.daily_account"
  | .lossDailyStrategy => "loss.daily_strategy"
  | .lossMaxDrawdown => "loss.max_drawdown"
  | .liquidityParticipation => "liquidity.participation"
  | .liquiditySpread => "liquidity.spread"
  | .marketVolatility => "market.volatility"
  | .dataFreshness => "data.freshness"
  | .venueStatus => "venue.status"
  | .executionOrderThrottle => "execution.order_throttle"
  | .executionDuplicateIdempotency => "execution.duplicate_idempotency"
  | .executionRejectBurst => "execution.reject_burst"
  | .engineLatency => "engine.latency"
  | .modelDriftOrCalibration => "model.drift_or_calibration"
  | .tcaCostSlippage => "tca.cost_slippage"

/-- `_LIMIT_OWNERS`. -/
def LimitId.owner : LimitId → String
  | .scopeProductMvp => "Product / risk"
  | .configRequiredState => "Risk / architecture"
  | .killSwitchActiveState => "Risk / ops"
  | .orderMaxNotional => "Risk / execution"
  | .orderPriceCollar => "Execution / risk"
  | .positionInstrumentExposure => "Risk"
  | .positionStrategyExposure => "Risk / strategy owner"
  | .positionTotalSpotExposure => "Risk / product"
  | .positionNoShortOrOversell => "Risk / execution"
  | .lossDailyAccount => "Risk"
  | .lossDailyStrategy => "Risk / strategy owner"
  | .lossMaxDrawdown => "Risk / product"
  | .liquidityParticipation => "Execution / risk"
  | .liquiditySpread => "Execution / risk"
  | .marketVolatility => "Risk / quant"
  | .dataFreshness => "Data / risk"
  | .venueStatus => "Ops / execution"
  | .executionOrderThrottle => "Execution / ops"
  | .executionDuplicateIdempotency => "Execution / risk"
  | .executionRejectBurst => "Execution / ops"
  | .engineLatency => "Ops / risk"
  | .modelDriftOrCalibration => "ML / risk"
  | .tcaCostSlippage => "Execution / risk"

/-- `_evaluation`: an absent status passes. -/
def evaluation (limit : LimitId) (currentValue hardThreshold : Decimal)
    (status : Option RiskLimitStatus) (reasonCode : RiskReasonCode)
    (softThreshold cappedValue : Option Decimal) : RiskLimitEvaluation :=
  let finalStatus := status.getD .pass
  { limitId := limit.value, owner := limit.owner, status := finalStatus,
    passed := decide (finalStatus = .pass), currentValue := currentValue,
    softThreshold := softThreshold, hardThreshold := some hardThreshold,
    cappedValue := cappedValue, reasonCode := reasonCode }

/-- `_threshold_evaluation`: above the hard threshold, above the soft one, or passing. -/
def thresholdEvaluation (limit : LimitId) (currentValue soft hard : Decimal)
    (softReason hardReason : RiskReasonCode) : RiskLimitEvaluation :=
  if hard < currentValue then
    evaluation limit currentValue hard (some .hardBreach) hardReason (some soft) none
  else if soft < currentValue then
    evaluation limit currentValue hard (some .softBreach) softReason (some soft) (some soft)
  else evaluation limit currentValue hard none .passed (some soft) none

/-- `_negative_loss_evaluation`: losses are negative, so the thresholds are reached from above. -/
def negativeLossEvaluation (limit : LimitId) (currentValue soft hard : Decimal)
    (softReason hardReason : RiskReasonCode) : RiskLimitEvaluation :=
  if currentValue ≤ hard then
    evaluation limit currentValue hard (some .hardBreach) hardReason (some soft) none
  else if currentValue ≤ soft then
    evaluation limit currentValue hard (some .softBreach) softReason (some soft) none
  else evaluation limit currentValue hard none .passed (some soft) none

/-! ## Metadata -/

/-- `_MetadataView`. -/
structure MetadataView where
  venue : Option Venue
  instrument : Option Instrument
  account : Option Account
  constraint : Option InstrumentConstraint

/-- `_active_constraint`: the constraint in force at snapshot time, if it is the only one. -/
def activeConstraint (snapshot : InstrumentMasterSnapshot) (instrumentId : String) :
    Option InstrumentConstraint :=
  match snapshot.instrumentConstraints.filter fun c =>
      c.instrumentId == instrumentId && c.window.isEffective snapshot.createdAt with
  | [c] => some c
  | _ => none

/-- `_metadata_view`. -/
def metadataView (r : RiskCheckRequest) : MetadataView where
  venue := r.instrumentMasterSnapshot.venues.find? fun v => v.venueId == r.orderIntent.venueId
  instrument := r.instrumentMasterSnapshot.instruments.find? fun i =>
    i.instrumentId == r.orderIntent.instrumentId && i.venueId == r.orderIntent.venueId
  account := r.instrumentMasterSnapshot.accounts.find? fun a =>
    a.accountId == r.accountId && a.venueId == r.orderIntent.venueId
  constraint := activeConstraint r.instrumentMasterSnapshot r.orderIntent.instrumentId

/-! ## Order effect -/

/-- `quantity * reference_price`. -/
def proposedNotional (r : RiskCheckRequest) : NonNegativeDecimal :=
  ⟨r.orderIntent.quantity.val * r.referencePrice.val,
    mul_nonneg r.orderIntent.quantity.property.le r.referencePrice.property.le⟩

/-- An exposure after the order: a buy adds the notional, a sell removes it down to zero. -/
def resultingExposure (side : OrderSide) (current notional : NonNegativeDecimal) :
    NonNegativeDecimal :=
  match side with
  | .buy => ⟨current.val + notional.val, add_nonneg current.property notional.property⟩
  | .sell => ⟨max 0 (current.val - notional.val), le_max_left _ _⟩

/-- `_build_order_effect`. -/
def buildOrderEffect (r : RiskCheckRequest) : OrderEffect :=
  let intent := r.orderIntent
  let notional := proposedNotional r
  let resultingPositionQuantity : Decimal :=
    match intent.side with
    | .buy => r.currentInstrumentPositionQuantity.val + intent.quantity.val
    | .sell => r.currentInstrumentPositionQuantity.val - intent.quantity.val
  let resultingCash : Decimal :=
    match intent.side with
    | .buy => r.currentCash.val - notional.val
    | .sell => r.currentCash.val + notional.val
  let riskIncreasing : Bool :=
    match intent.side with
    | .buy => true
    | .sell => decide (resultingPositionQuantity < 0)
  { side := intent.side, quantity := intent.quantity, referencePrice := r.referencePrice,
    proposedNotional := notional, resultingPositionQuantity := resultingPositionQuantity,
    resultingPositionNotional :=
      ⟨max 0 (resultingPositionQuantity * r.referencePrice.val), le_max_left _ _⟩,
    resultingCash := resultingCash,
    resultingInstrumentExposureNotional :=
      resultingExposure intent.side r.currentInstrumentExposureNotional notional,
    resultingStrategyExposureNotional :=
      resultingExposure intent.side r.currentStrategyExposureNotional notional,
    resultingTotalSpotExposureNotional :=
      resultingExposure intent.side r.currentTotalSpotExposureNotional notional,
    cashReservePct := resultingCash / r.accountEquity.val, riskIncreasing := riskIncreasing }

/-! ## State, scope and venue limits -/

/-- An evaluation whose value is one when `ok` holds, and a hard breach at zero otherwise. -/
def flagEvaluation (limit : LimitId) (ok : Bool) (reason : RiskReasonCode) :
    RiskLimitEvaluation :=
  if ok then evaluation limit 1 1 none .passed none none
  else evaluation limit 0 1 (some .hardBreach) reason none none

/-- `_required_state_evaluation`. -/
def requiredStateEvaluation (r : RiskCheckRequest) (metadata : MetadataView) :
    RiskLimitEvaluation :=
  let stateIsPresent := metadata.venue.isSome && metadata.instrument.isSome &&
    metadata.account.isSome && metadata.constraint.isSome
  let requiredMetadataIsOrderable :=
    (metadata.instrument.any fun i =>
      i.status = .trading && decide (OrderType.market ∈ i.supportedOrderTypes)) &&
    (metadata.account.any fun a =>
      a.status = .active && decide (TradingPermission.placeOrders ∈ a.tradingPermissions))
  let stateIsKnown := decide (r.killSwitchSnapshot.activeState ≠ .unknownFailClosed)
  flagEvaluation .configRequiredState
    (stateIsPresent && requiredMetadataIsOrderable && stateIsKnown) .requiredStateMissing

/-- `_product_scope_evaluation`. -/
def productScopeEvaluation (metadata : MetadataView) : RiskLimitEvaluation :=
  let inScope :=
    (metadata.instrument.any fun i =>
      i.instrumentType = .spot && !i.isDerivative && !i.marginAllowed && !i.shortSellingAllowed &&
        !i.leverageAllowed) &&
    (metadata.account.any fun a =>
      (a.accountType = .simulation || a.accountType = .paper) && !a.liveCapitalEnabled &&
        !a.marginEnabled && !a.derivativesEnabled && !a.shortingEnabled)
  flagEvaluation .scopeProductMvp inScope .outsideMvpScope

/-- `_kill_switch_evaluation`. -/
def killSwitchEvaluation (r : RiskCheckRequest) (effect : OrderEffect) : RiskLimitEvaluation :=
  let state := r.killSwitchSnapshot.activeState
  let currentValue : Decimal := state.severity
  let active := evaluation .killSwitchActiveState currentValue 0 (some .hardBreach)
    .killSwitchActive none none
  match state with
  | .unknownFailClosed =>
      evaluation .killSwitchActiveState currentValue 0 (some .hardBreach) .unknownKillState
        none none
  | .clear => evaluation .killSwitchActiveState currentValue 0 none .passed none none
  | .softLimited =>
      evaluation .killSwitchActiveState currentValue 0 (some .softBreach) .killSwitchActive
        none none
  | .pauseNewOrders | .reduceOnly =>
      if effect.riskIncreasing then active
      else evaluation .killSwitchActiveState currentValue 3 none .passed none none
  | .cancelOnly | .halted => active

/-- `_venue_status_evaluation`. -/
def venueStatusEvaluation (metadata : MetadataView) : RiskLimitEvaluation :=
  match metadata.venue.map Venue.status with
  | some .active => evaluation .venueStatus 1 1 none .passed none none
  | some .degraded =>
      evaluation .venueStatus (1 / 2) 1 (some .softBreach) .venueStatusSoft none none
  | _ => evaluation .venueStatus 0 1 (some .hardBreach) .venueStatusHard none none

/-- `_price_collar_evaluation`: a market order may not exceed the soft collar either. -/
def priceCollarEvaluation (r : RiskCheckRequest) (p : RiskPolicy) : RiskLimitEvaluation :=
  let hard := p.priceCollarBps.hard.val
  let soft := p.priceCollarBps.soft.val
  let currentValue := r.priceRisk.priceDeviationBps.val
  if r.priceRisk.referencePriceAvailable = false then
    evaluation .orderPriceCollar currentValue hard (some .hardBreach) .orderPriceCollarHard
      (some soft) none
  else if hard < currentValue ∨ (r.orderIntent.orderType = .market ∧ soft < currentValue) then
    evaluation .orderPriceCollar currentValue hard (some .hardBreach) .orderPriceCollarHard
      (some soft) none
  else if soft < currentValue then
    evaluation .orderPriceCollar currentValue hard (some .softBreach) .orderPriceCollarSoft
      (some soft) none
  else evaluation .orderPriceCollar currentValue hard none .passed (some soft) none

/-! ## Size limits -/

/-- A percentage limit of the account, or of the policy when the account is unknown. -/
def accountPct (metadata : MetadataView) (limit : AccountRiskLimits → BoundedRiskFraction)
    (policyPct : Decimal) : Decimal :=
  match metadata.account with
  | some account => (limit account.riskLimits).val
  | none => policyPct

/-- `min(nav * policy hard percentage, nav * account percentage)`. -/
def hardNotional (p : RiskPolicy) (metadata : MetadataView)
    (limit : AccountRiskLimits → BoundedRiskFraction) (hardPct : BoundedRiskFraction) : Decimal :=
  min (p.paperNav.val * hardPct.val) (p.paperNav.val * accountPct metadata limit hardPct.val)

/-- The hard threshold of `_order_notional_evaluation`. -/
def orderNotionalHard (p : RiskPolicy) (metadata : MetadataView) : Decimal :=
  let threshold :=
    hardNotional p metadata AccountRiskLimits.maxOrderNotionalPct p.maxOrderNotionalPct.hard
  match metadata.constraint.bind InstrumentConstraint.maxOrderNotional with
  | some maxOrderNotional => min threshold maxOrderNotional.val
  | none => threshold

/-- `_order_notional_evaluation`. -/
def orderNotionalEvaluation (p : RiskPolicy) (metadata : MetadataView) (effect : OrderEffect) :
    RiskLimitEvaluation :=
  let hard := orderNotionalHard p metadata
  let soft := p.paperNav.val * p.maxOrderNotionalPct.soft.val
  if effect.riskIncreasing = false then
    evaluation .orderMaxNotional effect.proposedNotional.val hard none .passed none none
  else
    thresholdEvaluation .orderMaxNotional effect.proposedNotional.val soft hard
      .orderMaxNotionalSoft .orderMaxNotionalHard

/-- The exposure evaluations: an order that does not increase risk passes. -/
def exposureEvaluation (limit : LimitId) (effect : OrderEffect) (exposure soft hard : Decimal)
    (softReason hardReason : RiskReasonCode) : RiskLimitEvaluation :=
  if effect.riskIncreasing = false then
    evaluation limit exposure hard none .passed (some soft) none
  else thresholdEvaluation limit exposure soft hard softReason hardReason

/-- `_instrument_exposure_evaluation`. -/
def instrumentExposureEvaluation (p : RiskPolicy) (metadata : MetadataView)
    (effect : OrderEffect) : RiskLimitEvaluation :=
  exposureEvaluation .positionInstrumentExposure effect
    effect.resultingInstrumentExposureNotional.val
    (p.paperNav.val * p.maxInstrumentExposurePct.soft.val)
    (hardNotional p metadata AccountRiskLimits.maxInstrumentExposurePct
      p.maxInstrumentExposurePct.hard)
    .positionInstrumentExposureSoft .positionInstrumentExposureHard

/-- `_strategy_exposure_evaluation`. -/
def strategyExposureEvaluation (p : RiskPolicy) (metadata : MetadataView)
    (effect : OrderEffect) : RiskLimitEvaluation :=
  exposureEvaluation .positionStrategyExposure effect
    effect.resultingStrategyExposureNotional.val
    (p.paperNav.val * p.maxStrategyExposurePct.soft.val)
    (hardNotional p metadata AccountRiskLimits.maxStrategyExposurePct
      p.maxStrategyExposurePct.hard)
    .positionStrategyExposureSoft .positionStrategyExposureHard

/-- `max(nav * policy reserve, nav * account reserve)`. -/
def cashThreshold (p : RiskPolicy) (metadata : MetadataView) : Decimal :=
  max (p.paperNav.val * p.minCashReservePct.val)
    (p.paperNav.val *
      accountPct metadata AccountRiskLimits.minCashReservePct p.minCashReservePct.val)

/-- `_total_spot_exposure_evaluation`: the cash reserve is checked first, under the same limit. -/
def totalSpotExposureEvaluation (p : RiskPolicy) (metadata : MetadataView)
    (effect : OrderEffect) : RiskLimitEvaluation :=
  let hard := hardNotional p metadata AccountRiskLimits.maxTotalSpotExposurePct
    p.maxTotalSpotExposurePct.hard
  let soft := p.paperNav.val * p.maxTotalSpotExposurePct.soft.val
  if effect.riskIncreasing = true ∧ effect.resultingCash < cashThreshold p metadata then
    evaluation .positionTotalSpotExposure effect.resultingCash (cashThreshold p metadata)
      (some .hardBreach) .cashReserveHard (some soft) none
  else
    exposureEvaluation .positionTotalSpotExposure effect
      effect.resultingTotalSpotExposureNotional.val soft hard
      .positionTotalSpotExposureSoft .positionTotalSpotExposureHard

/-- `_no_short_or_oversell_evaluation`. -/
def noShortOrOversellEvaluation (r : RiskCheckRequest) : RiskLimitEvaluation :=
  let oversellQuantity : Decimal :=
    match r.orderIntent.side with
    | .sell => max 0 (r.orderIntent.quantity.val - r.currentInstrumentPositionQuantity.val)
    | .buy => 0
  if 0 < oversellQuantity then
    evaluation .positionNoShortOrOversell oversellQuantity 0 (some .hardBreach)
      .noShortOrOversell none none
  else evaluation .positionNoShortOrOversell oversellQuantity 0 none .passed none none

/-! ## Loss limits -/

/-- `_daily_account_loss_evaluation`. -/
def dailyAccountLossEvaluation (r : RiskCheckRequest) (p : RiskPolicy) : RiskLimitEvaluation :=
  negativeLossEvaluation .lossDailyAccount r.lossRisk.dailyAccountPnl
    (-(p.paperNav.val * p.maxDailyAccountLossPct.soft.val))
    (-(p.paperNav.val * p.maxDailyAccountLossPct.hard.val))
    .dailyAccountLossSoft .dailyAccountLossHard

/-- `_daily_strategy_loss_evaluation`. -/
def dailyStrategyLossEvaluation (r : RiskCheckRequest) (p : RiskPolicy) : RiskLimitEvaluation :=
  negativeLossEvaluation .lossDailyStrategy r.lossRisk.dailyStrategyPnl
    (-(p.paperNav.val * p.maxDailyStrategyLossPct.soft.val))
    (-(p.paperNav.val * p.maxDailyStrategyLossPct.hard.val))
    .dailyStrategyLossSoft .dailyStrategyLossHard

/-- `_max_drawdown_evaluation`. -/
def maxDrawdownEvaluation (r : RiskCheckRequest) (p : RiskPolicy) : RiskLimitEvaluation :=
  thresholdEvaluation .lossMaxDrawdown r.lossRisk.maxDrawdownPct.val p.maxDrawdownPct.soft.val
    p.maxDrawdownPct.hard.val .maxDrawdownSoft .maxDrawdownHard

/-! ## Market limits -/

/-- One participation check: observed share, soft and hard share, and the notional at the soft
share. -/
structure LiquidityCheck where
  currentValue : Decimal
  softThreshold : Decimal
  hardThreshold : Decimal
  softCapNotional : Decimal
deriving DecidableEq

/-- A participation check of a notional against an available notional. -/
def liquidityCheck (notional : Decimal) (available : PositiveDecimal) (t : FractionThresholds) :
    LiquidityCheck where
  currentValue := notional / available.val
  softThreshold := t.soft.val
  hardThreshold := t.hard.val
  softCapNotional := available.val * t.soft.val

/-- The `checks` of `_liquidity_participation_evaluation`: volume first, then depth. -/
def liquidityChecks (r : RiskCheckRequest) (p : RiskPolicy) (notional : Decimal) :
    List LiquidityCheck :=
  (r.liquidityRisk.rolling24hQuoteVolumeNotional.toList.map fun volume =>
    liquidityCheck notional volume p.maxParticipation24hQuoteVolumePct) ++
  (r.liquidityRisk.topOfBookDepthNotional.toList.map fun depth =>
    liquidityCheck notional depth p.maxParticipationTopOfBookDepthPct)

/-- `max(checks, key=lambda item: item[0])`: the first check with the greatest share. -/
def maxCheck (first : LiquidityCheck) (rest : List LiquidityCheck) : LiquidityCheck :=
  rest.foldl (fun best c => if best.currentValue < c.currentValue then c else best) first

/-- The verdict of `_liquidity_participation_evaluation` on a list of checks. -/
def participationEvaluation (p : RiskPolicy) (checks : List LiquidityCheck) :
    RiskLimitEvaluation :=
  match checks with
  | [] =>
      evaluation .liquidityParticipation 0 p.maxParticipation24hQuoteVolumePct.hard.val none
        .passed (some p.maxParticipation24hQuoteVolumePct.soft.val) none
  | first :: rest =>
      match checks.find? fun c => decide (c.hardThreshold < c.currentValue) with
      | some c =>
          evaluation .liquidityParticipation c.currentValue c.hardThreshold (some .hardBreach)
            .liquidityParticipationHard (some c.softThreshold) none
      | none =>
          -- the first soft breach decides the cap, also when both checks breach
          match checks.find? fun c => decide (c.softThreshold < c.currentValue) with
          | some c =>
              evaluation .liquidityParticipation c.currentValue c.hardThreshold (some .softBreach)
                .liquidityParticipationSoft (some c.softThreshold) (some c.softCapNotional)
          | none =>
              let c := maxCheck first rest
              evaluation .liquidityParticipation c.currentValue c.hardThreshold none .passed
                (some c.softThreshold) none

/-- `_liquidity_participation_evaluation`. -/
def liquidityParticipationEvaluation (r : RiskCheckRequest) (p : RiskPolicy)
    (effect : OrderEffect) : RiskLimitEvaluation :=
  if r.liquidityRisk.depthMetricRequired = true ∧
      r.liquidityRisk.topOfBookDepthNotional = none then
    evaluation .liquidityParticipation 1 0 (some .hardBreach) .liquidityParticipationHard
      none none
  else participationEvaluation p (liquidityChecks r p effect.proposedNotional.val)

/-- `_liquidity_spread_evaluation`. -/
def liquiditySpreadEvaluation (r : RiskCheckRequest) (p : RiskPolicy) : RiskLimitEvaluation :=
  let soft := p.maxSpreadBps.soft.val
  match r.liquidityRisk.currentSpreadBps with
  | none =>
      evaluation .liquiditySpread 0 p.maxSpreadBps.hard.val (some .hardBreach)
        .liquiditySpreadHard (some soft) none
  | some spread =>
      let hard :=
        match r.liquidityRisk.spreadCostModelEnvelopeBps with
        | some envelope => min p.maxSpreadBps.hard.val envelope.val
        | none => p.maxSpreadBps.hard.val
      thresholdEvaluation .liquiditySpread spread.val soft hard .liquiditySpreadSoft
        .liquiditySpreadHard

/-- A multiplier limit: an unusable multiplier is a hard breach. -/
def multiplierEvaluation (limit : LimitId) (usable : Bool)
    (multiplier : Option NonNegativeDecimal) (t : PositiveThresholds)
    (softReason hardReason : RiskReasonCode) : RiskLimitEvaluation :=
  match multiplier with
  | none => evaluation limit 0 t.hard.val (some .hardBreach) hardReason (some t.soft.val) none
  | some value =>
      if usable then
        thresholdEvaluation limit value.val t.soft.val t.hard.val softReason hardReason
      else
        evaluation limit value.val t.hard.val (some .hardBreach) hardReason (some t.soft.val) none

/-- `_market_volatility_evaluation`. -/
def marketVolatilityEvaluation (r : RiskCheckRequest) (p : RiskPolicy) : RiskLimitEvaluation :=
  multiplierEvaluation .marketVolatility
    (r.marketRisk.volatilityEnvelopeAvailable && !r.marketRisk.volatilityShockActive)
    r.marketRisk.volatilityEnvelopeMultiplier p.maxVolatilityEnvelopeMultiplier
    .marketVolatilitySoft .marketVolatilityHard

/-- `_tca_cost_slippage_evaluation`. -/
def tcaCostSlippageEvaluation (r : RiskCheckRequest) (p : RiskPolicy) : RiskLimitEvaluation :=
  multiplierEvaluation .tcaCostSlippage (r.tcaRisk.tcaAvailable && r.tcaRisk.fillQualityKnown)
    r.tcaRisk.costSlippageMultiplier p.tcaCostSlippageMultiplier .tcaCostSlippageSoft
    .tcaCostSlippageHard

/-! ## Data, idempotency and execution limits -/

/-- An evaluation of a number of blocking items: any is a hard breach. -/
def countEvaluation (limit : LimitId) (count : Nat) (reason : RiskReasonCode) :
    RiskLimitEvaluation :=
  if 0 < count then evaluation limit count 0 (some .hardBreach) reason none none
  else evaluation limit 0 0 none .passed none none

/-- `_data_freshness_evaluation`. -/
def dataFreshnessEvaluation (r : RiskCheckRequest) : RiskLimitEvaluation :=
  let blockingSignals := r.dataHealthSignals.filter fun s =>
    s.blocksTrading && (s.blockedInstrumentId = none ||
      s.blockedInstrumentId = some r.orderIntent.instrumentId)
  countEvaluation .dataFreshness blockingSignals.length .dataHealthBlock

/-- `_UNRESOLVED_IDEMPOTENCY_STATES`. -/
def isUnresolved (state : OrderIdempotencyState) : Bool :=
  state = .received || state = .accepted || state = .placed || state = .unknown

/-- `_idempotency_evaluation`. -/
def idempotencyEvaluation [Sha256] (r : RiskCheckRequest) : RiskLimitEvaluation :=
  let orderHash := buildOrderIntentHash r.orderIntent
  let duplicates := r.idempotencyRecords.filter fun record =>
    isUnresolved record.state &&
      (record.idempotencyKey == r.idempotencyKey ||
        record.clientOrderId == r.orderIntent.clientOrderId || record.traceId == r.traceId ||
        record.orderIntentHash == orderHash)
  countEvaluation .executionDuplicateIdempotency duplicates.length .duplicateIdempotency

/-- The entry of one window in `_throttle_evaluations`. -/
def throttleEvaluation (window : OrderThrottleWindow) : RiskLimitEvaluation :=
  let projected : Decimal := (window.observedIntentCount + 1 : Nat)
  let hard : Decimal := window.hardLimit
  let soft : Decimal := window.softLimit
  if hard < projected then
    evaluation .executionOrderThrottle projected hard (some .hardBreach) .orderThrottleHard
      (some soft) none
  else if soft < projected then
    evaluation .executionOrderThrottle projected hard (some .softBreach) .orderThrottleSoft
      (some soft) none
  else evaluation .executionOrderThrottle projected hard none .passed (some soft) none

/-- `_throttle_evaluations`. -/
def throttleEvaluations (r : RiskCheckRequest) : List RiskLimitEvaluation :=
  match r.throttleWindows with
  | [] => [evaluation .executionOrderThrottle 0 0 none .passed (some 0) none]
  | windows => windows.map throttleEvaluation

/-- The entry of one window in `_reject_burst_evaluations`. -/
def rejectBurstEvaluation (window : ExecutionRejectBurstWindow) : RiskLimitEvaluation :=
  let currentValue : Decimal := window.observedRejectCount
  let hard : Decimal := window.hardLimit
  let soft : Decimal := window.softLimit
  if window.unknownStateRejectObserved = true ∨ hard ≤ currentValue then
    evaluation .executionRejectBurst currentValue hard (some .hardBreach) .rejectBurstHard
      (some soft) none
  else if soft ≤ currentValue then
    evaluation .executionRejectBurst currentValue hard (some .softBreach) .rejectBurstSoft
      (some soft) none
  else evaluation .executionRejectBurst currentValue hard none .passed (some soft) none

/-- `_reject_burst_evaluations`. -/
def rejectBurstEvaluations (r : RiskCheckRequest) : List RiskLimitEvaluation :=
  match r.rejectBurstWindows with
  | [] => [evaluation .executionRejectBurst 0 0 none .passed none none]
  | windows => windows.map rejectBurstEvaluation

/-- `_timedelta_ms(later - earlier)`. -/
def timedeltaMs (earlier later : AwareDatetime) : Decimal :=
  ((later.utc - earlier.utc : Int) : ℚ) / 1000

/-- `_engine_latency_evaluation`. -/
def engineLatencyEvaluation (r : RiskCheckRequest) : RiskLimitEvaluation :=
  let currentValue :=
    max (timedeltaMs r.decisionTs r.riskCheckTs) r.engineLatency.riskToGatewayLatencyMs.val
  let hard := r.engineLatency.latencyBudgetMs.val
  let soft := hard * (1 / 2)
  if r.engineLatency.eventTimeValidityProven = false ∨ hard < currentValue then
    evaluation .engineLatency currentValue hard (some .hardBreach) .engineLatencyHard
      (some soft) none
  else if soft < currentValue then
    evaluation .engineLatency currentValue hard (some .softBreach) .engineLatencySoft
      (some soft) none
  else evaluation .engineLatency currentValue hard none .passed (some soft) none

/-- `_model_drift_or_calibration_evaluation`. -/
def modelDriftOrCalibrationEvaluation (r : RiskCheckRequest) : RiskLimitEvaluation :=
  if r.modelRisk.severeAnomalyDetected = true ∨ r.modelRisk.calibratedOutputs = false then
    evaluation .modelDriftOrCalibration 1 0 (some .hardBreach) .modelDriftOrCalibrationHard
      (some 0) none
  else if r.modelRisk.sustainedDriftDetected = true then
    evaluation .modelDriftOrCalibration 1 0 (some .softBreach) .modelDriftOrCalibrationSoft
      (some 0) none
  else evaluation .modelDriftOrCalibration 0 0 none .passed (some 0) none

/-! ## The decision -/

section Decision

variable [Sha256]

/-- The `evaluations` of `evaluate_pre_trade_risk`, in order. -/
def limitEvaluations (r : RiskCheckRequest) (p : RiskPolicy) : List RiskLimitEvaluation :=
  let metadata := metadataView r
  let effect := buildOrderEffect r
  [ requiredStateEvaluation r metadata, productScopeEvaluation metadata,
    killSwitchEvaluation r effect, venueStatusEvaluation metadata, priceCollarEvaluation r p,
    orderNotionalEvaluation p metadata effect, instrumentExposureEvaluation p metadata effect,
    strategyExposureEvaluation p metadata effect, totalSpotExposureEvaluation p metadata effect,
    noShortOrOversellEvaluation r, dailyAccountLossEvaluation r p,
    dailyStrategyLossEvaluation r p, maxDrawdownEvaluation r p,
    liquidityParticipationEvaluation r p effect, liquiditySpreadEvaluation r p,
    marketVolatilityEvaluation r p, dataFreshnessEvaluation r, idempotencyEvaluation r ] ++
  throttleEvaluations r ++ rejectBurstEvaluations r ++
  [ engineLatencyEvaluation r, modelDriftOrCalibrationEvaluation r,
    tcaCostSlippageEvaluation r p ]

/-- `_allowed_incremental_notional`: the notional a soft breach leaves for the order. -/
def allowedIncrementalNotional (r : RiskCheckRequest) (e : RiskLimitEvaluation) :
    Option Decimal :=
  match e.status, e.cappedValue with
  | .softBreach, some cap =>
      if e.limitId = LimitId.orderMaxNotional.value then some cap
      else if e.limitId = LimitId.liquidityParticipation.value then some cap
      else if e.limitId = LimitId.positionInstrumentExposure.value then
        some (cap - r.currentInstrumentExposureNotional.val)
      else if e.limitId = LimitId.positionStrategyExposure.value then
        some (cap - r.currentStrategyExposureNotional.val)
      else if e.limitId = LimitId.positionTotalSpotExposure.value ∧
          e.reasonCode = .positionTotalSpotExposureSoft then
        some (cap - r.currentTotalSpotExposureNotional.val)
      else none
  | _, _ => none

/-- The `allowed_incremental_notionals` loop: absent as soon as one breach has no cap. -/
def allowedIncrementalNotionals (r : RiskCheckRequest) :
    List RiskLimitEvaluation → Option (List Decimal)
  | [] => some []
  | e :: breaches =>
      match allowedIncrementalNotional r e, allowedIncrementalNotionals r breaches with
      | some cap, some caps => some (cap :: caps)
      | _, _ => none

/-- The evaluations with a soft breach. -/
def softBreaches (evaluations : List RiskLimitEvaluation) : List RiskLimitEvaluation :=
  evaluations.filter fun e => decide (e.status = .softBreach)

/-- `_approval_after_soft_caps`. -/
def approvalAfterSoftCaps (r : RiskCheckRequest) (effect : OrderEffect)
    (evaluations : List RiskLimitEvaluation) : RiskDecisionStatus × Option OrderIntent :=
  if r.orderIntent.side ≠ .buy ∨ effect.riskIncreasing = false then
    (.approved, some r.orderIntent)
  else
    match allowedIncrementalNotionals r (softBreaches evaluations) with
    | none => (.noTrade, none)
    | some [] => (.approved, some r.orderIntent)
    | some (cap :: caps) =>
        let allowedNotional := caps.foldl min cap
        if allowedNotional ≤ 0 then (.noTrade, none)
        else if r.orderIntent.quantity.val * r.referencePrice.val ≤ allowedNotional then
          (.approved, some r.orderIntent)
        else if hpos : 0 < allowedNotional / r.referencePrice.val then
          (.approvedAfterCap,
            some (r.orderIntent.withQuantity ⟨allowedNotional / r.referencePrice.val, hpos⟩))
        else (.noTrade, none)

/-- The decision of `evaluate_pre_trade_risk`: a hard breach rejects. -/
def riskDecision (r : RiskCheckRequest) (p : RiskPolicy) :
    RiskDecisionStatus × Option OrderIntent :=
  let evaluations := limitEvaluations r p
  if hasHardBreach evaluations then (.rejected, none)
  else approvalAfterSoftCaps r (buildOrderEffect r) evaluations

/-- `evaluate_pre_trade_risk`. -/
def evaluatePreTradeRisk (r : RiskCheckRequest) (p : RiskPolicy) : Raises RiskCheckEvent :=
  let (finalDecision, approvedOrderIntent) := riskDecision r p
  RiskCheckEvent.make r p (buildOrderEffect r) (limitEvaluations r p) finalDecision
    approvedOrderIntent

end Decision

end TaModel.Risk
