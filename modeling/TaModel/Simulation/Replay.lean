import TaModel.Contracts.MarketData
import TaModel.Contracts.Simulation
import TaModel.Library.StateFold
import Mathlib.Data.List.AList

/-!
# Event-time historical replay

The functions of `simulation/replay.py`. `_replay_one` is `fillAttempt`, which decides the fill
from the bars without looking at any balance, followed by `settleAttempt`, which builds the result
and runs it through `applyBalanceOrReject`. Balances are threaded through the intents in
submission order by `runSteps`.
-/

set_option autoImplicit false

namespace TaModel.Simulation

open TaModel.Contracts TaModel.Library

/-! ## Input validation -/

/-- What `_validate_bars_are_safe` remembers of the bars seen so far. -/
structure BarGuard where
  seenCloseKeys : List (List String) := []
  lastByStream : List ((String × String × String) × OHLCTVBar) := []
  timeframesByMarket : List ((String × String) × String) := []
  previousGlobalKey : Option (List String) := none

/-- One iteration of the loop of `_validate_bars_are_safe`. -/
def BarGuard.check (guard : BarGuard) (bar : OHLCTVBar) : Raises BarGuard := do
  require (bar.sourceTs ≤ bar.closeTs) "OHLCTV source_ts must not be after close_ts for replay"
  require (∀ m ∈ guard.timeframesByMarket, m.1 = (bar.instrumentId, bar.venueId) →
      m.2 = bar.timeframe)
    "mixed OHLCTV timeframes for one instrument/venue are ambiguous for replay"
  let closeText := bar.closeTs.isoformat
  let closeKey := [bar.instrumentId, bar.venueId, bar.timeframe, closeText]
  require (closeKey ∉ guard.seenCloseKeys)
    "duplicate OHLCTV bars per instrument/venue/timeframe/close_ts"
  let globalKey := [closeText, bar.instrumentId, bar.venueId, bar.timeframe]
  require (∀ previous ∈ guard.previousGlobalKey, ¬ globalKey < previous)
    "OHLCTV bars must be sorted by close_ts/instrument/venue/timeframe"
  let last := (guard.lastByStream.find? fun entry => entry.1 == bar.streamKey).map Prod.snd
  require (∀ l ∈ last, l.closeTs < bar.closeTs) "non-monotonic OHLCTV close_ts in stream"
  require (∀ l ∈ last, l.closeTs ≤ bar.openTs)
    "overlapping OHLCTV bars are ambiguous for replay"
  .ok
    { seenCloseKeys := closeKey :: guard.seenCloseKeys,
      lastByStream := (bar.streamKey, bar) :: guard.lastByStream,
      timeframesByMarket :=
        ((bar.instrumentId, bar.venueId), bar.timeframe) :: guard.timeframesByMarket,
      previousGlobalKey := some globalKey }

/-- `_validate_bars_are_safe`. -/
def validateBarsAreSafe (bars : List OHLCTVBar) : Raises Unit := do
  let _ ← bars.foldlM BarGuard.check {}
  .ok ()

/-- What `_validate_order_intents` remembers of the intents seen so far. -/
structure IntentGuard where
  seenClientOrderIds : List String := []
  previousOrderKey : Option (AwareDatetime × String) := none

/-- Tuple comparison `(submitted_at, client_order_id) < previous_order_key`. -/
def orderKeyLt (a b : AwareDatetime × String) : Prop :=
  a.1 < b.1 ∨ (a.1.sameInstant b.1 ∧ a.2 < b.2)

instance (a b : AwareDatetime × String) : Decidable (orderKeyLt a b) := by
  unfold orderKeyLt
  infer_instance

/-- One iteration of the loop of `_validate_order_intents`. -/
def IntentGuard.check (guard : IntentGuard) (intent : OrderIntent) : Raises IntentGuard := do
  require (intent.clientOrderId ∉ guard.seenClientOrderIds)
    "duplicate client_order_id in replay order intents"
  let orderKey := (intent.submittedAt, intent.clientOrderId)
  require (∀ previous ∈ guard.previousOrderKey, ¬ orderKeyLt orderKey previous)
    "order intents must be sorted by submitted_at/client_order_id for causal replay"
  .ok
    { seenClientOrderIds := intent.clientOrderId :: guard.seenClientOrderIds,
      previousOrderKey := some orderKey }

/-- `_validate_order_intents`. -/
def validateOrderIntents (intents : List OrderIntent) : Raises Unit := do
  let _ ← intents.foldlM IntentGuard.check {}
  .ok ()

/-! ## Fill attempts -/

/-- The instrument master and the simulated account, which are supplied together. -/
structure VenueContext where
  snapshot : InstrumentMasterSnapshot
  accountState : SimulatedAccountState

/-- `_metadata_reject_reason`. -/
def metadataRejectReason (intent : OrderIntent) (snapshot : InstrumentMasterSnapshot)
    (accountState : SimulatedAccountState) : Option ReplayRejectReason :=
  match snapshot.venues.find? fun v => v.venueId == intent.venueId with
  | none => some .venueNotTradable
  | some venue =>
      if venue.status ≠ .active then some .venueNotTradable
      else if intent.orderType ∉ venue.supportedOrderTypes then some .unsupportedOrderType
      else
        match snapshot.instruments.find? fun i => i.instrumentId == intent.instrumentId with
        | none => some .instrumentNotTradable
        | some instrument =>
            if instrument.venueId ≠ intent.venueId ∨ instrument.instrumentType ≠ .spot ∨
                instrument.status ≠ .trading ∨ instrument.isDerivative ∨
                instrument.marginAllowed ∨ instrument.shortSellingAllowed ∨
                instrument.leverageAllowed then some .instrumentNotTradable
            else if intent.orderType ∉ instrument.supportedOrderTypes then
              some .unsupportedOrderType
            else
              match snapshot.accounts.find? fun a => a.accountId == accountState.accountId with
              | none => some .accountNotTradable
              | some account =>
                  if account.venueId ≠ intent.venueId ∨ account.status ≠ .active ∨
                      (account.accountType ≠ .simulation ∧ account.accountType ≠ .paper) ∨
                      TradingPermission.placeOrders ∉ account.tradingPermissions ∨
                      account.liveCapitalEnabled ∨ account.marginEnabled ∨
                      account.derivativesEnabled ∨ account.shortingEnabled then
                    some .accountNotTradable
                  else none

/-- `_constraint_reject_reason`. -/
def constraintRejectReason (intent : OrderIntent) (snapshot : InstrumentMasterSnapshot)
    (referencePrice : Decimal) (effectiveAt : AwareDatetime) : Option ReplayRejectReason :=
  match snapshot.instrumentConstraints.filter fun c =>
      c.instrumentId == intent.instrumentId && c.window.isEffective effectiveAt with
  | [active] =>
      if (active.evaluateOrder referencePrice intent.quantity.val).passed then none
      else some .constraintViolation
  | _ => some .constraintViolation

/-- A bar the intent may fill on. -/
def isEligible (intent : OrderIntent) (bar : OHLCTVBar) : Bool :=
  bar.instrumentId == intent.instrumentId && bar.venueId == intent.venueId &&
    decide (intent.submittedAt ≤ bar.openTs) && decide (intent.submittedAt < bar.closeTs)

/-- The eligible bars with their index in the stream. -/
def eligibleBars (intent : OrderIntent) (bars : List OHLCTVBar) : List (OHLCTVBar × Nat) :=
  bars.zipIdx.filter fun entry => isEligible intent entry.1

/-- What the bars offer to an intent, before any balance is looked at: no fill, with the
arguments of `_unfilled_result`, or the draft of a filled result. -/
inductive FillAttempt where
  | unfilled (reason : ReplayRejectReason) (costModel : Option ExecutionCostModel)
      (eligibleEventIndex fillAttemptEventIndex : Option Nat)
  | fill (draft : ReplayOrderResult)

section Attempts

variable [Sha256]

/-- The fields a result copies from its intent. -/
def resultOfIntent (intent : OrderIntent) (status : ReplayFillStatus) : ReplayOrderResult :=
  { replayOrderResultId := "REPLAYORDER:PLACEHOLDER", clientOrderId := intent.clientOrderId,
    traceId := intent.traceId, sourceDecisionId := intent.sourceDecisionId,
    instrumentId := intent.instrumentId, venueId := intent.venueId, side := intent.side,
    orderType := intent.orderType, quantity := intent.quantity.val,
    submittedAt := intent.submittedAt, status := status }

/-- The attempt without a cost model: the whole quantity at the open of the bar. -/
def frictionlessAttempt (context : Option VenueContext) (intent : OrderIntent)
    (bar : OHLCTVBar) : FillAttempt :=
  match context.bind fun c =>
      constraintRejectReason intent c.snapshot bar.openPrice.val bar.openTs with
  | some reason => .unfilled reason none none none
  | none =>
      .fill { resultOfIntent intent .filled with
        fillPrice := some bar.openPrice.val, filledQuantity := intent.quantity.val,
        remainingQuantity := 0, fillEventOpenTs := some bar.openTs,
        fillEventCloseTs := some bar.closeTs, fillEventSourceTs := some bar.sourceTs,
        fillRawPayloadId := some bar.rawPayloadId,
        arrivalReferencePrice := some bar.openPrice.val,
        effectiveFillPrice := some bar.openPrice.val,
        referenceNotional := bar.openPrice.val * intent.quantity.val,
        effectiveNotional := bar.openPrice.val * intent.quantity.val }

/-- The adverse price of a fill: the open moved by the spread and slippage of the model. -/
def effectiveFillPrice (model : ExecutionCostModel) (side : OrderSide) (openPrice : Decimal) :
    Decimal :=
  let adjustment := (model.spreadBps.val + model.slippageBps.val) / 10000
  match side with
  | .buy => openPrice * (1 + adjustment)
  | .sell => openPrice * (1 - adjustment)

/-- The draft of a fill of `filledQuantity` on `bar` under a cost model. -/
def costedFill (model : ExecutionCostModel) (intent : OrderIntent) (bar : OHLCTVBar)
    (eligibleEventIndex fillAttemptEventIndex : Nat) (filledQuantity : Decimal) :
    ReplayOrderResult :=
  let price := effectiveFillPrice model intent.side bar.openPrice.val
  let referenceNotional := bar.openPrice.val * filledQuantity
  let effectiveNotional := price * filledQuantity
  let feeCost := |effectiveNotional| * model.takerFeeRate.val
  let spreadCost := |referenceNotional| * model.spreadBps.val / 10000
  let slippageCost := |referenceNotional| * model.slippageBps.val / 10000
  { resultOfIntent intent
      (if filledQuantity = intent.quantity.val then .filled else .partiallyFilled) with
    fillPrice := some price, filledQuantity := filledQuantity,
    remainingQuantity := intent.quantity.val - filledQuantity,
    fillEventOpenTs := some bar.openTs, fillEventCloseTs := some bar.closeTs,
    fillEventSourceTs := some bar.sourceTs, fillRawPayloadId := some bar.rawPayloadId,
    costModelId := some model.costModelId, costModelHash := some model.costModelHash,
    latencyBars := model.latencyBars, eligibleEventIndex := some eligibleEventIndex,
    fillAttemptEventIndex := some fillAttemptEventIndex,
    arrivalReferencePrice := some bar.openPrice.val, effectiveFillPrice := some price,
    referenceNotional := referenceNotional, effectiveNotional := effectiveNotional,
    feeCost := feeCost, spreadCost := spreadCost, slippageCost := slippageCost,
    totalCost := feeCost + spreadCost + slippageCost }

/-- The attempt under a cost model: the bar `latency_bars` after the first eligible one, up to the
participation cap. -/
def costedAttempt (context : Option VenueContext) (model : ExecutionCostModel)
    (intent : OrderIntent) (eligible : List (OHLCTVBar × Nat)) (firstIndex : Nat) : FillAttempt :=
  match eligible[model.latencyBars]? with
  | none => .unfilled .noFutureEligibleEvent (some model) (some firstIndex) none
  | some (bar, index) =>
      match context.bind fun c =>
          constraintRejectReason intent c.snapshot bar.openPrice.val bar.openTs with
      | some reason => .unfilled reason (some model) (some firstIndex) (some index)
      | none =>
          let maxFillQuantity := bar.baseVolume.val * model.maxParticipationRate.val
          let filledQuantity := min intent.quantity.val maxFillQuantity
          if maxFillQuantity ≤ 0 ∨
              (filledQuantity < intent.quantity.val ∧ ¬ model.allowPartialFills) then
            .unfilled .insufficientLiquidity (some model) (some firstIndex) (some index)
          else .fill (costedFill model intent bar firstIndex index filledQuantity)

/-- The balance-independent part of `_replay_one`. -/
def fillAttempt (bars : List OHLCTVBar) (costModel : Option ExecutionCostModel)
    (context : Option VenueContext) (intent : OrderIntent) : FillAttempt :=
  match context.bind fun c => metadataRejectReason intent c.snapshot c.accountState with
  | some reason => .unfilled reason none none none
  | none =>
      if intent.orderType ≠ .market then .unfilled .unsupportedOrderType none none none
      else
        match eligibleBars intent bars with
        | [] => .unfilled .noFutureEligibleEvent none none none
        | first :: rest =>
            match costModel with
            | none => frictionlessAttempt context intent first.1
            | some model => costedAttempt context model intent (first :: rest) first.2

end Attempts

/-! ## Settlement -/

/-- The mutable dictionary of available balances. -/
abbrev Balances := AList fun _ : BalanceKey => Decimal

/-- `balances.get(key, Decimal("0"))`. -/
def Balances.available (balances : Balances) (key : BalanceKey) : Decimal :=
  (balances.lookup key).getD 0

/-- `_balance_dict`; without an account the dictionary is never read or written. -/
def balanceDict : Option SimulatedAccountState → Balances
  | none => ∅
  | some state =>
      (state.balances.map fun b => (⟨b.key, b.available.val⟩ : Sigma fun _ => Decimal)).toAList

section Settlement

variable [Sha256]

/-- `_unfilled_result`. -/
def unfilledResult (intent : OrderIntent) (reason : ReplayRejectReason)
    (costModel : Option ExecutionCostModel) (eligibleEventIndex fillAttemptEventIndex : Option Nat) :
    Raises ReplayOrderResult :=
  let status : ReplayFillStatus :=
    if reason = .noFutureEligibleEvent ∨ reason = .insufficientLiquidity then .unfilled
    else .rejected
  ReplayOrderResult.construct
    { resultOfIntent intent status with
      reason := some reason, remainingQuantity := intent.quantity.val,
      costModelId := costModel.map ExecutionCostModel.costModelId,
      costModelHash := costModel.map ExecutionCostModel.costModelHash,
      latencyBars := (costModel.map ExecutionCostModel.latencyBars).getD 0,
      eligibleEventIndex := eligibleEventIndex, fillAttemptEventIndex := fillAttemptEventIndex }

/-- `_apply_balance_or_reject`: a buy pays notional and fee from the quote balance, a sell delivers
the quantity from the base balance. Without the balance the fill becomes a rejection. -/
def applyBalanceOrReject (intent : OrderIntent) (result : ReplayOrderResult)
    (snapshot : InstrumentMasterSnapshot) (balances : Balances) :
    Raises (ReplayOrderResult × Balances) :=
  match snapshot.instruments.find? fun i => i.instrumentId == intent.instrumentId with
  | none => .error "StopIteration"
  | some instrument =>
      let baseKey : BalanceKey := (intent.venueId, instrument.baseAssetId)
      let quoteKey : BalanceKey := (intent.venueId, instrument.quoteAssetId)
      let baseBalance := balances.available baseKey
      let quoteBalance := balances.available quoteKey
      match intent.side with
      | .buy =>
          let debit := result.effectiveNotional + result.feeCost
          if quoteBalance < debit then do
            let rejected ← unfilledResult intent .insufficientCash none none none
            .ok (rejected, balances)
          else
            .ok (result, (balances.insert quoteKey (quoteBalance - debit)).insert baseKey
              (baseBalance + result.filledQuantity))
      | .sell =>
          if baseBalance < result.filledQuantity then do
            let rejected ← unfilledResult intent .insufficientInventory none none none
            .ok (rejected, balances)
          else
            .ok (result, (balances.insert baseKey (baseBalance - result.filledQuantity)).insert
              quoteKey (quoteBalance + result.effectiveNotional - result.feeCost))

/-- The part of `_replay_one` that follows the attempt. -/
def settleAttempt (context : Option VenueContext) (balances : Balances) (intent : OrderIntent) :
    FillAttempt → Raises (ReplayOrderResult × Balances)
  | .unfilled reason costModel eligibleEventIndex fillAttemptEventIndex => do
      let result ← unfilledResult intent reason costModel eligibleEventIndex fillAttemptEventIndex
      .ok (result, balances)
  | .fill draft => do
      let result ← draft.construct
      match context with
      | none => .ok (result, balances)
      | some c => applyBalanceOrReject intent result c.snapshot balances

/-- `_replay_one`, with the balances it leaves. -/
def replayOne (bars : List OHLCTVBar) (costModel : Option ExecutionCostModel)
    (context : Option VenueContext) (balances : Balances) (intent : OrderIntent) :
    Raises (ReplayOrderResult × Balances) :=
  settleAttempt context balances intent (fillAttempt bars costModel context intent)

/-- The loop of `replay_ohlctv_market_orders` over the order intents. -/
def replayOrders (bars : List OHLCTVBar) (costModel : Option ExecutionCostModel)
    (context : Option VenueContext) (balances : Balances) (intents : List OrderIntent) :
    Raises (List ReplayOrderResult × Balances) :=
  runSteps (replayOne bars costModel context) balances intents

end Settlement

/-! ## The replay report -/

/-- `sorted(balances.items())`: the order of the keys. -/
def balanceKeyLe (a b : BalanceKey × Decimal) : Prop :=
  a.1.1 < b.1.1 ∨ (a.1.1 = b.1.1 ∧ (a.1.2 < b.1.2 ∨ (a.1.2 = b.1.2 ∧ a.2 ≤ b.2)))

instance : DecidableRel balanceKeyLe := fun a b => by
  unfold balanceKeyLe
  infer_instance

/-- The final `(key, available)` items in key order. -/
def Balances.sortedItems (balances : Balances) : List (BalanceKey × Decimal) :=
  (balances.entries.map fun entry => (entry.1, entry.2)).insertionSort balanceKeyLe

/-- The `SimulatedBalance(...)` calls of `_build_account_state`. -/
def buildBalances (accountId : String) :
    List (BalanceKey × Decimal) → Raises (List SimulatedBalance)
  | [] => .ok []
  | (key, available) :: items =>
      if h : 0 ≤ available then do
        let rest ← buildBalances accountId items
        .ok ({ accountId := accountId, venueId := key.1, assetId := key.2,
               available := ⟨available, h⟩ } :: rest)
      else .error "available: Input should be greater than or equal to 0"

/-- The `SimulatedAccountState(...)` call of `_build_account_state`. -/
def finalState (accountId : String) (balances : Balances) : Raises SimulatedAccountState := do
  let finalBalances ← buildBalances accountId balances.sortedItems
  if h : (∀ b ∈ finalBalances, b.accountId = accountId) ∧
      (finalBalances.map SimulatedBalance.key).Nodup then
    .ok { accountId := accountId, balances := finalBalances, accounts_match := h.1,
          keys_unique := h.2 }
  else .error "duplicate simulated balance for venue_id/asset_id"

/-- `_build_account_state`. -/
def buildAccountState (startingAccountState : Option SimulatedAccountState)
    (balances : Balances) : Raises (Option SimulatedAccountState) :=
  match startingAccountState with
  | none => .ok none
  | some state => (finalState state.accountId balances).map some

/-- `_requirement_ids`. -/
def requirementIds (costModel : Option ExecutionCostModel) (context : Option VenueContext) :
    List String :=
  ["FR-012", "NFR-001"] ++ (if costModel.isSome then ["RISK-005"] else []) ++
    (if context.isSome then ["FR-003", "FR-010"] else [])

/-- The snapshot and the account state as a pair; one without the other is an error. -/
def pairContext : Option InstrumentMasterSnapshot → Option SimulatedAccountState →
    Raises (Option VenueContext)
  | none, none => .ok none
  | some snapshot, some state => .ok (some { snapshot := snapshot, accountState := state })
  | _, _ => .error
      "instrument master snapshot and simulated account state must be supplied together"

section Report

variable [Sha256]

/-- `_market_data_hash`. -/
def marketDataHash (bars : List OHLCTVBar) : String := hash (.list (bars.map OHLCTVBar.payload))

/-- `replay_ohlctv_market_orders`. -/
def replayOhlctvMarketOrders (bars : List OHLCTVBar) (intents : List OrderIntent) (runId : String)
    (costModel : Option ExecutionCostModel) (snapshot : Option InstrumentMasterSnapshot)
    (startingAccountState : Option SimulatedAccountState) : Raises ReplayReport := do
  validateBarsAreSafe bars
  validateOrderIntents intents
  let context ← pairContext snapshot startingAccountState
  let (results, balances) ←
    replayOrders bars costModel context (balanceDict startingAccountState) intents
  let finalAccountState ← buildAccountState startingAccountState balances
  let rejectionCounts := buildRejectionCounts results
  let dataHash := marketDataHash bars
  let requirements := requirementIds costModel context
  let reportHash := buildReplayReportHash runId dataHash results requirements rejectionCounts
    finalAccountState
  let report : ReplayReport :=
    { replayReportId := buildReplayReportId reportHash, replayReportHash := reportHash,
      runId := runId, marketDataHash := dataHash,
      resultIds := results.map ReplayOrderResult.replayOrderResultId, results := results,
      requirementIds := requirements, rejectionCounts := rejectionCounts,
      finalAccountState := finalAccountState }
  report.validate
  .ok report

/-- Inversion of a successful replay. -/
theorem replayOhlctvMarketOrders_ok {bars : List OHLCTVBar} {intents : List OrderIntent}
    {runId : String} {costModel : Option ExecutionCostModel}
    {snapshot : Option InstrumentMasterSnapshot} {state : Option SimulatedAccountState}
    {report : ReplayReport}
    (h : replayOhlctvMarketOrders bars intents runId costModel snapshot state = .ok report) :
    ∃ context balances, validateBarsAreSafe bars = .ok () ∧ validateOrderIntents intents = .ok () ∧
      pairContext snapshot state = .ok context ∧
      replayOrders bars costModel context (balanceDict state) intents =
        .ok (report.results, balances) ∧
      report.runId = runId ∧ isCanonicalId runId = true ∧
      buildAccountState state balances = .ok report.finalAccountState := by
  unfold replayOhlctvMarketOrders at h
  obtain ⟨_, hbars, h⟩ := (bind_eq_ok_iff _ _ _).mp h
  obtain ⟨_, hintents, h⟩ := (bind_eq_ok_iff _ _ _).mp h
  obtain ⟨context, hcontext, h⟩ := (bind_eq_ok_iff _ _ _).mp h
  obtain ⟨⟨results, balances⟩, hrun, h⟩ := (bind_eq_ok_iff _ _ _).mp h
  obtain ⟨finalState, hfinal, h⟩ := (bind_eq_ok_iff _ _ _).mp h
  obtain ⟨_, hvalid, h⟩ := (bind_eq_ok_iff _ _ _).mp h
  obtain ⟨_, hrunId, -⟩ := (bind_eq_ok_iff _ _ _).mp hvalid
  cases h
  exact ⟨context, balances, hbars, hintents, hcontext, hrun, rfl,
    (require_eq_ok_iff _ _ _).mp hrunId, hfinal⟩

end Report

end TaModel.Simulation
