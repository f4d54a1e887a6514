import TaModel.Contracts.Arithmetic
import TaModel.Simulation.Replay

/-!
# Replay in decimal arithmetic

The functions of `simulation/replay.py`, with every operation on decimals left to an `Arithmetic`.
In the decimal context an operation rounds to 28 digits, and `%` and results beyond the exponent
range raise. In exact arithmetic the replay is the one of `Simulation/Replay.lean`
(`replayMarketOrdersIn_exact`). The checks that make no arithmetic are shared with that module.
-/

set_option autoImplicit false

namespace TaModel.Contracts

variable (a : Arithmetic)

/-! ## Instrument constraints -/

/-- `_is_decimal_multiple`. -/
def isDecimalMultipleIn (value increment : Decimal) : Raises Bool :=
  if 0 < increment then do
    let rest ← a.remainder value increment
    .ok (decide (rest = 0))
  else .ok false

/-- The reason codes `evaluate_order` gives for the price. -/
def InstrumentConstraint.priceCodesIn (c : InstrumentConstraint) (price : Decimal) :
    Raises (List ConstraintViolation) :=
  if price ≤ 0 then .ok [.nonPositivePrice]
  else do
    let onTick ← isDecimalMultipleIn a price c.tickSize.val
    .ok (if onTick then [] else [.priceNotOnTick])

/-- The reason codes `evaluate_order` gives for the quantity. -/
def InstrumentConstraint.quantityCodesIn (c : InstrumentConstraint) (quantity : Decimal) :
    Raises (List ConstraintViolation) :=
  if quantity ≤ 0 then .ok [.nonPositiveQuantity]
  else do
    let onLot ← isDecimalMultipleIn a quantity c.lotSize.val
    .ok ((if quantity < (c.minOrderQuantity.getD c.lotSize).val then [.quantityBelowMinimum]
        else []) ++
      (if onLot then [] else [.quantityNotOnLot]) ++
      (match c.maxOrderQuantity with
        | some hi => if hi.val < quantity then [.quantityAboveMaximum] else []
        | none => []))

/-- The reason codes `evaluate_order` gives for the notional. -/
def InstrumentConstraint.notionalCodes (c : InstrumentConstraint)
    (price quantity notional : Decimal) : List ConstraintViolation :=
  if 0 < price ∧ 0 < quantity then
    (if notional < c.minNotional.val then [.notionalBelowMinimum] else []) ++
    (match c.maxOrderNotional with
      | some hi => if hi.val < notional then [.notionalAboveMaximum] else []
      | none => [])
  else []

/-- `InstrumentConstraint.evaluate_order`: the notional is multiplied out first. -/
def InstrumentConstraint.evaluateOrderIn (c : InstrumentConstraint) (price quantity : Decimal) :
    Raises ConstraintValidationResult := do
  let notional ← a.finalize (price * quantity)
  let priceCodes ← c.priceCodesIn a price
  let quantityCodes ← c.quantityCodesIn a quantity
  let reasonCodes := priceCodes ++ quantityCodes ++ c.notionalCodes price quantity notional
  .ok
    { instrumentId := c.instrumentId, constraintId := c.constraintId, price := price,
      quantity := quantity, notional := notional, passed := reasonCodes.isEmpty,
      reasonCodes := reasonCodes }

/-! ## Replay results -/

namespace ReplayOrderResult

/-- The checks on a filled result, which multiply the notionals out again. -/
def validateFillIn (result : ReplayOrderResult) : Raises Unit := do
  require (result.reason = none) "filled replay result must not set reason"
  require (∃ p ∈ result.fillPrice, 0 < p) "filled replay result requires positive fill_price"
  require (result.status = .filled → result.filledQuantity = result.quantity)
    "filled replay result must fill full market quantity"
  require (result.status = .partiallyFilled →
      0 < result.filledQuantity ∧ result.filledQuantity < result.quantity)
    "partially filled replay result requires partial quantity"
  require (result.fillEventOpenTs ≠ none ∧ result.fillEventCloseTs ≠ none ∧
      result.fillEventSourceTs ≠ none ∧ result.fillRawPayloadId ≠ none)
    "filled replay result requires fill event lineage"
  match result.arrivalReferencePrice, result.effectiveFillPrice with
  | some arrival, some effective => do
      require (some effective = result.fillPrice)
        "effective_fill_price must match fill_price when present"
      let referenceNotional ← a.finalize (arrival * result.filledQuantity)
      require (result.referenceNotional = referenceNotional)
        "reference_notional must match arrival price times fill quantity"
      let effectiveNotional ← a.finalize (effective * result.filledQuantity)
      require (result.effectiveNotional = effectiveNotional)
        "effective_notional must match effective price times fill quantity"
  | _, _ => .error "filled replay result requires price attribution"

/-- The validators of a result, which add the costs up and take the quantities off again. -/
def validateFieldsIn (result : ReplayOrderResult) : Raises Unit := do
  require result.FieldsInBounds "Input should be greater than or equal to 0"
  require (result.costModelId = none ↔ result.costModelHash = none)
    "cost_model_id and cost_model_hash must be set together"
  let feeAndSpread ← a.finalize (result.feeCost + result.spreadCost)
  let totalCost ← a.finalize (feeAndSpread + result.slippageCost)
  require (result.totalCost = totalCost)
    "total_cost must equal fee_cost plus spread_cost plus slippage_cost"
  require (0 < result.totalCost → result.costModelId ≠ none ∧ result.costModelHash ≠ none)
    "positive execution costs require cost model identity"
  let remainingQuantity ← a.finalize (result.quantity - result.filledQuantity)
  require (result.remainingQuantity = remainingQuantity)
    "remaining_quantity must equal quantity minus filled_quantity"
  if result.isFill then result.validateFillIn a else result.validateNoFill

section Identity

variable [Sha256]

/-- The validators `ReplayOrderResult(...)` runs. -/
def validateIn (result : ReplayOrderResult) : Raises Unit := do
  result.validateFieldsIn a
  require (result.replayOrderResultId = result.buildId) "replay_order_result_id is not deterministic"

/-- `ReplayOrderResult(**draft, replay_order_result_id=build_replay_order_result_id(draft))`. -/
def constructIn (draft : ReplayOrderResult) : Raises ReplayOrderResult := do
  draft.withBuiltId.validateIn a
  .ok draft.withBuiltId

variable {a}

/-- The id check of a freshly built result never fails. -/
theorem constructIn_eq_ok_iff (draft result : ReplayOrderResult) :
    draft.constructIn a = .ok result ↔
      draft.validateFieldsIn a = .ok () ∧ result = draft.withBuiltId := by
  unfold constructIn
  rw [bind_eq_ok_iff]
  have hfields : draft.withBuiltId.validateFieldsIn a = draft.validateFieldsIn a := rfl
  have hid : draft.withBuiltId.replayOrderResultId = draft.withBuiltId.buildId := rfl
  constructor
  · rintro ⟨u, hu, hr⟩
    obtain ⟨v, hv, -⟩ := (bind_eq_ok_iff _ _ _).mp hu
    rw [hfields] at hv
    cases hr
    exact ⟨hv, rfl⟩
  · rintro ⟨hv, rfl⟩
    refine ⟨(), ?_, rfl⟩
    unfold validateIn
    rw [hfields, hv, ok_bind]
    exact require_of hid _

end Identity

end ReplayOrderResult

end TaModel.Contracts

namespace TaModel.Simulation

open TaModel.Contracts TaModel.Library

variable (a : Arithmetic)

/-! ## Fill attempts -/

/-- `_constraint_reject_reason`. -/
def constraintRejectReasonIn (intent : OrderIntent) (snapshot : InstrumentMasterSnapshot)
    (referencePrice : Decimal) (effectiveAt : AwareDatetime) :
    Raises (Option ReplayRejectReason) :=
  match snapshot.instrumentConstraints.filter fun c =>
      c.instrumentId == intent.instrumentId && c.window.isEffective effectiveAt with
  | [active] => do
      let result ← active.evaluateOrderIn a referencePrice intent.quantity.val
      .ok (if result.passed then none else some .constraintViolation)
  | _ => .ok (some .constraintViolation)

/-- The constraint check of an order at a bar, none without a snapshot. -/
def constraintReasonIn (context : Option VenueContext) (intent : OrderIntent) (bar : OHLCTVBar) :
    Raises (Option ReplayRejectReason) :=
  match context with
  | none => .ok none
  | some c => constraintRejectReasonIn a intent c.snapshot bar.openPrice.val bar.openTs

/-- The price, the notionals and the costs of a fill, and what it leaves of the order. -/
structure FillAmounts where
  effectiveFillPrice : Decimal
  referenceNotional : Decimal
  effectiveNotional : Decimal
  feeCost : Decimal := 0
  spreadCost : Decimal := 0
  slippageCost : Decimal := 0
  totalCost : Decimal := 0
  remainingQuantity : Decimal := 0

/-- The amounts of a fill without a cost model. -/
def plainAmounts (openPrice filledQuantity : Decimal) : Raises FillAmounts := do
  let referenceNotional ← a.finalize (openPrice * filledQuantity)
  .ok { effectiveFillPrice := openPrice, referenceNotional := referenceNotional,
        effectiveNotional := referenceNotional }

/-- `Decimal("1") + adjustment` of a purchase, `Decimal("1") - adjustment` of a sale. -/
def adverseFactor (side : OrderSide) (adjustment : Decimal) : ℚ :=
  match side with
  | .buy => 1 + adjustment
  | .sell => 1 - adjustment

/-- The amounts of a fill under a cost model, in the order of the operations. -/
def costedAmounts (model : ExecutionCostModel) (side : OrderSide)
    (openPrice quantity filledQuantity : Decimal) : Raises FillAmounts := do
  let adverseBps ← a.finalize (model.spreadBps.val + model.slippageBps.val)
  let adjustment ← a.finalize (adverseBps / 10000)
  let factor ← a.finalize (adverseFactor side adjustment)
  let effectiveFillPrice ← a.finalize (openPrice * factor)
  let referenceNotional ← a.finalize (openPrice * filledQuantity)
  let effectiveNotional ← a.finalize (effectiveFillPrice * filledQuantity)
  let feeCost ← a.finalize (|effectiveNotional| * model.takerFeeRate.val)
  let spreadProduct ← a.finalize (|referenceNotional| * model.spreadBps.val)
  let spreadCost ← a.finalize (spreadProduct / 10000)
  let slippageProduct ← a.finalize (|referenceNotional| * model.slippageBps.val)
  let slippageCost ← a.finalize (slippageProduct / 10000)
  let feeAndSpread ← a.finalize (feeCost + spreadCost)
  let totalCost ← a.finalize (feeAndSpread + slippageCost)
  let remainingQuantity ← a.finalize (quantity - filledQuantity)
  .ok { effectiveFillPrice := effectiveFillPrice, referenceNotional := referenceNotional,
        effectiveNotional := effectiveNotional, feeCost := feeCost, spreadCost := spreadCost,
        slippageCost := slippageCost, totalCost := totalCost,
        remainingQuantity := remainingQuantity }

section Attempts

variable [Sha256]

/-- The draft of a fill without a cost model. -/
def plainDraft (intent : OrderIntent) (bar : OHLCTVBar) (amounts : FillAmounts) :
    ReplayOrderResult :=
  { resultOfIntent intent .filled with
    fillPrice := some bar.openPrice.val, filledQuantity := intent.quantity.val,
    remainingQuantity := 0, fillEventOpenTs := some bar.openTs,
    fillEventCloseTs := some bar.closeTs, fillEventSourceTs := some bar.sourceTs,
    fillRawPayloadId := some bar.rawPayloadId,
    arrivalReferencePrice := some bar.openPrice.val,
    effectiveFillPrice := some bar.openPrice.val,
    referenceNotional := amounts.referenceNotional,
    effectiveNotional := amounts.effectiveNotional }

/-- The draft of a fill under a cost model. -/
def costedDraft (model : ExecutionCostModel) (intent : OrderIntent) (bar : OHLCTVBar)
    (eligibleEventIndex fillAttemptEventIndex : Nat) (filledQuantity : Decimal)
    (amounts : FillAmounts) : ReplayOrderResult :=
  { resultOfIntent intent
      (if filledQuantity = intent.quantity.val then .filled else .partiallyFilled) with
    fillPrice := some amounts.effectiveFillPrice, filledQuantity := filledQuantity,
    remainingQuantity := amounts.remainingQuantity,
    fillEventOpenTs := some bar.openTs, fillEventCloseTs := some bar.closeTs,
    fillEventSourceTs := some bar.sourceTs, fillRawPayloadId := some bar.rawPayloadId,
    costModelId := some model.costModelId, costModelHash := some model.costModelHash,
    latencyBars := model.latencyBars, eligibleEventIndex := some eligibleEventIndex,
    fillAttemptEventIndex := some fillAttemptEventIndex,
    arrivalReferencePrice := some bar.openPrice.val,
    effectiveFillPrice := some amounts.effectiveFillPrice,
    referenceNotional := amounts.referenceNotional,
    effectiveNotional := amounts.effectiveNotional, feeCost := amounts.feeCost,
    spreadCost := amounts.spreadCost, slippageCost := amounts.slippageCost,
    totalCost := amounts.totalCost }

/-- The attempt without a cost model: the whole quantity at the open of the bar. -/
def frictionlessAttemptIn (context : Option VenueContext) (intent : OrderIntent)
    (bar : OHLCTVBar) : Raises FillAttempt := do
  let reason ← constraintReasonIn a context intent bar
  match reason with
  | some reason => .ok (.unfilled reason none none none)
  | none => do
      let amounts ← plainAmounts a bar.openPrice.val intent.quantity.val
      .ok (.fill (plainDraft intent bar amounts))

/-- The attempt under a cost model: the bar `latency_bars` after the first eligible one, up to the
participation cap. -/
def costedAttemptIn (context : Option VenueContext) (model : ExecutionCostModel)
    (intent : OrderIntent) (eligible : List (OHLCTVBar × Nat)) (firstIndex : Nat) :
    Raises FillAttempt :=
  match eligible[model.latencyBars]? with
  | none => .ok (.unfilled .noFutureEligibleEvent (some model) (some firstIndex) none)
  | some (bar, index) => do
      let reason ← constraintReasonIn a context intent bar
      match reason with
      | some reason => .ok (.unfilled reason (some model) (some firstIndex) (some index))
      | none => do
          let maxFillQuantity ← a.finalize (bar.baseVolume.val * model.maxParticipationRate.val)
          let filledQuantity := min intent.quantity.val maxFillQuantity
          if maxFillQuantity ≤ 0 ∨
              (filledQuantity < intent.quantity.val ∧ ¬ model.allowPartialFills) then
            .ok (.unfilled .insufficientLiquidity (some model) (some firstIndex) (some index))
          else do
            let amounts ← costedAmounts a model intent.side bar.openPrice.val intent.quantity.val
              filledQuantity
            .ok (.fill (costedDraft model intent bar firstIndex index filledQuantity amounts))

/-- The balance-independent part of `_replay_one`. -/
def fillAttemptIn (bars : List OHLCTVBar) (costModel : Option ExecutionCostModel)
    (context : Option VenueContext) (intent : OrderIntent) : Raises FillAttempt :=
  match context.bind fun c => metadataRejectReason intent c.snapshot c.accountState with
  | some reason => .ok (.unfilled reason none none none)
  | none =>
      if intent.orderType ≠ .market then .ok (.unfilled .unsupportedOrderType none none none)
      else
        match eligibleBars intent bars with
        | [] => .ok (.unfilled .noFutureEligibleEvent none none none)
        | first :: rest =>
            match costModel with
            | none => frictionlessAttemptIn a context intent first.1
            | some model => costedAttemptIn a context model intent (first :: rest) first.2

end Attempts

/-! ## Settlement -/

section Settlement

variable [Sha256]

/-- `_unfilled_result`. -/
def unfilledResultIn (intent : OrderIntent) (reason : ReplayRejectReason)
    (costModel : Option ExecutionCostModel) (eligibleEventIndex fillAttemptEventIndex : Option Nat) :
    Raises ReplayOrderResult :=
  let status : ReplayFillStatus :=
    if reason = .noFutureEligibleEvent ∨ reason = .insufficientLiquidity then .unfilled
    else .rejected
  ReplayOrderResult.constructIn a
    { resultOfIntent intent status with
      reason := some reason, remainingQuantity := intent.quantity.val,
      costModelId := costModel.map ExecutionCostModel.costModelId,
      costModelHash := costModel.map ExecutionCostModel.costModelHash,
      latencyBars := (costModel.map ExecutionCostModel.latencyBars).getD 0,
      eligibleEventIndex := eligibleEventIndex, fillAttemptEventIndex := fillAttemptEventIndex }

/-- `_apply_balance_or_reject`. -/
def applyBalanceOrRejectIn (intent : OrderIntent) (result : ReplayOrderResult)
    (snapshot : InstrumentMasterSnapshot) (balances : Balances) :
    Raises (ReplayOrderResult × Balances) :=
  match snapshot.instruments.find? fun i => i.instrumentId == intent.instrumentId with
  | none => .error "StopIteration"
  | some instrument =>
      let baseKey : BalanceKey := (intent.venueId, instrument.baseAssetId)
      let quoteKey : BalanceKey := (intent.venueId, instrument.quoteAssetId)
      let baseBalance := balances.available baseKey
      let quoteBalance := balances.available quoteKey
      match intent.side with
      | .buy => do
          let debit ← a.finalize (result.effectiveNotional + result.feeCost)
          if quoteBalance < debit then do
            let rejected ← unfilledResultIn a intent .insufficientCash none none none
            .ok (rejected, balances)
          else do
            let quoteLeft ← a.finalize (quoteBalance - debit)
            let baseLeft ← a.finalize (baseBalance + result.filledQuantity)
            .ok (result, (balances.insert quoteKey quoteLeft).insert baseKey baseLeft)
      | .sell =>
          if baseBalance < result.filledQuantity then do
            let rejected ← unfilledResultIn a intent .insufficientInventory none none none
            .ok (rejected, balances)
          else do
            let baseLeft ← a.finalize (baseBalance - result.filledQuantity)
            let proceeds ← a.finalize (quoteBalance + result.effectiveNotional)
            let quoteLeft ← a.finalize (proceeds - result.feeCost)
            .ok (result, (balances.insert baseKey baseLeft).insert quoteKey quoteLeft)

/-- The part of `_replay_one` that follows the attempt. -/
def settleAttemptIn (context : Option VenueContext) (balances : Balances) (intent : OrderIntent) :
    FillAttempt → Raises (ReplayOrderResult × Balances)
  | .unfilled reason costModel eligibleEventIndex fillAttemptEventIndex => do
      let result ← unfilledResultIn a intent reason costModel eligibleEventIndex
        fillAttemptEventIndex
      .ok (result, balances)
  | .fill draft => do
      let result ← draft.constructIn a
      match context with
      | none => .ok (result, balances)
      | some c => applyBalanceOrRejectIn a intent result c.snapshot balances

/-- `_replay_one`, with the balances it leaves. -/
def replayOneIn (bars : List OHLCTVBar) (costModel : Option ExecutionCostModel)
    (context : Option VenueContext) (balances : Balances) (intent : OrderIntent) :
    Raises (ReplayOrderResult × Balances) := do
  let attempt ← fillAttemptIn a bars costModel context intent
  settleAttemptIn a context balances intent attempt

/-- The loop of `replay_ohlctv_market_orders` over the order intents. -/
def replayOrdersIn (bars : List OHLCTVBar) (costModel : Option ExecutionCostModel)
    (context : Option VenueContext) (balances : Balances) (intents : List OrderIntent) :
    Raises (List ReplayOrderResult × Balances) :=
  runSteps (replayOneIn a bars costModel context) balances intents

/-- `replay_ohlctv_market_orders`. -/
def replayMarketOrdersIn (bars : List OHLCTVBar) (intents : List OrderIntent) (runId : String)
    (costModel : Option ExecutionCostModel) (snapshot : Option InstrumentMasterSnapshot)
    (startingAccountState : Option SimulatedAccountState) : Raises ReplayReport := do
  validateBarsAreSafe bars
  validateOrderIntents intents
  let context ← pairContext snapshot startingAccountState
  let (results, balances) ←
    replayOrdersIn a bars costModel context (balanceDict startingAccountState) intents
  let finalAccountState ← buildAccountState startingAccountState balances
  let rejectionCounts := buildRejectionCounts results
  let dataHash := marketDataHash bars
  let requirements := requirementIds costModel context
  let reportHash := buildReplayReportHash runId dataHash results requirements rejectionCounts
    finalAccountState
  let report : ReplayReport :=
    { replayReportId := buildReplayReportId reportHash, replayReportHash := reportHash,
      runId := runId, marketDataHash := dataHash,
      resultIds := results.map ReplayOrderResult.replayOrderResultId, results := results,
      requirementIds := requirements, rejectionCounts := rejectionCounts,
      finalAccountState := finalAccountState }
  report.validate
  .ok report

/-! ## Exact arithmetic -/

omit [Sha256] in
theorem isDecimalMultipleIn_exact (value increment : Decimal) :
    isDecimalMultipleIn .exact value increment = .ok (isDecimalMultiple value increment) := by
  unfold isDecimalMultipleIn isDecimalMultiple
  split
  · next hpos =>
      rw [Arithmetic.remainder, if_pos ⟨hpos.ne', rfl⟩, Arithmetic.finalize_exact, ok_bind,
        decide_eq_true hpos, Bool.true_and]
      congr 1
      rw [decide_eq_decide]
      constructor
      · intro hrest
        have hquotient : value / increment = (truncatedQuotient value increment : ℚ) := by
          rw [div_eq_iff hpos.ne', mul_comm]
          exact sub_eq_zero.mp hrest
        rw [hquotient]
        exact Rat.den_intCast _
      · intro hden
        have hwhole : value / increment = ((value / increment).num : ℚ) :=
          (Rat.den_eq_one_iff _).mp hden |>.symm
        have htruncated : truncatedQuotient value increment = (value / increment).num := by
          unfold truncatedQuotient
          rw [hwhole]
          split <;> simp
        rw [htruncated, ← hwhole, mul_div_cancel₀ _ hpos.ne', sub_self]
  · next hnot =>
      rw [decide_eq_false hnot, Bool.false_and]

omit [Sha256] in
theorem evaluateOrderIn_exact (c : InstrumentConstraint) (price quantity : Decimal) :
    c.evaluateOrderIn .exact price quantity = .ok (c.evaluateOrder price quantity) := by
  have hprice : c.priceCodesIn .exact price = .ok (if price ≤ 0 then [.nonPositivePrice]
      else if isDecimalMultiple price c.tickSize.val then [] else [.priceNotOnTick]) := by
    unfold InstrumentConstraint.priceCodesIn
    rw [isDecimalMultipleIn_exact]
    split <;> rfl
  unfold InstrumentConstraint.evaluateOrderIn
  rw [Arithmetic.finalize_exact, ok_bind, hprice, ok_bind]
  unfold InstrumentConstraint.quantityCodesIn
  rw [isDecimalMultipleIn_exact]
  simp only [InstrumentConstraint.evaluateOrder]
  split
  · rfl
  · rfl

omit [Sha256] in
theorem constraintReasonIn_exact (context : Option VenueContext) (intent : OrderIntent)
    (bar : OHLCTVBar) :
    constraintReasonIn .exact context intent bar =
      .ok (context.bind fun c =>
        constraintRejectReason intent c.snapshot bar.openPrice.val bar.openTs) := by
  cases context with
  | none => rfl
  | some c =>
      simp only [constraintReasonIn, constraintRejectReasonIn, constraintRejectReason,
        evaluateOrderIn_exact, Option.bind_some]
      cases c.snapshot.instrumentConstraints.filter fun c =>
          c.instrumentId == intent.instrumentId && c.window.isEffective bar.openTs with
      | nil => rfl
      | cons active rest => cases rest <;> rfl

/-- No attempt raises in exact arithmetic. -/
theorem fillAttemptIn_exact (bars : List OHLCTVBar) (costModel : Option ExecutionCostModel)
    (context : Option VenueContext) (intent : OrderIntent) :
    fillAttemptIn .exact bars costModel context intent =
      .ok (fillAttempt bars costModel context intent) := by
  unfold fillAttemptIn fillAttempt
  cases context.bind fun c => metadataRejectReason intent c.snapshot c.accountState with
  | some reason => rfl
  | none =>
      dsimp only
      by_cases hmarket : intent.orderType ≠ .market
      · rw [if_pos hmarket, if_pos hmarket]
      · rw [if_neg hmarket, if_neg hmarket]
        cases eligibleBars intent bars with
        | nil => rfl
        | cons first rest =>
            cases costModel with
            | none =>
                simp only [frictionlessAttemptIn, frictionlessAttempt, constraintReasonIn_exact,
                  ok_bind]
                cases context.bind fun c => constraintRejectReason intent c.snapshot
                    first.1.openPrice.val first.1.openTs <;> rfl
            | some model =>
                simp only [costedAttemptIn, costedAttempt]
                cases (first :: rest)[model.latencyBars]? with
                | none => rfl
                | some entry =>
                    simp only [constraintReasonIn_exact, ok_bind]
                    cases context.bind fun c => constraintRejectReason intent c.snapshot
                        entry.1.openPrice.val entry.1.openTs with
                    | some reason => rfl
                    | none =>
                        simp only [Arithmetic.finalize_exact, ok_bind]
                        split
                        · rfl
                        · -- the adverse factor is chosen by the side before the price is multiplied
                          simp only [costedAmounts, costedDraft, costedFill, effectiveFillPrice,
                            adverseFactor, Arithmetic.finalize_exact, ok_bind]
                          cases intent.side <;> rfl

theorem settleAttemptIn_exact (context : Option VenueContext) (balances : Balances)
    (intent : OrderIntent) (attempt : FillAttempt) :
    settleAttemptIn .exact context balances intent attempt =
      settleAttempt context balances intent attempt := by
  cases attempt with
  | unfilled reason model eligibleIndex attemptIndex => rfl
  | fill draft =>
      unfold settleAttemptIn settleAttempt
      cases context with
      | none => rfl
      | some c =>
          have happly : ∀ result, applyBalanceOrRejectIn .exact intent result c.snapshot balances =
              applyBalanceOrReject intent result c.snapshot balances := by
            intro result
            unfold applyBalanceOrRejectIn applyBalanceOrReject
            cases c.snapshot.instruments.find? fun i => i.instrumentId == intent.instrumentId with
            | none => rfl
            | some instrument =>
                dsimp only
                cases intent.side <;> rfl
          simp only [happly]
          rfl

/-- In exact arithmetic the replay is that of `replayOhlctvMarketOrders`. -/
theorem replayMarketOrdersIn_exact (bars : List OHLCTVBar) (intents : List OrderIntent)
    (runId : String) (costModel : Option ExecutionCostModel)
    (snapshot : Option InstrumentMasterSnapshot)
    (startingAccountState : Option SimulatedAccountState) :
    replayMarketOrdersIn .exact bars intents runId costModel snapshot startingAccountState =
      replayOhlctvMarketOrders bars intents runId costModel snapshot startingAccountState := by
  have hone : ∀ context, replayOneIn .exact bars costModel context =
      replayOne bars costModel context := by
    intro context
    funext balances intent
    unfold replayOneIn replayOne
    rw [fillAttemptIn_exact, ok_bind]
    exact settleAttemptIn_exact _ _ _ _
  unfold replayMarketOrdersIn replayOhlctvMarketOrders replayOrdersIn replayOrders
  simp only [hone]

end Settlement

end TaModel.Simulation
