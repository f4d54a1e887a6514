import TaModel.Simulation.DecimalAttempt
import TaModel.Simulation.FillSelection
import TaModel.Simulation.ReplayAborts

/-!
# What an order needs in decimal arithmetic

In the decimal context a quantity of more than 28 digits is not what is left of it after nothing was
filled, `%` raises for a quotient of more than 28 digits, and every operation raises beyond the
exponent range. `Replayable` lists what an order needs in front of some balances, and one order is
replayed exactly when it has it (`exists_replayOneIn_iff`).
-/

set_option autoImplicit false

namespace TaModel.Contracts

namespace ReplayOrderResult

variable {a : Arithmetic}

/-- The validators of a result, check by check. -/
theorem validateFieldsIn_eq_ok_iff (result : ReplayOrderResult) :
    result.validateFieldsIn a = .ok () ↔
      result.FieldsInBounds ∧ (result.costModelId = none ↔ result.costModelHash = none) ∧
      a.inRange (result.feeCost + result.spreadCost) = true ∧
      a.inRange (a.round (result.feeCost + result.spreadCost) + result.slippageCost) = true ∧
      result.totalCost =
        a.round (a.round (result.feeCost + result.spreadCost) + result.slippageCost) ∧
      (0 < result.totalCost → result.costModelId ≠ none ∧ result.costModelHash ≠ none) ∧
      a.inRange (result.quantity - result.filledQuantity) = true ∧
      result.remainingQuantity = a.round (result.quantity - result.filledQuantity) ∧
      (if result.isFill then result.validateFillIn a else result.validateNoFill) = .ok () := by
  simp only [validateFieldsIn, require_eq_ok_iff, bind_eq_ok_iff, Arithmetic.finalize_eq_ok_iff,
    and_assoc, exists_and_left, exists_eq_left, exists_const]

/-- The checks on a fill with its price attribution. -/
theorem validateFillIn_eq_ok_iff {result : ReplayOrderResult} {arrival effective : Decimal}
    (harrival : result.arrivalReferencePrice = some arrival)
    (heffective : result.effectiveFillPrice = some effective) :
    result.validateFillIn a = .ok () ↔
      result.reason = none ∧ (∃ p ∈ result.fillPrice, 0 < p) ∧
      (result.status = .filled → result.filledQuantity = result.quantity) ∧
      (result.status = .partiallyFilled →
        0 < result.filledQuantity ∧ result.filledQuantity < result.quantity) ∧
      (result.fillEventOpenTs ≠ none ∧ result.fillEventCloseTs ≠ none ∧
        result.fillEventSourceTs ≠ none ∧ result.fillRawPayloadId ≠ none) ∧
      some effective = result.fillPrice ∧
      a.inRange (arrival * result.filledQuantity) = true ∧
      result.referenceNotional = a.round (arrival * result.filledQuantity) ∧
      a.inRange (effective * result.filledQuantity) = true ∧
      result.effectiveNotional = a.round (effective * result.filledQuantity) := by
  simp only [validateFillIn, harrival, heffective, require_eq_ok_iff, bind_eq_ok_iff,
    Arithmetic.finalize_eq_ok_iff, exists_and_left, exists_eq_left, exists_const, and_assoc]

end ReplayOrderResult

end TaModel.Contracts

namespace TaModel.Simulation

open TaModel.Contracts TaModel.Library

/-! ## What an order needs -/

/-- The quantity is what is left of it when nothing is filled. -/
def KeepsQuantity (a : Arithmetic) (intent : OrderIntent) : Prop :=
  a.inRange intent.quantity.val = true ∧ a.round intent.quantity.val = intent.quantity.val

/-- An order that a bar fills, with the quantity of the fill. -/
structure Fills (a : Arithmetic) (bars : List OHLCTVBar) (costModel : Option ExecutionCostModel)
    (context : Option VenueContext) (intent : OrderIntent) (entry : OHLCTVBar × Nat)
    (filledQuantity : Decimal) : Prop where
  reaches : Reaches bars costModel context intent entry
  accepted : ConstraintsAccept a context intent entry.1
  liquid : liquidQuantityIn a costModel intent entry.1 = some filledQuantity

/-- The listed instrument of an order. -/
def listedInstrument (c : VenueContext) (intent : OrderIntent) : Option Instrument :=
  c.snapshot.instruments.find? fun i => i.instrumentId == intent.instrumentId

/-- The base and the quote balance of an order. -/
def baseAndQuote (balances : Balances) (intent : OrderIntent) (instrument : Instrument) :
    Decimal × Decimal :=
  (balances.available (intent.venueId, instrument.baseAssetId),
    balances.available (intent.venueId, instrument.quoteAssetId))

/-- The balance pays for a fill. -/
def Affords (a : Arithmetic) (side : OrderSide) (held : Decimal × Decimal)
    (notional fee quantity : Decimal) : Prop :=
  match side with
  | .buy => a.round (notional + fee) ≤ held.2
  | .sell => quantity ≤ held.1

/-- The settlement of a fill stays in range. -/
def SettlementInRange (a : Arithmetic) (side : OrderSide) (held : Decimal × Decimal)
    (notional fee quantity : Decimal) : Prop :=
  match side with
  | .buy => a.inRange (notional + fee) = true ∧
      (a.round (notional + fee) ≤ held.2 →
        a.inRange (held.2 - a.round (notional + fee)) = true ∧
          a.inRange (held.1 + quantity) = true)
  | .sell => quantity ≤ held.1 → a.inRange (held.1 - quantity) = true ∧
      a.inRange (held.2 + notional) = true ∧
        a.inRange (a.round (held.2 + notional) - fee) = true

/-- The reason of a fill that is not paid for. -/
def shortfall : OrderSide → ReplayRejectReason
  | .buy => .insufficientCash
  | .sell => .insufficientInventory

/-- The balances after a fill that is paid for. -/
def postedBalances (a : Arithmetic) (balances : Balances) (intent : OrderIntent)
    (instrument : Instrument) (notional fee quantity : Decimal) : Balances :=
  let held := baseAndQuote balances intent instrument
  match intent.side with
  | .buy => (balances.insert (intent.venueId, instrument.quoteAssetId)
        (a.round (held.2 - a.round (notional + fee)))).insert
      (intent.venueId, instrument.baseAssetId) (a.round (held.1 + quantity))
  | .sell => (balances.insert (intent.venueId, instrument.baseAssetId)
        (a.round (held.1 - quantity))).insert (intent.venueId, instrument.quoteAssetId)
      (a.round (a.round (held.2 + notional) - fee))

/-- The amounts of an order that is filled at a bar. -/
def amountsAt (a : Arithmetic) (costModel : Option ExecutionCostModel) (intent : OrderIntent)
    (bar : OHLCTVBar) (filledQuantity : Decimal) : FillAmounts :=
  roundedAmounts a costModel intent.side bar.openPrice.val intent.quantity.val filledQuantity

/-- A fill that no account has to pay for, or that the account does pay for. -/
def Paid (a : Arithmetic) (context : Option VenueContext) (balances : Balances)
    (intent : OrderIntent) (amounts : FillAmounts) (filledQuantity : Decimal) : Prop :=
  ∀ c ∈ context, ∀ instrument ∈ listedInstrument c intent,
    Affords a intent.side (baseAndQuote balances intent instrument) amounts.effectiveNotional
      amounts.feeCost filledQuantity

/-- What an order needs to be replayed from the balances in front of it. -/
structure Replayable (a : Arithmetic) (bars : List OHLCTVBar)
    (costModel : Option ExecutionCostModel) (context : Option VenueContext) (balances : Balances)
    (intent : OrderIntent) : Prop where
  constraints : ∀ entry, Reaches bars costModel context intent entry →
    ConstraintsEvaluate a context intent entry.1
  volume : ∀ entry, Reaches bars costModel context intent entry →
    ConstraintsAccept a context intent entry.1 → VolumeInRange a costModel entry.1
  amounts : ∀ entry filled, Fills a bars costModel context intent entry filled →
    AmountsInRange a costModel intent.side entry.1.openPrice.val intent.quantity.val filled
  price : ∀ entry filled, Fills a bars costModel context intent entry filled →
    0 < (amountsAt a costModel intent entry.1 filled).effectiveFillPrice
  settlement : ∀ entry filled, Fills a bars costModel context intent entry filled →
    ∀ c ∈ context, ∀ instrument ∈ listedInstrument c intent,
      SettlementInRange a intent.side (baseAndQuote balances intent instrument)
        (amountsAt a costModel intent entry.1 filled).effectiveNotional
        (amountsAt a costModel intent entry.1 filled).feeCost filled
  kept : (¬ ∃ entry filled, Fills a bars costModel context intent entry filled ∧
      Paid a context balances intent (amountsAt a costModel intent entry.1 filled) filled) →
    KeepsQuantity a intent

theorem Reaches.unique {bars : List OHLCTVBar} {costModel : Option ExecutionCostModel}
    {context : Option VenueContext} {intent : OrderIntent} {entry entry' : OHLCTVBar × Nat}
    (h : Reaches bars costModel context intent entry)
    (h' : Reaches bars costModel context intent entry') : entry' = entry :=
  Option.some.inj (h'.bar.symm.trans h.bar)

section Steps

variable [Sha256] {a : Arithmetic} {bars : List OHLCTVBar}
  {costModel : Option ExecutionCostModel} {context : Option VenueContext} {balances : Balances}
  {intent : OrderIntent}

/-! ## Results without a fill -/

/-- An unfilled draft passes its validators when its quantity is left whole. -/
theorem unfilledDraft_validatesIn_iff (reason : ReplayRejectReason)
    (model : Option ExecutionCostModel) (eligibleIndex attemptIndex : Option Nat) :
    (unfilledDraft intent reason model eligibleIndex attemptIndex).validateFieldsIn a = .ok () ↔
      KeepsQuantity a intent := by
  have hbounds : (unfilledDraft intent reason model eligibleIndex attemptIndex).FieldsInBounds := by
    have hquantity := intent.quantity.property
    simp [ReplayOrderResult.FieldsInBounds, unfilledDraft, resultOfIntent, hquantity, hquantity.le]
  have hidentity : (unfilledDraft intent reason model eligibleIndex attemptIndex).costModelId = none ↔
      (unfilledDraft intent reason model eligibleIndex attemptIndex).costModelHash = none := by
    cases model with
    | none => exact Iff.rfl
    | some m => exact iff_of_false (Option.some_ne_none _) (Option.some_ne_none _)
  have hnoFill : (unfilledDraft intent reason model eligibleIndex attemptIndex).isFill = false :=
    isFill_unfilledDraft intent reason model eligibleIndex attemptIndex
  have hvalid :
      (unfilledDraft intent reason model eligibleIndex attemptIndex).validateNoFill = .ok () := by
    simp [ReplayOrderResult.validateNoFill, unfilledDraft, resultOfIntent, check_bind_eq_ok_iff]
  rw [ReplayOrderResult.validateFieldsIn_eq_ok_iff, hnoFill]
  have hzero : (unfilledDraft intent reason model eligibleIndex attemptIndex).feeCost = 0 ∧
      (unfilledDraft intent reason model eligibleIndex attemptIndex).spreadCost = 0 ∧
      (unfilledDraft intent reason model eligibleIndex attemptIndex).slippageCost = 0 ∧
      (unfilledDraft intent reason model eligibleIndex attemptIndex).totalCost = 0 ∧
      (unfilledDraft intent reason model eligibleIndex attemptIndex).filledQuantity = 0 ∧
      (unfilledDraft intent reason model eligibleIndex attemptIndex).quantity =
        intent.quantity.val ∧
      (unfilledDraft intent reason model eligibleIndex attemptIndex).remainingQuantity =
        intent.quantity.val := ⟨rfl, rfl, rfl, rfl, rfl, rfl, rfl⟩
  obtain ⟨hfee, hspread, hslippage, htotal, hfilled, hquantity, hremaining⟩ := hzero
  rw [hfee, hspread, hslippage, htotal, hfilled, hquantity, hremaining, add_zero, a.round_zero,
    add_zero, a.round_zero, sub_zero]
  unfold KeepsQuantity
  constructor
  · rintro ⟨-, -, -, -, -, -, hrange, hkept, -⟩
    exact ⟨hrange, hkept.symm⟩
  · rintro ⟨hrange, hkept⟩
    exact ⟨hbounds, hidentity, a.inRange_zero, a.inRange_zero, rfl, fun h => absurd h (lt_irrefl 0),
      hrange, hkept.symm, hvalid⟩

theorem exists_unfilledResultIn_iff (reason : ReplayRejectReason)
    (model : Option ExecutionCostModel) (eligibleIndex attemptIndex : Option Nat) :
    (∃ result, unfilledResultIn a intent reason model eligibleIndex attemptIndex = .ok result) ↔
      KeepsQuantity a intent := by
  rw [← unfilledDraft_validatesIn_iff reason model eligibleIndex attemptIndex]
  have hresult : unfilledResultIn a intent reason model eligibleIndex attemptIndex =
      (unfilledDraft intent reason model eligibleIndex attemptIndex).constructIn a := rfl
  rw [hresult]
  constructor
  · rintro ⟨result, h⟩
    exact ((ReplayOrderResult.constructIn_eq_ok_iff _ _).mp h).1
  · intro h
    exact ⟨_, (ReplayOrderResult.constructIn_eq_ok_iff _ _).mpr ⟨h, rfl⟩⟩

theorem exists_settle_unfilled_iff (reason : ReplayRejectReason)
    (model : Option ExecutionCostModel) (eligibleIndex attemptIndex : Option Nat) :
    (∃ out, settleAttemptIn a context balances intent
        (.unfilled reason model eligibleIndex attemptIndex) = .ok out) ↔
      KeepsQuantity a intent := by
  rw [← exists_unfilledResultIn_iff (a := a) reason model eligibleIndex attemptIndex]
  constructor
  · rintro ⟨out, h⟩
    obtain ⟨result, hresult, -⟩ := (bind_eq_ok_iff _ _ _).mp h
    exact ⟨result, hresult⟩
  · rintro ⟨result, hresult⟩
    exact ⟨_, (bind_eq_ok_iff _ _ _).mpr ⟨result, hresult, rfl⟩⟩

/-! ## Fills -/

theorem isFill_draftOf (firstIndex : Nat) (entry : OHLCTVBar × Nat) (filledQuantity : Decimal)
    (amounts : FillAmounts) :
    (draftOf costModel intent firstIndex entry filledQuantity amounts).isFill = true := by
  cases costModel with
  | none => rfl
  | some model =>
      unfold ReplayOrderResult.isFill draftOf costedDraft resultOfIntent
      dsimp only
      split <;> rfl

omit [Sha256] in
/-- The amounts of a costed fill at a positive price are not negative. -/
theorem amounts_nonneg (model : ExecutionCostModel) (side : OrderSide)
    {openPrice quantity filled : Decimal} (hopen : 0 ≤ openPrice) (hpos : 0 < filled)
    (hle : filled ≤ quantity)
    (hprice : 0 < a.round (costedOperands a model side openPrice quantity filled).price) :
    let amounts := (costedOperands a model side openPrice quantity filled).amounts a
    0 ≤ amounts.remainingQuantity ∧ 0 ≤ amounts.referenceNotional ∧
      0 ≤ amounts.effectiveNotional ∧ 0 ≤ amounts.feeCost ∧ 0 ≤ amounts.spreadCost ∧
      0 ≤ amounts.slippageCost ∧ 0 ≤ amounts.totalCost := by
  have hten : (0 : ℚ) ≤ 10000 := by norm_num
  have hfee : 0 ≤ a.round (costedOperands a model side openPrice quantity filled).fee :=
    Arithmetic.round_nonneg (mul_nonneg (abs_nonneg _) model.takerFeeRate.property.1)
  have hspread : 0 ≤ a.round (costedOperands a model side openPrice quantity filled).spread :=
    Arithmetic.round_nonneg (div_nonneg (Arithmetic.round_nonneg
      (mul_nonneg (abs_nonneg _) model.spreadBps.property)) hten)
  have hslippage : 0 ≤ a.round (costedOperands a model side openPrice quantity filled).slippage :=
    Arithmetic.round_nonneg (div_nonneg (Arithmetic.round_nonneg
      (mul_nonneg (abs_nonneg _) model.slippageBps.property)) hten)
  refine ⟨Arithmetic.round_nonneg (sub_nonneg.mpr hle), ?_, ?_, hfee, hspread, hslippage, ?_⟩
  · exact Arithmetic.round_nonneg (mul_nonneg hopen hpos.le)
  · exact Arithmetic.round_nonneg (mul_nonneg hprice.le hpos.le)
  · exact Arithmetic.round_nonneg
      (add_nonneg (Arithmetic.round_nonneg (add_nonneg hfee hspread)) hslippage)

/-- The draft of a costed fill passes its validators when its price is positive. -/
theorem costedDraft_validates_iff (model : ExecutionCostModel) {firstIndex : Nat}
    {entry : OHLCTVBar × Nat} {filled : Decimal} (hpos : 0 < filled)
    (hle : filled ≤ intent.quantity.val) {o : FillOperands}
    (ho : o = costedOperands a model intent.side entry.1.openPrice.val intent.quantity.val filled)
    (hrange : ∀ q ∈ o.results, a.inRange q = true) :
    (costedDraft model intent entry.1 firstIndex entry.2 filled
        (o.amounts a)).validateFieldsIn a = .ok () ↔ 0 < a.round o.price := by
  have hfill : (costedDraft model intent entry.1 firstIndex entry.2 filled
      (o.amounts a)).isFill = true :=
    @isFill_draftOf _ (some model) intent firstIndex entry filled (o.amounts a)
  rw [ReplayOrderResult.validateFieldsIn_eq_ok_iff, hfill, if_pos rfl,
    ReplayOrderResult.validateFillIn_eq_ok_iff rfl rfl]
  constructor
  · rintro ⟨-, -, -, -, -, -, -, -, -, ⟨p, ⟨⟩, hp⟩, -⟩
    exact hp
  · intro hprice
    subst ho
    obtain ⟨hremaining, hreference, heffective, hfee, hspread, hslippage, htotal⟩ :=
      amounts_nonneg model intent.side entry.1.openPrice.property hpos hle hprice
    have hin : ∀ q ∈ [(costedOperands a model intent.side entry.1.openPrice.val intent.quantity.val
        filled).feeAndSpread, (costedOperands a model intent.side entry.1.openPrice.val
        intent.quantity.val filled).total], a.inRange q = true := by
      intro q hq
      apply hrange
      simp only [FillOperands.results, List.mem_cons] at hq ⊢
      tauto
    refine ⟨⟨intent.quantity.property, ?_, hpos.le, hremaining, ?_, ?_, hreference, heffective, hfee,
      hspread, hslippage, htotal⟩, iff_of_false (Option.some_ne_none _) (Option.some_ne_none _),
      hin _ List.mem_cons_self, hin _ (List.mem_cons_of_mem _ List.mem_cons_self), rfl,
      fun _ => ⟨Option.some_ne_none _, Option.some_ne_none _⟩, ?_, rfl, rfl, ⟨_, rfl, hprice⟩, ?_, ?_,
      ⟨Option.some_ne_none _, Option.some_ne_none _, Option.some_ne_none _, Option.some_ne_none _⟩,
      rfl, ?_, rfl, ?_, rfl⟩
    · rintro p ⟨⟩
      exact hprice.le
    · rintro p ⟨⟩
      exact entry.1.openPrice.property
    · rintro p ⟨⟩
      exact hprice.le
    · apply hrange
      simp [FillOperands.results, costedOperands, costedDraft, resultOfIntent]
    · intro hstatus
      by_contra hpart
      have hother : (costedDraft model intent entry.1 firstIndex entry.2 filled
          ((costedOperands a model intent.side entry.1.openPrice.val intent.quantity.val
            filled).amounts a)).status = .partiallyFilled := if_neg hpart
      rw [hother] at hstatus
      cases hstatus
    · intro hstatus
      refine ⟨hpos, lt_of_le_of_ne hle fun hwhole => ?_⟩
      have hother : (costedDraft model intent entry.1 firstIndex entry.2 filled
          ((costedOperands a model intent.side entry.1.openPrice.val intent.quantity.val
            filled).amounts a)).status = .filled := if_pos hwhole
      rw [hother] at hstatus
      cases hstatus
    · apply hrange
      simp [FillOperands.results, costedOperands, costedDraft]
    · apply hrange
      simp [FillOperands.results, costedOperands, costedDraft, FillOperands.amounts]

/-- The draft of a fill passes its validators when its price is positive. -/
theorem draftOf_validates_iff {firstIndex : Nat} {entry : OHLCTVBar × Nat} {filled : Decimal}
    (hliquid : liquidQuantityIn a costModel intent entry.1 = some filled)
    (hrange : AmountsInRange a costModel intent.side entry.1.openPrice.val intent.quantity.val
      filled) :
    (draftOf costModel intent firstIndex entry filled
        (amountsAt a costModel intent entry.1 filled)).validateFieldsIn a = .ok () ↔
      0 < (amountsAt a costModel intent entry.1 filled).effectiveFillPrice := by
  obtain ⟨hpos, hle⟩ := liquidQuantityIn_bounds hliquid
  cases costModel with
  | none =>
      cases hliquid
      have hopen := entry.1.openPrice.property
      have hnotional : 0 ≤ a.round (entry.1.openPrice.val * intent.quantity.val) :=
        Arithmetic.round_nonneg (mul_nonneg hopen hpos.le)
      have hin : a.inRange (entry.1.openPrice.val * intent.quantity.val) = true := hrange
      rw [ReplayOrderResult.validateFieldsIn_eq_ok_iff, isFill_draftOf, if_pos rfl,
        ReplayOrderResult.validateFillIn_eq_ok_iff rfl rfl]
      simp [draftOf, plainDraft, amountsAt, roundedAmounts, resultOfIntent,
        ReplayOrderResult.FieldsInBounds, a.round_zero, a.inRange_zero, hin, hpos, hpos.le, hopen,
        hnotional]
  | some model => exact costedDraft_validates_iff model hpos hle rfl hrange

theorem exists_settle_fill_iff {draft : ReplayOrderResult} :
    (∃ out, settleAttemptIn a context balances intent (.fill draft) = .ok out) ↔
      draft.validateFieldsIn a = .ok () ∧ ∀ c ∈ context, ∃ out,
        applyBalanceOrRejectIn a intent draft.withBuiltId c.snapshot balances = .ok out := by
  constructor
  · rintro ⟨out, h⟩
    obtain ⟨result, hresult, h⟩ := (bind_eq_ok_iff _ _ _).mp h
    obtain ⟨hvalid, rfl⟩ := (ReplayOrderResult.constructIn_eq_ok_iff _ _).mp hresult
    refine ⟨hvalid, ?_⟩
    rintro c ⟨⟩
    exact ⟨out, h⟩
  · rintro ⟨hvalid, happly⟩
    have hresult := (ReplayOrderResult.constructIn_eq_ok_iff _ _).mpr ⟨hvalid, rfl⟩
    cases context with
    | none => exact ⟨_, (bind_eq_ok_iff _ _ _).mpr ⟨_, hresult, rfl⟩⟩
    | some c =>
        obtain ⟨out, hout⟩ := happly c rfl
        exact ⟨out, (bind_eq_ok_iff _ _ _).mpr ⟨_, hresult, hout⟩⟩

/-- A fill is settled when its sums stay in range, and rejected when it is not paid for. -/
theorem exists_applyBalanceOrRejectIn_iff {c : VenueContext} {instrument : Instrument}
    {result : ReplayOrderResult} {notional fee quantity : Decimal}
    (hlisted : listedInstrument c intent = some instrument)
    (hnotional : result.effectiveNotional = notional) (hfee : result.feeCost = fee)
    (hquantity : result.filledQuantity = quantity) :
    (∃ out, applyBalanceOrRejectIn a intent result c.snapshot balances = .ok out) ↔
      SettlementInRange a intent.side (baseAndQuote balances intent instrument) notional fee
          quantity ∧
        (¬ Affords a intent.side (baseAndQuote balances intent instrument) notional fee quantity →
          KeepsQuantity a intent) := by
  subst hnotional hfee hquantity
  unfold listedInstrument at hlisted
  simp only [applyBalanceOrRejectIn, hlisted, SettlementInRange, Affords, baseAndQuote]
  cases intent.side with
  | buy =>
      dsimp only
      by_cases hdebit : a.inRange (result.effectiveNotional + result.feeCost) = true
      · rw [Arithmetic.finalize_of_inRange hdebit, ok_bind, and_iff_right hdebit]
        split
        · next hshort =>
            have hnot := not_le.mpr hshort
            rw [and_iff_right fun h => absurd h hnot,
              ← exists_unfilledResultIn_iff (a := a) .insufficientCash none none none]
            constructor
            · rintro ⟨out, h⟩ -
              obtain ⟨rejected, hrejected, -⟩ := (bind_eq_ok_iff _ _ _).mp h
              exact ⟨rejected, hrejected⟩
            · intro h
              obtain ⟨rejected, hrejected⟩ := h hnot
              exact ⟨_, (bind_eq_ok_iff _ _ _).mpr ⟨rejected, hrejected, rfl⟩⟩
        · next hpaid =>
            have hle := not_lt.mp hpaid
            simp only [bind_eq_ok_iff, Arithmetic.finalize_eq_ok_iff]
            constructor
            · rintro ⟨out, quote, ⟨hquote, -⟩, base, ⟨hbase, -⟩, -⟩
              exact ⟨fun _ => ⟨hquote, hbase⟩, fun hnot => absurd hle hnot⟩
            · rintro ⟨hrange, -⟩
              obtain ⟨hquote, hbase⟩ := hrange hle
              exact ⟨_, _, ⟨hquote, rfl⟩, _, ⟨hbase, rfl⟩, rfl⟩
      · refine iff_of_false ?_ fun h => hdebit h.1.1
        rintro ⟨out, h⟩
        obtain ⟨debit, hfinal, -⟩ := (bind_eq_ok_iff _ _ _).mp h
        exact hdebit (Arithmetic.finalize_eq_ok_iff.mp hfinal).1
  | sell =>
      dsimp only
      split
      · next hshort =>
          have hnot := not_le.mpr hshort
          rw [and_iff_right fun h => absurd h hnot,
            ← exists_unfilledResultIn_iff (a := a) .insufficientInventory none none none]
          constructor
          · rintro ⟨out, h⟩ -
            obtain ⟨rejected, hrejected, -⟩ := (bind_eq_ok_iff _ _ _).mp h
            exact ⟨rejected, hrejected⟩
          · intro h
            obtain ⟨rejected, hrejected⟩ := h hnot
            exact ⟨_, (bind_eq_ok_iff _ _ _).mpr ⟨rejected, hrejected, rfl⟩⟩
      · next hheld =>
          have hle := not_lt.mp hheld
          simp only [bind_eq_ok_iff, Arithmetic.finalize_eq_ok_iff]
          constructor
          · rintro ⟨out, base, ⟨hbase, -⟩, proceeds, ⟨hproceeds, rfl⟩, quote, ⟨hquote, -⟩, -⟩
            exact ⟨fun _ => ⟨hbase, hproceeds, hquote⟩, fun hnot => absurd hle hnot⟩
          · rintro ⟨hrange, -⟩
            obtain ⟨hbase, hproceeds, hquote⟩ := hrange hle
            exact ⟨_, _, ⟨hbase, rfl⟩, _, ⟨hproceeds, rfl⟩, _, ⟨hquote, rfl⟩, rfl⟩

omit [Sha256] in
/-- An order that reaches a bar has its instrument listed. -/
theorem listed_of_reaches {c : VenueContext} {entry : OHLCTVBar × Nat}
    (h : Reaches bars costModel (some c) intent entry) :
    ∃ instrument, listedInstrument c intent = some instrument :=
  instrument_of_metadata h.metadata

/-! ## One order -/

/-- The amounts that the settlement of a draft reads. -/
theorem draftOf_amounts {firstIndex : Nat} {entry : OHLCTVBar × Nat} {filled : Decimal}
    (hliquid : liquidQuantityIn a costModel intent entry.1 = some filled) :
    let result := (draftOf costModel intent firstIndex entry filled
      (amountsAt a costModel intent entry.1 filled)).withBuiltId
    result.effectiveNotional = (amountsAt a costModel intent entry.1 filled).effectiveNotional ∧
      result.feeCost = (amountsAt a costModel intent entry.1 filled).feeCost ∧
      result.filledQuantity = filled := by
  cases costModel with
  | none =>
      cases hliquid
      exact ⟨rfl, rfl, rfl⟩
  | some model => exact ⟨rfl, rfl, rfl⟩

omit [Sha256] in
/-- An order that no bar fills needs its quantity kept. -/
theorem replayable_of_no_fill {entry : OHLCTVBar × Nat}
    (h : Reaches bars costModel context intent entry)
    (hevaluate : ConstraintsEvaluate a context intent entry.1)
    (hvolume : ConstraintsAccept a context intent entry.1 → VolumeInRange a costModel entry.1)
    (hno : ∀ entry' filled, ¬ Fills a bars costModel context intent entry' filled)
    (hkept : KeepsQuantity a intent) : Replayable a bars costModel context balances intent where
  constraints entry' hentry := by
    rwa [h.unique hentry]
  volume entry' hentry := by
    rwa [h.unique hentry]
  amounts entry' filled hfills := absurd hfills (hno entry' filled)
  price entry' filled hfills := absurd hfills (hno entry' filled)
  settlement entry' filled hfills := absurd hfills (hno entry' filled)
  kept _ := hkept

omit [Sha256] in
/-- There is one fill of an order. -/
theorem Fills.unique {entry entry' : OHLCTVBar × Nat} {filled filled' : Decimal}
    (h : Fills a bars costModel context intent entry filled)
    (h' : Fills a bars costModel context intent entry' filled') :
    entry' = entry ∧ filled' = filled := by
  obtain rfl := h.reaches.unique h'.reaches
  exact ⟨rfl, Option.some.inj (h'.liquid.symm.trans h.liquid)⟩

/-- A fill is settled exactly when its price is positive, its settlement stays in range, and its
quantity is kept where it is not paid for. -/
theorem exists_settle_draftOf_iff {firstIndex : Nat} {entry : OHLCTVBar × Nat} {filled : Decimal}
    (hfills : Fills a bars costModel context intent entry filled)
    (hrange : AmountsInRange a costModel intent.side entry.1.openPrice.val intent.quantity.val
      filled) :
    (∃ out, settleAttemptIn a context balances intent (.fill (draftOf costModel intent firstIndex
        entry filled (amountsAt a costModel intent entry.1 filled))) = .ok out) ↔
      0 < (amountsAt a costModel intent entry.1 filled).effectiveFillPrice ∧
        (∀ c ∈ context, ∀ instrument ∈ listedInstrument c intent,
          SettlementInRange a intent.side (baseAndQuote balances intent instrument)
            (amountsAt a costModel intent entry.1 filled).effectiveNotional
            (amountsAt a costModel intent entry.1 filled).feeCost filled) ∧
        (¬ Paid a context balances intent (amountsAt a costModel intent entry.1 filled) filled →
          KeepsQuantity a intent) := by
  rw [exists_settle_fill_iff, draftOf_validates_iff hfills.liquid hrange]
  refine and_congr_right fun _ => ?_
  obtain ⟨hnotional, hfee, hfilled⟩ :=
    @draftOf_amounts _ a costModel intent firstIndex entry filled hfills.liquid
  cases context with
  | none =>
      have hpaid : Paid a none balances intent (amountsAt a costModel intent entry.1 filled)
          filled := by
        intro c hc
        cases hc
      refine iff_of_true ?_ ⟨?_, fun hnot => absurd hpaid hnot⟩
      · intro c hc
        cases hc
      · intro c hc
        cases hc
  | some c =>
      obtain ⟨instrument, hlisted⟩ := listed_of_reaches hfills.reaches
      constructor
      · intro hall
        obtain ⟨hsettles, hrejects⟩ :=
          (exists_applyBalanceOrRejectIn_iff hlisted hnotional hfee hfilled).mp (hall c rfl)
        constructor
        · rintro c' ⟨⟩ instrument' hlisted'
          obtain rfl := Option.some.inj (hlisted.symm.trans hlisted')
          exact hsettles
        · intro hnot
          apply hrejects
          intro hafford
          apply hnot
          rintro c' ⟨⟩ instrument' hlisted'
          obtain rfl := Option.some.inj (hlisted.symm.trans hlisted')
          exact hafford
      · rintro ⟨hsettles, hrejects⟩ c' ⟨⟩
        refine (exists_applyBalanceOrRejectIn_iff hlisted hnotional hfee hfilled).mpr
          ⟨hsettles c rfl instrument hlisted, fun hnot => ?_⟩
        exact hrejects fun hpaid => hnot (hpaid c rfl instrument hlisted)

/-- An order that reaches a bar is replayed when its attempt is computed and settled. -/
theorem exists_replayOneIn_of_reaches {entry : OHLCTVBar × Nat}
    (h : Reaches bars costModel context intent entry) :
    (∃ out, replayOneIn a bars costModel context balances intent = .ok out) ↔
      Replayable a bars costModel context balances intent := by
  obtain ⟨first, -, hattempt⟩ := fillAttemptIn_of_reaches (a := a) h
  unfold replayOneIn
  rw [hattempt]
  constructor
  · rintro ⟨out, hout⟩
    obtain ⟨attempt, hon, hsettle⟩ := (bind_eq_ok_iff _ _ _).mp hout
    cases attemptOnIn_eq_ok_iff.mp hon with
    | refused hevaluate hrefuse =>
        refine replayable_of_no_fill h hevaluate (fun haccept => absurd haccept hrefuse) ?_
          ((exists_settle_unfilled_iff _ _ _ _).mp ⟨out, hsettle⟩)
        intro entry' filled hfills
        have haccept := hfills.accepted
        rw [h.unique hfills.reaches] at haccept
        exact hrefuse haccept
    | illiquid hevaluate haccept hvolume hdry =>
        refine replayable_of_no_fill h hevaluate (fun _ => hvolume) ?_
          ((exists_settle_unfilled_iff _ _ _ _).mp ⟨out, hsettle⟩)
        intro entry' filled hfills
        have hliquid := hfills.liquid
        rw [h.unique hfills.reaches, hdry] at hliquid
        cases hliquid
    | filled hevaluate haccept hvolume hliquid hamounts =>
        have hfills : Fills a bars costModel context intent entry _ := ⟨h, haccept, hliquid⟩
        obtain ⟨hprice, hsettles, hkept⟩ :=
          (exists_settle_draftOf_iff hfills hamounts).mp ⟨out, hsettle⟩
        constructor
        · intro entry' hentry
          rwa [h.unique hentry]
        · intro entry' hentry _
          rwa [h.unique hentry]
        · intro entry' filled' hfills'
          obtain ⟨rfl, rfl⟩ := hfills.unique hfills'
          exact hamounts
        · intro entry' filled' hfills'
          obtain ⟨rfl, rfl⟩ := hfills.unique hfills'
          exact hprice
        · intro entry' filled' hfills'
          obtain ⟨rfl, rfl⟩ := hfills.unique hfills'
          exact hsettles
        · intro hnot
          exact hkept fun hpaid => hnot ⟨entry, _, hfills, hpaid⟩
  · intro hneeds
    have hevaluate := hneeds.constraints entry h
    by_cases haccept : ConstraintsAccept a context intent entry.1
    · have hvolume := hneeds.volume entry h haccept
      cases hliquid : liquidQuantityIn a costModel intent entry.1 with
      | none =>
          rw [attemptOnIn_eq_ok_iff.mpr (.illiquid hevaluate haccept hvolume hliquid), ok_bind]
          refine (exists_settle_unfilled_iff _ _ _ _).mpr (hneeds.kept ?_)
          rintro ⟨entry', filled, hfills, -⟩
          have hsome := hfills.liquid
          rw [h.unique hfills.reaches, hliquid] at hsome
          cases hsome
      | some filled =>
          have hfills : Fills a bars costModel context intent entry filled :=
            ⟨h, haccept, hliquid⟩
          have hamounts := hneeds.amounts entry filled hfills
          rw [attemptOnIn_eq_ok_iff.mpr (.filled hevaluate haccept hvolume hliquid hamounts),
            ok_bind]
          refine (exists_settle_draftOf_iff hfills hamounts).mpr
            ⟨hneeds.price entry filled hfills, hneeds.settlement entry filled hfills, ?_⟩
          intro hunpaid
          apply hneeds.kept
          rintro ⟨entry', filled', hfills', hpaid⟩
          obtain ⟨rfl, rfl⟩ := hfills.unique hfills'
          exact hunpaid hpaid
    · rw [attemptOnIn_eq_ok_iff.mpr (.refused hevaluate haccept), ok_bind]
      refine (exists_settle_unfilled_iff _ _ _ _).mpr (hneeds.kept ?_)
      rintro ⟨entry', filled, hfills, -⟩
      have hyes := hfills.accepted
      rw [h.unique hfills.reaches] at hyes
      exact haccept hyes

/-- One order of a replay returns exactly when it has what it needs. -/
theorem exists_replayOneIn_iff :
    (∃ out, replayOneIn a bars costModel context balances intent = .ok out) ↔
      Replayable a bars costModel context balances intent := by
  by_cases hreach : ∃ entry, Reaches bars costModel context intent entry
  · obtain ⟨entry, h⟩ := hreach
    exact exists_replayOneIn_of_reaches h
  · have hnot : ∀ entry, ¬ Reaches bars costModel context intent entry :=
      fun entry h => hreach ⟨entry, h⟩
    obtain ⟨hattempt, reason, model, eligibleIndex, hunfilled⟩ :=
      fillAttemptIn_of_not_reaches (a := a) hnot
    unfold replayOneIn
    rw [hattempt, ok_bind, hunfilled, exists_settle_unfilled_iff]
    constructor
    · intro hkept
      exact ⟨fun entry h => absurd h (hnot entry), fun entry h => absurd h (hnot entry),
        fun entry _ h => absurd h.reaches (hnot entry),
        fun entry _ h => absurd h.reaches (hnot entry),
        fun entry _ h => absurd h.reaches (hnot entry), fun _ => hkept⟩
    · intro hneeds
      apply hneeds.kept
      rintro ⟨entry, filled, hfills, -⟩
      exact hnot entry hfills.reaches

end Steps

end TaModel.Simulation
