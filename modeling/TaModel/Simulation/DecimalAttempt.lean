import TaModel.Simulation.DecimalReplay
import TaModel.Simulation.FillBar

/-!
# Attempts in decimal arithmetic

What the attempt on a bar computes, and what it makes of it. Every amount is a rounded exact result
of earlier amounts, so an attempt succeeds exactly when these exact results stay in the range of the
arithmetic.
-/

set_option autoImplicit false

namespace TaModel.Contracts

variable (a : Arithmetic)

/-! ## Constraints -/

/-- `p % q` returns. -/
def RemainderInRange (p q : ℚ) : Prop :=
  a.quotientInRange (truncatedQuotient p q) = true ∧
    a.inRange (p - q * truncatedQuotient p q) = true

/-- `p % q == 0`. -/
def IsMultiple (p q : ℚ) : Prop := a.round (p - q * truncatedQuotient p q) = 0

/-- `evaluate_order` returns. -/
structure InstrumentConstraint.Evaluates (c : InstrumentConstraint) (price quantity : Decimal) :
    Prop where
  notional : a.inRange (price * quantity) = true
  price : 0 < price → RemainderInRange a price c.tickSize.val
  quantity : 0 < quantity → RemainderInRange a quantity c.lotSize.val

/-- What `evaluate_order` asks of an order. -/
structure InstrumentConstraint.AcceptsIn (c : InstrumentConstraint) (price quantity : Decimal) :
    Prop where
  price_pos : 0 < price
  on_tick : IsMultiple a price c.tickSize.val
  quantity_pos : 0 < quantity
  minimum_le : (c.minOrderQuantity.getD c.lotSize).val ≤ quantity
  on_lot : IsMultiple a quantity c.lotSize.val
  le_maximum : ∀ hi ∈ c.maxOrderQuantity, quantity ≤ hi.val
  min_notional_le : c.minNotional.val ≤ a.round (price * quantity)
  le_max_notional : ∀ hi ∈ c.maxOrderNotional, a.round (price * quantity) ≤ hi.val

variable {a}

section Codes

variable {c : InstrumentConstraint} {price quantity notional : Decimal}
  {codes : List ConstraintViolation}

theorem isDecimalMultipleIn_eq_ok_iff {value increment : Decimal} {b : Bool}
    (hpos : 0 < increment) :
    isDecimalMultipleIn a value increment = .ok b ↔
      RemainderInRange a value increment ∧ (b = true ↔ IsMultiple a value increment) := by
  unfold isDecimalMultipleIn Arithmetic.remainder RemainderInRange IsMultiple
  rw [if_pos hpos]
  by_cases hquotient : a.quotientInRange (truncatedQuotient value increment) = true
  · rw [if_pos ⟨hpos.ne', hquotient⟩, bind_eq_ok_iff]
    constructor
    · rintro ⟨rest, hrest, hb⟩
      obtain ⟨hrange, rfl⟩ := Arithmetic.finalize_eq_ok_iff.mp hrest
      cases hb
      exact ⟨⟨hquotient, hrange⟩, decide_eq_true_iff⟩
    · rintro ⟨⟨-, hrange⟩, hb⟩
      refine ⟨_, Arithmetic.finalize_of_inRange hrange, ?_⟩
      congr 1
      rw [Bool.eq_iff_iff, decide_eq_true_iff, hb]
  · rw [if_neg fun h => hquotient h.2]
    constructor
    · rintro ⟨⟩
    · intro h
      exact absurd h.1.1 hquotient

theorem exists_isDecimalMultipleIn {value increment : Decimal} (hpos : 0 < increment)
    (h : RemainderInRange a value increment) :
    ∃ b, isDecimalMultipleIn a value increment = .ok b := by
  classical
  exact ⟨decide (IsMultiple a value increment),
    (isDecimalMultipleIn_eq_ok_iff hpos).mpr ⟨h, decide_eq_true_iff⟩⟩

namespace InstrumentConstraint

/-- The price codes of a price that is not refused are those of its tick. -/
theorem of_priceCodesIn (h : c.priceCodesIn a price = .ok codes) :
    (0 < price → RemainderInRange a price c.tickSize.val) ∧
      (codes = [] ↔ 0 < price ∧ IsMultiple a price c.tickSize.val) := by
  unfold priceCodesIn at h
  split at h
  · next hle =>
      cases h
      refine ⟨fun hlt => absurd hle hlt.not_ge, iff_of_false (List.cons_ne_nil _ _) ?_⟩
      rintro ⟨hlt, -⟩
      exact absurd hle hlt.not_ge
  · next hgt =>
      obtain ⟨onTick, htick, hcodes⟩ := (bind_eq_ok_iff _ _ _).mp h
      obtain ⟨hrange, hmultiple⟩ := (isDecimalMultipleIn_eq_ok_iff c.tickSize.property).mp htick
      cases hcodes
      refine ⟨fun _ => hrange, ?_⟩
      rw [← hmultiple]
      cases onTick with
      | true => exact iff_of_true rfl ⟨not_le.mp hgt, rfl⟩
      | false => exact iff_of_false (List.cons_ne_nil _ _) fun h => absurd h.2 Bool.false_ne_true

theorem exists_priceCodesIn (h : 0 < price → RemainderInRange a price c.tickSize.val) :
    ∃ codes, c.priceCodesIn a price = .ok codes := by
  unfold priceCodesIn
  split
  · exact ⟨_, rfl⟩
  · next hgt =>
      obtain ⟨onTick, htick⟩ := exists_isDecimalMultipleIn c.tickSize.property (h (not_le.mp hgt))
      rw [htick]
      exact ⟨_, rfl⟩

/-- The quantity codes of a quantity that is not refused are those of its bounds and its lot. -/
theorem of_quantityCodesIn (h : c.quantityCodesIn a quantity = .ok codes) :
    (0 < quantity → RemainderInRange a quantity c.lotSize.val) ∧
      (codes = [] ↔ 0 < quantity ∧ (c.minOrderQuantity.getD c.lotSize).val ≤ quantity ∧
        IsMultiple a quantity c.lotSize.val ∧ ∀ hi ∈ c.maxOrderQuantity, quantity ≤ hi.val) := by
  unfold quantityCodesIn at h
  split at h
  · next hle =>
      cases h
      refine ⟨fun hlt => absurd hle hlt.not_ge, iff_of_false (List.cons_ne_nil _ _) ?_⟩
      rintro ⟨hlt, -⟩
      exact absurd hle hlt.not_ge
  · next hgt =>
      obtain ⟨onLot, hlot, hcodes⟩ := (bind_eq_ok_iff _ _ _).mp h
      obtain ⟨hrange, hmultiple⟩ := (isDecimalMultipleIn_eq_ok_iff c.lotSize.property).mp hlot
      cases hcodes
      refine ⟨fun _ => hrange, ?_⟩
      rw [← hmultiple, List.append_eq_nil_iff, List.append_eq_nil_iff, and_assoc,
        and_iff_right (not_le.mp hgt)]
      refine and_congr ?_ (and_congr ?_ ?_)
      · simp
      · cases onLot <;> simp
      · cases c.maxOrderQuantity <;> simp

theorem exists_quantityCodesIn (h : 0 < quantity → RemainderInRange a quantity c.lotSize.val) :
    ∃ codes, c.quantityCodesIn a quantity = .ok codes := by
  unfold quantityCodesIn
  split
  · exact ⟨_, rfl⟩
  · next hgt =>
      obtain ⟨onLot, hlot⟩ := exists_isDecimalMultipleIn c.lotSize.property (h (not_le.mp hgt))
      rw [hlot]
      exact ⟨_, rfl⟩

theorem notionalCodes_eq_nil_iff (hprice : 0 < price) (hquantity : 0 < quantity) :
    c.notionalCodes price quantity notional = [] ↔
      c.minNotional.val ≤ notional ∧ ∀ hi ∈ c.maxOrderNotional, notional ≤ hi.val := by
  unfold notionalCodes
  rw [if_pos ⟨hprice, hquantity⟩, List.append_eq_nil_iff]
  refine and_congr ?_ ?_
  · simp
  · cases c.maxOrderNotional <;> simp

/-- `evaluate_order` returns exactly when its three operations do. -/
theorem exists_evaluateOrderIn_iff :
    (∃ result, c.evaluateOrderIn a price quantity = .ok result) ↔ c.Evaluates a price quantity := by
  unfold evaluateOrderIn
  constructor
  · rintro ⟨result, h⟩
    obtain ⟨notional, hnotional, h⟩ := (bind_eq_ok_iff _ _ _).mp h
    obtain ⟨priceCodes, hprice, h⟩ := (bind_eq_ok_iff _ _ _).mp h
    obtain ⟨quantityCodes, hquantity, -⟩ := (bind_eq_ok_iff _ _ _).mp h
    exact ⟨(Arithmetic.finalize_eq_ok_iff.mp hnotional).1, (of_priceCodesIn hprice).1,
      (of_quantityCodesIn hquantity).1⟩
  · rintro ⟨hnotional, hprice, hquantity⟩
    obtain ⟨priceCodes, hpriceCodes⟩ := exists_priceCodesIn hprice
    obtain ⟨quantityCodes, hquantityCodes⟩ := exists_quantityCodesIn hquantity
    rw [Arithmetic.finalize_of_inRange hnotional, ok_bind, hpriceCodes, ok_bind, hquantityCodes,
      ok_bind]
    exact ⟨_, rfl⟩

/-- The order passes exactly when the constraint accepts it. -/
theorem passed_evaluateOrderIn_iff {result : ConstraintValidationResult}
    (h : c.evaluateOrderIn a price quantity = .ok result) :
    result.passed = true ↔ c.AcceptsIn a price quantity := by
  unfold evaluateOrderIn at h
  obtain ⟨notional, hnotional, h⟩ := (bind_eq_ok_iff _ _ _).mp h
  obtain ⟨priceCodes, hprice, h⟩ := (bind_eq_ok_iff _ _ _).mp h
  obtain ⟨quantityCodes, hquantity, h⟩ := (bind_eq_ok_iff _ _ _).mp h
  obtain ⟨-, rfl⟩ := Arithmetic.finalize_eq_ok_iff.mp hnotional
  cases h
  show (priceCodes ++ quantityCodes ++ _).isEmpty = true ↔ _
  rw [List.isEmpty_iff, List.append_eq_nil_iff, List.append_eq_nil_iff, (of_priceCodesIn hprice).2,
    (of_quantityCodesIn hquantity).2]
  constructor
  · rintro ⟨⟨⟨hprice_pos, htick⟩, hquantity_pos, hminimum, hlot, hmaximum⟩, hcodes⟩
    obtain ⟨hlow, hhigh⟩ := (notionalCodes_eq_nil_iff hprice_pos hquantity_pos).mp hcodes
    exact ⟨hprice_pos, htick, hquantity_pos, hminimum, hlot, hmaximum, hlow, hhigh⟩
  · intro h
    exact ⟨⟨⟨h.price_pos, h.on_tick⟩, h.quantity_pos, h.minimum_le, h.on_lot, h.le_maximum⟩,
      (notionalCodes_eq_nil_iff h.price_pos h.quantity_pos).mpr
        ⟨h.min_notional_le, h.le_max_notional⟩⟩

end InstrumentConstraint

end Codes

end TaModel.Contracts

namespace TaModel.Simulation

open TaModel.Contracts TaModel.Library

/-! ## The constraint check at a bar -/

/-- The constraints in force for an order at a bar. -/
def constraintsInForce (snapshot : InstrumentMasterSnapshot) (intent : OrderIntent)
    (bar : OHLCTVBar) : List InstrumentConstraint :=
  snapshot.instrumentConstraints.filter fun c =>
    c.instrumentId == intent.instrumentId && c.window.isEffective bar.openTs

/-- The constraint check of an order at a bar returns. -/
def ConstraintsEvaluate (a : Arithmetic) (context : Option VenueContext) (intent : OrderIntent)
    (bar : OHLCTVBar) : Prop :=
  ∀ c ∈ context, ∀ active, constraintsInForce c.snapshot intent bar = [active] →
    active.Evaluates a bar.openPrice.val intent.quantity.val

/-- The order passes the constraint check at a bar. -/
def ConstraintsAccept (a : Arithmetic) (context : Option VenueContext) (intent : OrderIntent)
    (bar : OHLCTVBar) : Prop :=
  ∀ c ∈ context, ∃ active, constraintsInForce c.snapshot intent bar = [active] ∧
    active.AcceptsIn a bar.openPrice.val intent.quantity.val

section Check

variable {a : Arithmetic} {context : Option VenueContext} {intent : OrderIntent} {bar : OHLCTVBar}

/-- The constraint check of an order at a bar, under a snapshot with one constraint in force. -/
theorem constraintReasonIn_of_active {c : VenueContext} {active : InstrumentConstraint}
    (h : constraintsInForce c.snapshot intent bar = [active]) :
    constraintReasonIn a (some c) intent bar =
      (active.evaluateOrderIn a bar.openPrice.val intent.quantity.val).map fun result =>
        if result.passed then none else some .constraintViolation := by
  unfold constraintsInForce at h
  simp only [constraintReasonIn, constraintRejectReasonIn, h]
  cases active.evaluateOrderIn a bar.openPrice.val intent.quantity.val <;> rfl

/-- Without exactly one constraint in force the order is refused. -/
theorem constraintReasonIn_of_not_active {c : VenueContext}
    (h : ∀ active, constraintsInForce c.snapshot intent bar ≠ [active]) :
    constraintReasonIn a (some c) intent bar = .ok (some .constraintViolation) := by
  simp only [constraintReasonIn, constraintRejectReasonIn]
  split
  · next active hactive => exact absurd hactive (h active)
  · rfl

theorem exists_constraintReasonIn_iff :
    (∃ reason, constraintReasonIn a context intent bar = .ok reason) ↔
      ConstraintsEvaluate a context intent bar := by
  unfold ConstraintsEvaluate
  cases context with
  | none => exact iff_of_true ⟨_, rfl⟩ (fun c hc => by cases hc)
  | some c =>
      by_cases hactive : ∃ active, constraintsInForce c.snapshot intent bar = [active]
      · obtain ⟨active, hactive⟩ := hactive
        rw [constraintReasonIn_of_active hactive]
        constructor
        · rintro ⟨reason, hreason⟩ c' ⟨⟩ active' hactive'
          obtain rfl : active = active' := by
            rw [hactive] at hactive'
            exact List.head_eq_of_cons_eq hactive'
          obtain ⟨result, hresult, -⟩ := (map_eq_ok_iff _ _ _).mp hreason
          exact InstrumentConstraint.exists_evaluateOrderIn_iff.mp ⟨result, hresult⟩
        · intro h
          obtain ⟨result, hresult⟩ :=
            InstrumentConstraint.exists_evaluateOrderIn_iff.mpr (h c rfl active hactive)
          exact ⟨_, (map_eq_ok_iff _ _ _).mpr ⟨result, hresult, rfl⟩⟩
      · have hnone : ∀ active, constraintsInForce c.snapshot intent bar ≠ [active] :=
          fun active h => hactive ⟨active, h⟩
        refine iff_of_true ⟨_, constraintReasonIn_of_not_active hnone⟩ ?_
        rintro c' ⟨⟩ active hin
        exact absurd hin (hnone active)

/-- The order is refused at the bar as a violation, or accepted. -/
theorem of_constraintReasonIn {reason : Option ReplayRejectReason}
    (h : constraintReasonIn a context intent bar = .ok reason) :
    (reason = none ∧ ConstraintsAccept a context intent bar) ∨
      (reason = some .constraintViolation ∧ ¬ ConstraintsAccept a context intent bar) := by
  unfold ConstraintsAccept
  cases context with
  | none =>
      cases h
      exact .inl ⟨rfl, fun c hc => by cases hc⟩
  | some c =>
      by_cases hactive : ∃ active, constraintsInForce c.snapshot intent bar = [active]
      · obtain ⟨active, hactive⟩ := hactive
        rw [constraintReasonIn_of_active hactive] at h
        obtain ⟨result, hresult, rfl⟩ := (map_eq_ok_iff _ _ _).mp h
        have hpassed := InstrumentConstraint.passed_evaluateOrderIn_iff hresult
        cases hp : result.passed with
        | true =>
            refine .inl ⟨rfl, ?_⟩
            rintro c' ⟨⟩
            exact ⟨active, hactive, hpassed.mp hp⟩
        | false =>
            refine .inr ⟨rfl, fun hall => ?_⟩
            obtain ⟨active', hactive', haccepts⟩ := hall c rfl
            rw [hactive] at hactive'
            obtain rfl := List.head_eq_of_cons_eq hactive'
            rw [hpassed.mpr haccepts] at hp
            cases hp
      · have hnone : ∀ active, constraintsInForce c.snapshot intent bar ≠ [active] :=
          fun active h => hactive ⟨active, h⟩
        rw [constraintReasonIn_of_not_active hnone] at h
        cases h
        refine .inr ⟨rfl, fun hall => ?_⟩
        obtain ⟨active, hin, -⟩ := hall c rfl
        exact hnone active hin

end Check

/-! ## The quantity a bar lets through -/

/-- The order up to the participation cap, if the cap admits a fill at all. -/
def cappedQuantity (model : ExecutionCostModel) (quantity maxFillQuantity : Decimal) :
    Option Decimal :=
  if maxFillQuantity ≤ 0 ∨ (min quantity maxFillQuantity < quantity ∧ ¬ model.allowPartialFills) then
    none
  else some (min quantity maxFillQuantity)

/-- The participation cap of a bar is in range. -/
def VolumeInRange (a : Arithmetic) (costModel : Option ExecutionCostModel) (bar : OHLCTVBar) : Prop :=
  ∀ model ∈ costModel, a.inRange (bar.baseVolume.val * model.maxParticipationRate.val) = true

/-- The quantity a bar lets through: up to the rounded participation cap of the cost model, and the
whole order without a cost model. -/
def liquidQuantityIn (a : Arithmetic) (costModel : Option ExecutionCostModel) (intent : OrderIntent)
    (bar : OHLCTVBar) : Option Decimal :=
  match costModel with
  | none => some intent.quantity.val
  | some model =>
      cappedQuantity model intent.quantity.val
        (a.round (bar.baseVolume.val * model.maxParticipationRate.val))

/-- A quantity the bar lets through is positive and within the order. -/
theorem liquidQuantityIn_bounds {a : Arithmetic} {costModel : Option ExecutionCostModel}
    {intent : OrderIntent} {bar : OHLCTVBar} {quantity : Decimal}
    (h : liquidQuantityIn a costModel intent bar = some quantity) :
    0 < quantity ∧ quantity ≤ intent.quantity.val := by
  cases costModel with
  | none =>
      cases h
      exact ⟨intent.quantity.property, le_refl _⟩
  | some model =>
      simp only [liquidQuantityIn, cappedQuantity] at h
      split at h
      · cases h
      · next hliquid =>
          cases h
          have hcap := not_le.mp fun hle => hliquid (Or.inl hle)
          exact ⟨lt_min intent.quantity.property hcap, min_le_left _ _⟩

/-! ## The amounts of a fill -/

/-- The exact results of the operations of a costed fill, in their order. -/
structure FillOperands where
  adverseBps : ℚ
  adjustment : ℚ
  factor : ℚ
  price : ℚ
  reference : ℚ
  effective : ℚ
  fee : ℚ
  spreadProduct : ℚ
  spread : ℚ
  slippageProduct : ℚ
  slippage : ℚ
  feeAndSpread : ℚ
  total : ℚ
  remaining : ℚ

/-- The exact results, one after the other. -/
def FillOperands.results (o : FillOperands) : List ℚ :=
  [o.adverseBps, o.adjustment, o.factor, o.price, o.reference, o.effective, o.fee, o.spreadProduct,
    o.spread, o.slippageProduct, o.slippage, o.feeAndSpread, o.total, o.remaining]

/-- The amounts that the operations return. -/
def FillOperands.amounts (a : Arithmetic) (o : FillOperands) : FillAmounts :=
  { effectiveFillPrice := a.round o.price, referenceNotional := a.round o.reference,
    effectiveNotional := a.round o.effective, feeCost := a.round o.fee,
    spreadCost := a.round o.spread, slippageCost := a.round o.slippage,
    totalCost := a.round o.total, remainingQuantity := a.round o.remaining }

/-- Each operation works on the rounded results of the earlier ones. -/
def costedOperands (a : Arithmetic) (model : ExecutionCostModel) (side : OrderSide)
    (openPrice quantity filledQuantity : Decimal) : FillOperands :=
  let adverseBps : ℚ := model.spreadBps.val + model.slippageBps.val
  let adjustment := a.round adverseBps / 10000
  let factor := adverseFactor side (a.round adjustment)
  let price := openPrice * a.round factor
  let reference := openPrice * filledQuantity
  let effective := a.round price * filledQuantity
  let fee := |a.round effective| * model.takerFeeRate.val
  let spreadProduct := |a.round reference| * model.spreadBps.val
  let spread := a.round spreadProduct / 10000
  let slippageProduct := |a.round reference| * model.slippageBps.val
  let slippage := a.round slippageProduct / 10000
  let feeAndSpread := a.round fee + a.round spread
  { adverseBps := adverseBps, adjustment := adjustment, factor := factor, price := price,
    reference := reference, effective := effective, fee := fee, spreadProduct := spreadProduct,
    spread := spread, slippageProduct := slippageProduct, slippage := slippage,
    feeAndSpread := feeAndSpread, total := a.round feeAndSpread + a.round slippage,
    remaining := quantity - filledQuantity }

/-- The operations of a fill stay in range. -/
def AmountsInRange (a : Arithmetic) (costModel : Option ExecutionCostModel) (side : OrderSide)
    (openPrice quantity filledQuantity : Decimal) : Prop :=
  match costModel with
  | none => a.inRange (openPrice * filledQuantity) = true
  | some model =>
      ∀ q ∈ (costedOperands a model side openPrice quantity filledQuantity).results,
        a.inRange q = true

/-- The amounts of a fill. -/
def roundedAmounts (a : Arithmetic) (costModel : Option ExecutionCostModel) (side : OrderSide)
    (openPrice quantity filledQuantity : Decimal) : FillAmounts :=
  match costModel with
  | none =>
      { effectiveFillPrice := openPrice, referenceNotional := a.round (openPrice * filledQuantity),
        effectiveNotional := a.round (openPrice * filledQuantity) }
  | some model => (costedOperands a model side openPrice quantity filledQuantity).amounts a

/-- The amounts of a fill, with or without a cost model. -/
def amountsIn (a : Arithmetic) (costModel : Option ExecutionCostModel) (side : OrderSide)
    (openPrice quantity filledQuantity : Decimal) : Raises FillAmounts :=
  match costModel with
  | none => plainAmounts a openPrice filledQuantity
  | some model => costedAmounts a model side openPrice quantity filledQuantity

theorem amountsIn_eq_ok_iff {a : Arithmetic} {costModel : Option ExecutionCostModel}
    {side : OrderSide} {openPrice quantity filledQuantity : Decimal} {amounts : FillAmounts} :
    amountsIn a costModel side openPrice quantity filledQuantity = .ok amounts ↔
      AmountsInRange a costModel side openPrice quantity filledQuantity ∧
        amounts = roundedAmounts a costModel side openPrice quantity filledQuantity := by
  cases costModel with
  | none =>
      simp only [amountsIn, plainAmounts, AmountsInRange, roundedAmounts, bind_eq_ok_iff,
        Arithmetic.finalize_eq_ok_iff]
      constructor
      · rintro ⟨notional, ⟨hrange, rfl⟩, hamounts⟩
        exact ⟨hrange, (Except.ok.inj hamounts).symm⟩
      · rintro ⟨hrange, rfl⟩
        exact ⟨_, ⟨hrange, rfl⟩, rfl⟩
  | some model =>
      rw [@eq_comm _ amounts]
      simp only [amountsIn, costedAmounts, AmountsInRange, roundedAmounts, FillOperands.results,
        FillOperands.amounts, costedOperands, bind_eq_ok_iff, Arithmetic.finalize_eq_ok_iff,
        and_assoc, exists_and_left, exists_eq_left, List.forall_mem_cons, List.not_mem_nil,
        false_imp_iff, implies_true, true_and, Except.ok.injEq]

section Attempts

variable [Sha256]

/-- The draft of a fill, with or without a cost model. -/
def draftOf (costModel : Option ExecutionCostModel) (intent : OrderIntent) (firstIndex : Nat)
    (entry : OHLCTVBar × Nat) (filledQuantity : Decimal) (amounts : FillAmounts) :
    ReplayOrderResult :=
  match costModel with
  | none => plainDraft intent entry.1 amounts
  | some model => costedDraft model intent entry.1 firstIndex entry.2 filledQuantity amounts

/-- An order that reaches a bar: the metadata admit it, it is a market order, and the bar is left
after the latency. -/
structure Reaches (bars : List OHLCTVBar) (costModel : Option ExecutionCostModel)
    (context : Option VenueContext) (intent : OrderIntent) (entry : OHLCTVBar × Nat) : Prop where
  metadata : metadataReason context intent = none
  market : intent.orderType = .market
  bar : fillBar bars costModel intent = some entry

/-- What the attempt on a bar makes of it. -/
inductive AttemptAt (a : Arithmetic) (context : Option VenueContext)
    (costModel : Option ExecutionCostModel) (intent : OrderIntent) (firstIndex : Nat)
    (entry : OHLCTVBar × Nat) : FillAttempt → Prop
  | refused (hevaluate : ConstraintsEvaluate a context intent entry.1)
      (hrefuse : ¬ ConstraintsAccept a context intent entry.1) :
      AttemptAt a context costModel intent firstIndex entry
        (.unfilled .constraintViolation costModel (costModel.map fun _ => firstIndex)
          (costModel.map fun _ => entry.2))
  | illiquid (hevaluate : ConstraintsEvaluate a context intent entry.1)
      (haccept : ConstraintsAccept a context intent entry.1)
      (hvolume : VolumeInRange a costModel entry.1)
      (hdry : liquidQuantityIn a costModel intent entry.1 = none) :
      AttemptAt a context costModel intent firstIndex entry
        (.unfilled .insufficientLiquidity costModel (costModel.map fun _ => firstIndex)
          (costModel.map fun _ => entry.2))
  | filled {filledQuantity : Decimal} (hevaluate : ConstraintsEvaluate a context intent entry.1)
      (haccept : ConstraintsAccept a context intent entry.1)
      (hvolume : VolumeInRange a costModel entry.1)
      (hliquid : liquidQuantityIn a costModel intent entry.1 = some filledQuantity)
      (hamounts : AmountsInRange a costModel intent.side entry.1.openPrice.val intent.quantity.val
        filledQuantity) :
      AttemptAt a context costModel intent firstIndex entry
        (.fill (draftOf costModel intent firstIndex entry filledQuantity
          (roundedAmounts a costModel intent.side entry.1.openPrice.val intent.quantity.val
            filledQuantity)))

variable {a : Arithmetic} {bars : List OHLCTVBar} {costModel : Option ExecutionCostModel}
  {context : Option VenueContext} {intent : OrderIntent}

/-- The part of an attempt that follows the constraint check. -/
def fillOnIn (a : Arithmetic) (costModel : Option ExecutionCostModel) (intent : OrderIntent)
    (firstIndex : Nat) (entry : OHLCTVBar × Nat) : Raises FillAttempt :=
  match costModel with
  | none => do
      let amounts ← plainAmounts a entry.1.openPrice.val intent.quantity.val
      .ok (.fill (plainDraft intent entry.1 amounts))
  | some model => do
      let maxFillQuantity ← a.finalize (entry.1.baseVolume.val * model.maxParticipationRate.val)
      let filledQuantity := min intent.quantity.val maxFillQuantity
      if maxFillQuantity ≤ 0 ∨
          (filledQuantity < intent.quantity.val ∧ ¬ model.allowPartialFills) then
        .ok (.unfilled .insufficientLiquidity (some model) (some firstIndex) (some entry.2))
      else do
        let amounts ← costedAmounts a model intent.side entry.1.openPrice.val intent.quantity.val
          filledQuantity
        .ok (.fill (costedDraft model intent entry.1 firstIndex entry.2 filledQuantity amounts))

/-- The attempt on a bar: the constraints at its open, then its liquidity, then the fill. -/
def attemptOnIn (a : Arithmetic) (context : Option VenueContext)
    (costModel : Option ExecutionCostModel) (intent : OrderIntent) (firstIndex : Nat)
    (entry : OHLCTVBar × Nat) : Raises FillAttempt := do
  let reason ← constraintReasonIn a context intent entry.1
  match reason with
  | some reason =>
      .ok (.unfilled reason costModel (costModel.map fun _ => firstIndex)
        (costModel.map fun _ => entry.2))
  | none => fillOnIn a costModel intent firstIndex entry

variable {a : Arithmetic} {bars : List OHLCTVBar} {costModel : Option ExecutionCostModel}
  {context : Option VenueContext} {intent : OrderIntent}

/-- An order that reaches a bar is attempted on it. -/
theorem fillAttemptIn_of_reaches {entry : OHLCTVBar × Nat}
    (h : Reaches bars costModel context intent entry) :
    ∃ first ∈ (eligibleBars intent bars).head?,
      fillAttemptIn a bars costModel context intent =
        attemptOnIn a context costModel intent first.2 entry := by
  obtain ⟨hmetadata, hmarket, hbar⟩ := h
  have hmeta : (context.bind fun c => metadataRejectReason intent c.snapshot c.accountState) =
      none := hmetadata
  simp only [fillAttemptIn, hmeta]
  rw [if_neg (not_not_intro hmarket)]
  unfold fillBar at hbar
  cases heligible : eligibleBars intent bars with
  | nil =>
      rw [heligible] at hbar
      cases hbar
  | cons first rest =>
      rw [heligible] at hbar
      refine ⟨first, rfl, ?_⟩
      cases costModel with
      | none =>
          obtain rfl : first = entry := Option.some.inj hbar
          rfl
      | some model =>
          have hget : (first :: rest)[model.latencyBars]? = some entry := hbar
          simp only [costedAttemptIn, hget]
          rfl

/-- An order that reaches no bar is not filled, and nothing is computed for it. -/
theorem fillAttemptIn_of_not_reaches (h : ∀ entry, ¬ Reaches bars costModel context intent entry) :
    fillAttemptIn a bars costModel context intent =
        .ok (fillAttempt bars costModel context intent) ∧
      ∃ reason model eligibleIndex, fillAttempt bars costModel context intent =
        .unfilled reason model eligibleIndex none := by
  simp only [fillAttemptIn, fillAttempt]
  cases hmetadata : context.bind fun c => metadataRejectReason intent c.snapshot c.accountState with
  | some reason => exact ⟨rfl, _, _, _, rfl⟩
  | none =>
      dsimp only
      by_cases hmarket : intent.orderType = .market
      · rw [if_neg (not_not_intro hmarket), if_neg (not_not_intro hmarket)]
        have hbar : fillBar bars costModel intent = none := by
          cases hbar : fillBar bars costModel intent with
          | none => rfl
          | some entry => exact absurd ⟨hmetadata, hmarket, hbar⟩ (h entry)
        unfold fillBar at hbar
        cases heligible : eligibleBars intent bars with
        | nil => exact ⟨rfl, _, _, _, rfl⟩
        | cons first rest =>
            rw [heligible] at hbar
            cases costModel with
            | none => cases hbar
            | some model =>
                have hget : (first :: rest)[model.latencyBars]? = none := hbar
                simp only [costedAttemptIn, costedAttempt, hget]
                exact ⟨trivial, _, _, _, rfl⟩
      · rw [if_pos hmarket, if_pos hmarket]
        exact ⟨rfl, _, _, _, rfl⟩

section OnBar

variable {firstIndex : Nat} {entry : OHLCTVBar × Nat} {attempt : FillAttempt}

/-- After the constraint check the bar turns out dry, or the fill is computed. -/
theorem fillOnIn_eq_ok_iff :
    fillOnIn a costModel intent firstIndex entry = .ok attempt ↔
      VolumeInRange a costModel entry.1 ∧
        ((liquidQuantityIn a costModel intent entry.1 = none ∧
            attempt = .unfilled .insufficientLiquidity costModel (costModel.map fun _ => firstIndex)
              (costModel.map fun _ => entry.2)) ∨
          ∃ filled, liquidQuantityIn a costModel intent entry.1 = some filled ∧
            AmountsInRange a costModel intent.side entry.1.openPrice.val intent.quantity.val
              filled ∧
            attempt = .fill (draftOf costModel intent firstIndex entry filled
              (roundedAmounts a costModel intent.side entry.1.openPrice.val intent.quantity.val
                filled))) := by
  cases costModel with
  | none =>
      have hvolume : VolumeInRange a none entry.1 := fun model hmodel => by cases hmodel
      rw [and_iff_right hvolume]
      constructor
      · intro h
        obtain ⟨amounts, hamounts, h⟩ := (bind_eq_ok_iff _ _ _).mp h
        obtain ⟨hrange, rfl⟩ :=
          (@amountsIn_eq_ok_iff a none intent.side _ intent.quantity.val _ _).mp hamounts
        cases h
        exact .inr ⟨_, rfl, hrange, rfl⟩
      · rintro (⟨hdry, -⟩ | ⟨filled, ⟨⟩, hrange, rfl⟩)
        · cases hdry
        · exact (bind_eq_ok_iff _ _ _).mpr ⟨_, amountsIn_eq_ok_iff.mpr ⟨hrange, rfl⟩, rfl⟩
  | some model =>
      have hcap : VolumeInRange a (some model) entry.1 ↔
          a.inRange (entry.1.baseVolume.val * model.maxParticipationRate.val) = true :=
        ⟨fun h => h model rfl, fun h model' hmodel => by cases hmodel; exact h⟩
      rw [hcap]
      simp only [fillOnIn, liquidQuantityIn, cappedQuantity]
      by_cases hrange : a.inRange (entry.1.baseVolume.val * model.maxParticipationRate.val) = true
      · rw [Arithmetic.finalize_of_inRange hrange, ok_bind, and_iff_right hrange]
        split
        · next hdry =>
            constructor
            · rintro ⟨⟩
              exact .inl ⟨rfl, rfl⟩
            · rintro (⟨-, rfl⟩ | ⟨filled, hsome, -⟩)
              · rfl
              · cases hsome
        · next hliquid =>
            constructor
            · intro h
              obtain ⟨amounts, hamounts, h⟩ := (bind_eq_ok_iff _ _ _).mp h
              obtain ⟨hin, rfl⟩ := (@amountsIn_eq_ok_iff a (some model) _ _ _ _ _).mp hamounts
              cases h
              exact .inr ⟨_, rfl, hin, rfl⟩
            · rintro (⟨hnone, -⟩ | ⟨filled, hsome, hin, rfl⟩)
              · cases hnone
              · cases hsome
                exact (bind_eq_ok_iff _ _ _).mpr
                  ⟨_, (@amountsIn_eq_ok_iff a (some model) _ _ _ _ _).mpr ⟨hin, rfl⟩, rfl⟩
      · refine iff_of_false ?_ fun h => hrange h.1
        intro h
        obtain ⟨cap, hcap, -⟩ := (bind_eq_ok_iff _ _ _).mp h
        exact hrange (Arithmetic.finalize_eq_ok_iff.mp hcap).1

/-- What the attempt on a bar computes, and what it makes of it. -/
theorem attemptOnIn_eq_ok_iff :
    attemptOnIn a context costModel intent firstIndex entry = .ok attempt ↔
      AttemptAt a context costModel intent firstIndex entry attempt := by
  constructor
  · intro h
    obtain ⟨reason, hreason, h⟩ := (bind_eq_ok_iff _ _ _).mp h
    have hevaluate := exists_constraintReasonIn_iff.mp ⟨reason, hreason⟩
    rcases of_constraintReasonIn hreason with ⟨rfl, haccept⟩ | ⟨rfl, hrefuse⟩
    · obtain ⟨hvolume, ⟨hdry, rfl⟩ | ⟨filled, hliquid, hamounts, rfl⟩⟩ := fillOnIn_eq_ok_iff.mp h
      · exact .illiquid hevaluate haccept hvolume hdry
      · exact .filled hevaluate haccept hvolume hliquid hamounts
    · cases h
      exact .refused hevaluate hrefuse
  · intro h
    have hevaluate : ConstraintsEvaluate a context intent entry.1 := by cases h <;> assumption
    obtain ⟨reason, hreason⟩ := exists_constraintReasonIn_iff.mpr hevaluate
    refine (bind_eq_ok_iff _ _ _).mpr ⟨reason, hreason, ?_⟩
    rcases of_constraintReasonIn hreason with ⟨rfl, haccept⟩ | ⟨rfl, hrefuse⟩
    · cases h with
      | refused _ hrefuse => exact absurd haccept hrefuse
      | illiquid _ _ hvolume hdry => exact fillOnIn_eq_ok_iff.mpr ⟨hvolume, .inl ⟨hdry, rfl⟩⟩
      | filled _ _ hvolume hliquid hamounts =>
          exact fillOnIn_eq_ok_iff.mpr ⟨hvolume, .inr ⟨_, hliquid, hamounts, rfl⟩⟩
    · cases h with
      | refused => rfl
      | illiquid _ haccept => exact absurd haccept hrefuse
      | filled _ haccept => exact absurd haccept hrefuse

end OnBar

end Attempts

end TaModel.Simulation
