import TaModel.Risk.SoftCap

/-!
# The soft cap and the constraint of the venue

The capped quantity is the tightest soft headroom divided by the reference price, and nothing
rounds it to the lot grid or compares it with the minimums of the venue. An order the venue accepts
can so become one it refuses. `TightestHeadroomFits` says exactly when it does not: the tightest
headroom pays for a whole number of lots, and for the smallest order. The maxima need no condition,
since the cap only lowers the order.
-/

set_option autoImplicit false

namespace TaModel.Risk

open Contracts Simulation

/-! ## The tightest headroom -/

section Headrooms

variable (r : RiskCheckRequest) (p : RiskPolicy)

/-- What the soft participation limits leave for a buy. The depth counts only when the order stays
within the volume limit, since one participation limit is reported. -/
def participationHeadrooms : List Decimal :=
  (r.liquidityRisk.rolling24hQuoteVolumeNotional.toList.map fun volume =>
    volume.val * p.maxParticipation24hQuoteVolumePct.soft.val) ++
  (if ∀ volume ∈ r.liquidityRisk.rolling24hQuoteVolumeNotional, (proposedNotional r).val ≤
      volume.val * p.maxParticipation24hQuoteVolumePct.soft.val then
    r.liquidityRisk.topOfBookDepthNotional.toList.map fun depth =>
      depth.val * p.maxParticipationTopOfBookDepthPct.soft.val
  else [])

/-- `headroom` is the least notional a soft size limit leaves for a buy. -/
def IsTightestHeadroom (headroom : Decimal) : Prop :=
  headroom ∈ softHeadrooms r p ++ participationHeadrooms r p ∧
    ∀ other ∈ softHeadrooms r p ++ participationHeadrooms r p, headroom ≤ other

/-- The tightest headroom buys an order the venue takes: a whole number of lots, at least the
minimum quantity and the minimum notional. -/
def TightestHeadroomFits (c : InstrumentConstraint) : Prop :=
  ∃ headroom, IsTightestHeadroom r p headroom ∧
    (∃ lots : ℕ, headroom = lots * (c.lotSize.val * r.referencePrice.val)) ∧
    (c.minOrderQuantity.getD c.lotSize).val * r.referencePrice.val ≤ headroom ∧
    c.minNotional.val ≤ headroom

variable {r p}

theorem IsTightestHeadroom.unique {a b : Decimal} (ha : IsTightestHeadroom r p a)
    (hb : IsTightestHeadroom r p b) : a = b :=
  le_antisymm (ha.2 b hb.1) (hb.2 a ha.1)

theorem mem_participationHeadrooms_iff (headroom : Decimal) :
    headroom ∈ participationHeadrooms r p ↔
      (∃ volume ∈ r.liquidityRisk.rolling24hQuoteVolumeNotional,
        headroom = volume.val * p.maxParticipation24hQuoteVolumePct.soft.val) ∨
      ((∀ volume ∈ r.liquidityRisk.rolling24hQuoteVolumeNotional, (proposedNotional r).val ≤
          volume.val * p.maxParticipation24hQuoteVolumePct.soft.val) ∧
        ∃ depth ∈ r.liquidityRisk.topOfBookDepthNotional,
          headroom = depth.val * p.maxParticipationTopOfBookDepthPct.soft.val) := by
  have hmap : ∀ (known : Option PositiveDecimal) (pct : Decimal),
      headroom ∈ known.toList.map (fun available => available.val * pct) ↔
        ∃ available ∈ known, headroom = available.val * pct := by
    intro known pct
    simp only [List.mem_map, Option.mem_toList, Option.mem_def, eq_comm]
  simp only [participationHeadrooms, List.mem_append, hmap]
  split_ifs with hvolume
  · rw [hmap, and_iff_right hvolume]
  · exact or_congr_right (iff_of_false List.not_mem_nil fun h => hvolume h.1)

variable [Sha256] {allowed : Decimal}

/-- The depth check passes after the cap when the volume check did not breach. -/
theorem SoftCapped.le_depth (h : SoftCapped r (limitEvaluations r p) allowed)
    (hhard : WithinHard r p (proposedNotional r).val)
    (hvolume : ∀ volume ∈ r.liquidityRisk.rolling24hQuoteVolumeNotional,
      (proposedNotional r).val ≤ volume.val * p.maxParticipation24hQuoteVolumePct.soft.val)
    {depth : PositiveDecimal} (hd : depth ∈ r.liquidityRisk.topOfBookDepthNotional) :
    allowed ≤ depth.val * p.maxParticipationTopOfBookDepthPct.soft.val := by
  refine (h.le_depth_iff hhard).mpr ?_ depth hd
  intro volume hv _ _ hbreach
  exact absurd (hvolume volume hv) (not_le.mpr hbreach)

/-- The allowed notional is the tightest headroom. -/
theorem SoftCapped.isTightestHeadroom (h : SoftCapped r (limitEvaluations r p) allowed)
    (hhard : WithinHard r p (proposedNotional r).val) : IsTightestHeadroom r p allowed := by
  constructor
  · rw [List.mem_append]
    rcases h.mem_headrooms hhard with hmem | ⟨c, hfind, hallowed⟩
    · exact Or.inl hmem
    · refine Or.inr ((mem_participationHeadrooms_iff _).mpr ?_)
      have hc := List.mem_of_find?_eq_some hfind
      rcases (mem_liquidityChecks_iff r p _ c).mp hc with ⟨volume, hv, rfl⟩ | ⟨depth, hd, rfl⟩
      · exact Or.inl ⟨volume, hv, hallowed⟩
      · by_cases hvolume : ∀ volume ∈ r.liquidityRisk.rolling24hQuoteVolumeNotional,
            (proposedNotional r).val ≤ volume.val * p.maxParticipation24hQuoteVolumePct.soft.val
        · exact Or.inr ⟨hvolume, depth, hd, hallowed⟩
        · -- the volume check is found first
          push Not at hvolume
          obtain ⟨volume, hv, hbreach⟩ := hvolume
          rw [find_volume_check p hv hbreach] at hfind
          rw [← Option.some.inj hfind] at hallowed
          exact Or.inl ⟨volume, hv, hallowed⟩
  · intro other hother
    rcases List.mem_append.mp hother with hsoft | hparticipation
    · exact h.le_headroom hhard other hsoft
    · rcases (mem_participationHeadrooms_iff _).mp hparticipation with
        ⟨volume, hv, rfl⟩ | ⟨hvolume, depth, hd, rfl⟩
      · exact h.le_volume hhard hv
      · exact h.le_depth hhard hvolume hd

end Headrooms

/-! ## Whole lots -/

theorem isDecimalMultiple_iff {value increment : Decimal} (hvalue : 0 ≤ value)
    (hincrement : 0 < increment) :
    isDecimalMultiple value increment = true ↔ ∃ lots : ℕ, value = lots * increment := by
  have hquotient : 0 ≤ value / increment := div_nonneg hvalue hincrement.le
  simp only [isDecimalMultiple, hincrement, decide_true, Bool.true_and, decide_eq_true_eq]
  constructor
  · intro hden
    -- a rational with denominator one is its numerator
    obtain ⟨lots, hlots⟩ := Int.eq_ofNat_of_zero_le (Rat.num_nonneg.mpr hquotient)
    have hwhole : value / increment = (lots : ℚ) := by
      rw [← Rat.coe_int_num_of_den_eq_one hden, hlots]
      rfl
    exact ⟨lots, (div_eq_iff hincrement.ne').mp hwhole⟩
  · rintro ⟨lots, rfl⟩
    rw [mul_div_cancel_right₀ _ hincrement.ne']
    exact Rat.den_natCast lots

/-- The order cut to a smaller notional is accepted exactly when that notional pays for whole lots
and for the smallest order. -/
theorem accepts_cut_iff {c : InstrumentConstraint} {price quantity allowed : Decimal}
    (haccepts : c.Accepts price quantity) (hpos : 0 < allowed)
    (hbelow : allowed < quantity * price) :
    c.Accepts price (allowed / price) ↔
      (∃ lots : ℕ, allowed = lots * (c.lotSize.val * price)) ∧
        (c.minOrderQuantity.getD c.lotSize).val * price ≤ allowed ∧
        c.minNotional.val ≤ allowed := by
  have hprice := haccepts.price_pos
  have hcut_pos : 0 < allowed / price := div_pos hpos hprice
  have hnotional : price * (allowed / price) = allowed := mul_div_cancel₀ allowed hprice.ne'
  have hsmaller : allowed / price ≤ quantity := ((div_lt_iff₀ hprice).mpr hbelow).le
  have hlots : (∃ lots : ℕ, allowed / price = lots * c.lotSize.val) ↔
      ∃ lots : ℕ, allowed = lots * (c.lotSize.val * price) := by
    simp only [div_eq_iff hprice.ne', mul_assoc]
  constructor
  · intro h
    refine ⟨hlots.mp ((isDecimalMultiple_iff hcut_pos.le c.lotSize.property).mp h.on_lot), ?_, ?_⟩
    · exact (le_div_iff₀ hprice).mp h.minimum_le
    · exact hnotional ▸ h.min_notional_le
  · rintro ⟨hwhole, hminimum, hlow⟩
    refine ⟨hprice, haccepts.on_tick, hcut_pos, (le_div_iff₀ hprice).mpr hminimum,
      (isDecimalMultiple_iff hcut_pos.le c.lotSize.property).mpr (hlots.mpr hwhole), ?_,
      by rwa [hnotional], ?_⟩
    · -- the maxima hold of the larger order already
      exact fun hi hhi => le_trans hsmaller (haccepts.le_maximum hi hhi)
    · intro hi hhi
      rw [hnotional]
      have hlarger := haccepts.le_max_notional hi hhi
      rw [mul_comm] at hlarger
      exact le_trans hbelow.le hlarger

/-! ## The capped order at the venue -/

section Venue

/-- The capped order `o` is still an order the constraint takes: it passes `evaluate_order` at the
reference price, so no replay at that price rejects it while the same constraint is active. -/
structure KeepsConstraint (r : RiskCheckRequest) (c : InstrumentConstraint) (o : OrderIntent) :
    Prop where
  passes : (c.evaluateOrder r.referencePrice.val o.quantity.val).passed = true
  not_rejected : ∀ effectiveAt,
    activeConstraint { r.instrumentMasterSnapshot with createdAt := effectiveAt }
      r.orderIntent.instrumentId =
        activeConstraint r.instrumentMasterSnapshot r.orderIntent.instrumentId →
    constraintRejectReason o r.instrumentMasterSnapshot r.referencePrice.val effectiveAt = none

theorem activeConstraint_eq_some_iff (snapshot : InstrumentMasterSnapshot) (instrumentId : String)
    (c : InstrumentConstraint) :
    activeConstraint snapshot instrumentId = some c ↔
      snapshot.instrumentConstraints.filter (fun c =>
        c.instrumentId == instrumentId && c.window.isEffective snapshot.createdAt) = [c] := by
  simp only [activeConstraint]
  split
  · rename_i active hactive
    rw [hactive]
    simp
  · rename_i hnone
    exact iff_of_false (by simp) fun h => hnone c h

/-- An order that passes the active constraint is not rejected for it. -/
theorem constraintRejectReason_eq_none {snapshot : InstrumentMasterSnapshot} {o : OrderIntent}
    {c : InstrumentConstraint} {price : Decimal} {effectiveAt : AwareDatetime}
    (hactive : activeConstraint { snapshot with createdAt := effectiveAt } o.instrumentId = some c)
    (hpasses : (c.evaluateOrder price o.quantity.val).passed = true) :
    constraintRejectReason o snapshot price effectiveAt = none := by
  have hfilter := (activeConstraint_eq_some_iff _ _ c).mp hactive
  simp only at hfilter
  simp only [constraintRejectReason, hfilter, hpasses, if_true]

variable [Sha256] {r : RiskCheckRequest} {p : RiskPolicy}

/-- The soft cap keeps the constraint of the venue exactly when the tightest headroom fits it. -/
theorem soft_cap_keeps_constraint_iff {c : InstrumentConstraint} {event : RiskCheckEvent}
    {o : OrderIntent}
    (hactive :
      activeConstraint r.instrumentMasterSnapshot r.orderIntent.instrumentId = some c)
    (hfeasible :
      (c.evaluateOrder r.referencePrice.val r.orderIntent.quantity.val).passed = true)
    (h : evaluatePreTradeRisk r p = .ok event) (hcap : event.finalDecision = .approvedAfterCap)
    (ho : event.approvedOrderIntent = some o) :
    KeepsConstraint r c o ↔ TightestHeadroomFits r p c := by
  obtain ⟨hhard, allowed, hsoft, hpos, rfl⟩ := approvedAfterCap_facts h hcap ho
  have htightest := hsoft.isTightestHeadroom hhard
  have hcut := accepts_cut_iff ((c.evaluateOrder_passed_iff _ _).mp hfeasible) hsoft.positive
    hsoft.below
  rw [← c.evaluateOrder_passed_iff] at hcut
  constructor
  · intro hkeeps
    exact ⟨allowed, htightest, hcut.mp hkeeps.passes⟩
  · rintro ⟨headroom, hheadroom, hfits⟩
    obtain rfl := hheadroom.unique htightest
    have hpasses := hcut.mpr hfits
    refine ⟨hpasses, ?_⟩
    intro effectiveAt hsame
    exact constraintRejectReason_eq_none (hsame.trans hactive) hpasses

end Venue

/-! ## Two tightest headrooms

`cappedBuy` asks for 18 lots at 100 USD, and a lot is 1. The order cap leaves 1000 USD, which is ten
lots; a rolling volume of 190000 USD leaves 950 USD, which is nine lots and a half. -/

section TwoHeadrooms

/-- The request to send `cappedBuy` on a rolling volume of 190000 USD. -/
def thinVolumeRequest : RiskCheckRequest :=
  @marketRequest hashlibSha256 loosestLimits .clear cappedBuy
    { rolling24hQuoteVolumeNotional := some ⟨190000, by decide⟩ } {}

/-- `cappedBuy` cut to the 950 USD of the volume cap. -/
def halfLotBuy : OrderIntent := cappedBuy.withQuantity ⟨19 / 2, by decide +kernel⟩

theorem thinVolumeRequest_valid :
    @RiskCheckRequest.validate hashlibSha256 thinVolumeRequest = .ok () :=
  @marketRequest_valid hashlibSha256 _ (ok_unit_of_toBool _ (by decide +kernel)) .clear cappedBuy
    (le_refl _) (by decide) _ _

theorem thinVolumeRequest_event : ∃ event,
    @evaluatePreTradeRisk hashlibSha256 thinVolumeRequest marketPolicy = .ok event ∧
      event.finalDecision = .approvedAfterCap ∧ event.approvedOrderIntent = some halfLotBuy := by
  have hdecision : @riskDecision hashlibSha256 thinVolumeRequest marketPolicy =
      (.approvedAfterCap, some halfLotBuy) := by decide +kernel
  obtain ⟨event, hevent⟩ := @evaluatePreTradeRisk_total hashlibSha256 _ marketPolicy
    thinVolumeRequest_valid
  obtain ⟨-, -, -, -, hpair, -⟩ := @evaluatePreTradeRisk_facts hashlibSha256 _ _ _ hevent
  rw [hdecision] at hpair
  obtain ⟨hcap, ho⟩ := Prod.mk.inj hpair
  exact ⟨event, hevent, hcap, ho⟩

/-- Ten lots: the capped order is still an order of the venue. -/
theorem soft_cap_keeps_constraint_ten_lots : ∃ event,
    @evaluatePreTradeRisk hashlibSha256 (cappedRequest none) marketPolicy = .ok event ∧
      event.approvedOrderIntent = some cutBuy ∧
      KeepsConstraint (cappedRequest none) (spotConstraint "BTC") cutBuy := by
  obtain ⟨event, hevent, hcap, ho⟩ := cappedRequest_event none (Or.inl rfl)
  have hactive : activeConstraint (cappedRequest none).instrumentMasterSnapshot
      (cappedRequest none).orderIntent.instrumentId = some (spotConstraint "BTC") := rfl
  refine ⟨event, hevent, ho, (@soft_cap_keeps_constraint_iff hashlibSha256 _ _ _ _ _ hactive
    (by decide +kernel) hevent hcap ho).mpr ?_⟩
  refine ⟨1000, ?_, ⟨10, by decide +kernel⟩, by decide +kernel, by decide +kernel⟩
  constructor <;> decide +kernel

/-- Nine lots and a half: the capped order is off the lot grid, and a replay rejects it. -/
theorem soft_cap_leaves_lot_grid : ∃ event,
    @evaluatePreTradeRisk hashlibSha256 thinVolumeRequest marketPolicy = .ok event ∧
      event.finalDecision = .approvedAfterCap ∧ event.approvedOrderIntent = some halfLotBuy ∧
      activeConstraint thinVolumeRequest.instrumentMasterSnapshot
        thinVolumeRequest.orderIntent.instrumentId = some (spotConstraint "BTC") ∧
      ((spotConstraint "BTC").evaluateOrder thinVolumeRequest.referencePrice.val
        thinVolumeRequest.orderIntent.quantity.val).passed = true ∧
      ((spotConstraint "BTC").evaluateOrder thinVolumeRequest.referencePrice.val
        halfLotBuy.quantity.val).passed = false ∧
      constraintRejectReason halfLotBuy thinVolumeRequest.instrumentMasterSnapshot
        thinVolumeRequest.referencePrice.val (minute 0) = some .constraintViolation := by
  obtain ⟨event, hevent, hcap, ho⟩ := thinVolumeRequest_event
  exact ⟨event, hevent, hcap, ho, rfl, by decide +kernel, by decide +kernel, by decide +kernel⟩

end TwoHeadrooms

end TaModel.Risk
