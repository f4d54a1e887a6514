import TaModel.Risk.Decision
import Mathlib.Algebra.Order.Field.Basic
import Mathlib.Tactic.Linarith

/-!
# The size limits of a buy

The five size evaluations of a buy read as inequalities in its notional. `WithinHard` and
`WithinSoft` collect them; both are preserved when the notional shrinks.
-/

set_option autoImplicit false

namespace TaModel.Risk

open Contracts

/-! ## Participation checks -/

theorem liquidityCheck_le_soft_iff (notional : Decimal) (available : PositiveDecimal)
    (t : FractionThresholds) :
    (liquidityCheck notional available t).currentValue ≤
      (liquidityCheck notional available t).softThreshold ↔
      notional ≤ available.val * t.soft.val := by
  show notional / available.val ≤ t.soft.val ↔ _
  rw [div_le_iff₀ available.property, mul_comm]

theorem mem_liquidityChecks_iff (r : RiskCheckRequest) (p : RiskPolicy) (notional : Decimal)
    (c : LiquidityCheck) :
    c ∈ liquidityChecks r p notional ↔
      (∃ volume ∈ r.liquidityRisk.rolling24hQuoteVolumeNotional,
        c = liquidityCheck notional volume p.maxParticipation24hQuoteVolumePct) ∨
      ∃ depth ∈ r.liquidityRisk.topOfBookDepthNotional,
        c = liquidityCheck notional depth p.maxParticipationTopOfBookDepthPct := by
  simp only [liquidityChecks, List.mem_append, List.mem_map, Option.mem_toList]
  constructor
  · rintro (⟨volume, hv, rfl⟩ | ⟨depth, hd, rfl⟩)
    · exact Or.inl ⟨volume, hv, rfl⟩
    · exact Or.inr ⟨depth, hd, rfl⟩
  · rintro (⟨volume, hv, rfl⟩ | ⟨depth, hd, rfl⟩)
    · exact Or.inl ⟨volume, hv, rfl⟩
    · exact Or.inr ⟨depth, hd, rfl⟩

/-- A check breaches softly when the notional exceeds its soft share. -/
theorem liquidityCheck_breach_iff (notional : Decimal) (available : PositiveDecimal)
    (t : FractionThresholds) :
    (liquidityCheck notional available t).softThreshold <
      (liquidityCheck notional available t).currentValue ↔
      available.val * t.soft.val < notional := by
  rw [← not_le, liquidityCheck_le_soft_iff, not_le]

/-- The volume check comes first. -/
theorem find_volume_check {r : RiskCheckRequest} (p : RiskPolicy) {notional : Decimal}
    {volume : PositiveDecimal} (hv : volume ∈ r.liquidityRisk.rolling24hQuoteVolumeNotional)
    (hbreach : volume.val * p.maxParticipation24hQuoteVolumePct.soft.val < notional) :
    (liquidityChecks r p notional).find? (fun c => decide (c.softThreshold < c.currentValue)) =
      some (liquidityCheck notional volume p.maxParticipation24hQuoteVolumePct) := by
  have hsome : r.liquidityRisk.rolling24hQuoteVolumeNotional = some volume := hv
  simp only [liquidityChecks, hsome, Option.toList_some, List.map_cons, List.map_nil,
    List.cons_append, List.nil_append, List.find?_cons,
    (liquidityCheck_breach_iff notional volume _).mpr hbreach, decide_true]

/-- The depth check decides when the volume check does not breach. -/
theorem find_depth_check {r : RiskCheckRequest} (p : RiskPolicy) {notional : Decimal}
    {depth : PositiveDecimal}
    (hv : ∀ volume ∈ r.liquidityRisk.rolling24hQuoteVolumeNotional,
      notional ≤ volume.val * p.maxParticipation24hQuoteVolumePct.soft.val)
    (hd : depth ∈ r.liquidityRisk.topOfBookDepthNotional)
    (hbreach : depth.val * p.maxParticipationTopOfBookDepthPct.soft.val < notional) :
    (liquidityChecks r p notional).find? (fun c => decide (c.softThreshold < c.currentValue)) =
      some (liquidityCheck notional depth p.maxParticipationTopOfBookDepthPct) := by
  have hsome : r.liquidityRisk.topOfBookDepthNotional = some depth := hd
  have hdepth : [liquidityCheck notional depth p.maxParticipationTopOfBookDepthPct].find?
      (fun c => decide (c.softThreshold < c.currentValue)) =
      some (liquidityCheck notional depth p.maxParticipationTopOfBookDepthPct) := by
    simp only [List.find?_cons, (liquidityCheck_breach_iff notional depth _).mpr hbreach,
      decide_true]
  simp only [liquidityChecks, hsome, Option.toList_some, List.map_cons, List.map_nil]
  cases hvolume : r.liquidityRisk.rolling24hQuoteVolumeNotional with
  | none => exact hdepth
  | some volume =>
      have hle := hv volume hvolume
      have hpass : ¬ (liquidityCheck notional volume
          p.maxParticipation24hQuoteVolumePct).softThreshold <
          (liquidityCheck notional volume p.maxParticipation24hQuoteVolumePct).currentValue := by
        rw [liquidityCheck_breach_iff]
        exact not_lt.mpr hle
      simp only [Option.toList_some, List.map_cons, List.map_nil, List.cons_append,
        List.nil_append]
      rw [List.find?_cons_of_neg (by simpa using hpass)]
      exact hdepth

section Participation

variable (p : RiskPolicy) (checks : List LiquidityCheck)

theorem participation_hard_iff :
    (participationEvaluation p checks).status = .hardBreach ↔
      ∃ c ∈ checks, c.hardThreshold < c.currentValue := by
  cases checks with
  | nil => simp [participationEvaluation]
  | cons first rest =>
      simp only [participationEvaluation]
      split
      case h_1 c hfind =>
        have hmem := List.mem_of_find?_eq_some hfind
        have hbreach : c.hardThreshold < c.currentValue := by simpa using List.find?_some hfind
        exact iff_of_true rfl ⟨c, hmem, hbreach⟩
      case h_2 hfind =>
        have hnone : ¬ ∃ c ∈ first :: rest, c.hardThreshold < c.currentValue := by
          rintro ⟨c, hc, hbreach⟩
          exact List.find?_eq_none.mp hfind c hc (decide_eq_true hbreach)
        split
        · exact iff_of_false (by simp) hnone
        · exact iff_of_false (by simp) hnone

theorem participation_pass_iff :
    (participationEvaluation p checks).status = .pass ↔
      ∀ c ∈ checks, c.currentValue ≤ c.softThreshold ∧ c.currentValue ≤ c.hardThreshold := by
  cases checks with
  | nil => simp [participationEvaluation]
  | cons first rest =>
      simp only [participationEvaluation]
      split
      case h_1 c hfind =>
        have hmem := List.mem_of_find?_eq_some hfind
        have hbreach : c.hardThreshold < c.currentValue := by simpa using List.find?_some hfind
        exact iff_of_false (by simp) fun h => absurd (h c hmem).2 (not_le.mpr hbreach)
      case h_2 hhard =>
        have hle : ∀ c ∈ first :: rest, c.currentValue ≤ c.hardThreshold := fun c hc =>
          not_lt.mp fun hlt => List.find?_eq_none.mp hhard c hc (decide_eq_true hlt)
        split
        case h_1 c hfind =>
          have hmem := List.mem_of_find?_eq_some hfind
          have hbreach : c.softThreshold < c.currentValue := by simpa using List.find?_some hfind
          exact iff_of_false (by simp) fun h => absurd (h c hmem).1 (not_le.mpr hbreach)
        case h_2 hfind =>
          have hsoft : ∀ c ∈ first :: rest, c.currentValue ≤ c.softThreshold := fun c hc =>
            not_lt.mp fun hlt => List.find?_eq_none.mp hfind c hc (decide_eq_true hlt)
          exact iff_of_true rfl fun c hc => ⟨hsoft c hc, hle c hc⟩

/-- Without a hard breach, the first check that breaches softly makes the evaluation. -/
theorem participation_of_find {c : LiquidityCheck}
    (hhard : ∀ c ∈ checks, c.currentValue ≤ c.hardThreshold)
    (hfind : checks.find? (fun c => decide (c.softThreshold < c.currentValue)) = some c) :
    participationEvaluation p checks =
      evaluation .liquidityParticipation c.currentValue c.hardThreshold (some .softBreach)
        .liquidityParticipationSoft (some c.softThreshold) (some c.softCapNotional) := by
  have hnone : checks.find? (fun c => decide (c.hardThreshold < c.currentValue)) = none :=
    List.find?_eq_none.mpr fun c hc => by simpa using hhard c hc
  cases checks with
  | nil => cases hfind
  | cons first rest => simp only [participationEvaluation, hnone, hfind]

theorem participation_soft (h : (participationEvaluation p checks).status = .softBreach) :
    ∃ c, checks.find? (fun c => decide (c.softThreshold < c.currentValue)) = some c := by
  cases hfind : checks.find? (fun c => decide (c.softThreshold < c.currentValue)) with
  | some c => exact ⟨c, rfl⟩
  | none =>
      have hsoft : ∀ c ∈ checks, c.currentValue ≤ c.softThreshold := fun c hc =>
        not_lt.mp fun hlt => List.find?_eq_none.mp hfind c hc (decide_eq_true hlt)
      have hhard : ∀ c ∈ checks, c.currentValue ≤ c.hardThreshold := by
        intro c hc
        by_contra hlt
        rw [(participation_hard_iff p checks).mpr ⟨c, hc, not_le.mp hlt⟩] at h
        cases h
      rw [(participation_pass_iff p checks).mpr fun c hc => ⟨hsoft c hc, hhard c hc⟩] at h
      cases h

end Participation

/-! ## The evaluations of a buy -/

section Buy

variable {r : RiskCheckRequest} (p : RiskPolicy)

/-- The effect of a buy. -/
structure BuyEffect (r : RiskCheckRequest) (effect : OrderEffect) : Prop where
  riskIncreasing : effect.riskIncreasing = true
  notional : effect.proposedNotional = proposedNotional r
  cash : effect.resultingCash = r.currentCash.val - (proposedNotional r).val
  instrument : effect.resultingInstrumentExposureNotional.val =
    r.currentInstrumentExposureNotional.val + (proposedNotional r).val
  strategy : effect.resultingStrategyExposureNotional.val =
    r.currentStrategyExposureNotional.val + (proposedNotional r).val
  total : effect.resultingTotalSpotExposureNotional.val =
    r.currentTotalSpotExposureNotional.val + (proposedNotional r).val

theorem buildOrderEffect_buy (hbuy : r.orderIntent.side = .buy) :
    BuyEffect r (buildOrderEffect r) := by
  constructor <;> simp [buildOrderEffect, resultingExposure, hbuy]

theorem orderNotional_buy (hbuy : r.orderIntent.side = .buy) (metadata : MetadataView) :
    orderNotionalEvaluation p metadata (buildOrderEffect r) =
      thresholdEvaluation .orderMaxNotional (proposedNotional r).val
        (p.paperNav.val * p.maxOrderNotionalPct.soft.val) (orderNotionalHard p metadata)
        .orderMaxNotionalSoft .orderMaxNotionalHard := by
  have heffect := buildOrderEffect_buy hbuy
  simp [orderNotionalEvaluation, heffect.riskIncreasing, heffect.notional]

theorem exposure_buy (hbuy : r.orderIntent.side = .buy) (limit : LimitId)
    (exposure soft hard : Decimal) (softReason hardReason : RiskReasonCode) :
    exposureEvaluation limit (buildOrderEffect r) exposure soft hard softReason hardReason =
      thresholdEvaluation limit exposure soft hard softReason hardReason := by
  have heffect := buildOrderEffect_buy hbuy
  simp [exposureEvaluation, heffect.riskIncreasing]

theorem instrumentExposure_buy (hbuy : r.orderIntent.side = .buy) (metadata : MetadataView) :
    instrumentExposureEvaluation p metadata (buildOrderEffect r) =
      thresholdEvaluation .positionInstrumentExposure
        (r.currentInstrumentExposureNotional.val + (proposedNotional r).val)
        (p.paperNav.val * p.maxInstrumentExposurePct.soft.val)
        (hardNotional p metadata AccountRiskLimits.maxInstrumentExposurePct
          p.maxInstrumentExposurePct.hard)
        .positionInstrumentExposureSoft .positionInstrumentExposureHard := by
  simp only [instrumentExposureEvaluation]
  rw [exposure_buy hbuy, (buildOrderEffect_buy hbuy).instrument]

theorem strategyExposure_buy (hbuy : r.orderIntent.side = .buy) (metadata : MetadataView) :
    strategyExposureEvaluation p metadata (buildOrderEffect r) =
      thresholdEvaluation .positionStrategyExposure
        (r.currentStrategyExposureNotional.val + (proposedNotional r).val)
        (p.paperNav.val * p.maxStrategyExposurePct.soft.val)
        (hardNotional p metadata AccountRiskLimits.maxStrategyExposurePct
          p.maxStrategyExposurePct.hard)
        .positionStrategyExposureSoft .positionStrategyExposureHard := by
  simp only [strategyExposureEvaluation]
  rw [exposure_buy hbuy, (buildOrderEffect_buy hbuy).strategy]

theorem totalSpotExposure_buy_of_cash (hbuy : r.orderIntent.side = .buy)
    (metadata : MetadataView)
    (hcash : cashThreshold p metadata ≤ r.currentCash.val - (proposedNotional r).val) :
    totalSpotExposureEvaluation p metadata (buildOrderEffect r) =
      thresholdEvaluation .positionTotalSpotExposure
        (r.currentTotalSpotExposureNotional.val + (proposedNotional r).val)
        (p.paperNav.val * p.maxTotalSpotExposurePct.soft.val)
        (hardNotional p metadata AccountRiskLimits.maxTotalSpotExposurePct
          p.maxTotalSpotExposurePct.hard)
        .positionTotalSpotExposureSoft .positionTotalSpotExposureHard := by
  have heffect := buildOrderEffect_buy hbuy
  simp only [totalSpotExposureEvaluation]
  rw [exposure_buy hbuy, heffect.total, heffect.cash, if_neg]
  rintro ⟨-, hlt⟩
  exact absurd hcash (not_le.mpr hlt)

theorem totalSpotExposure_buy_hard_of_cash (hbuy : r.orderIntent.side = .buy)
    (metadata : MetadataView)
    (hcash : r.currentCash.val - (proposedNotional r).val < cashThreshold p metadata) :
    (totalSpotExposureEvaluation p metadata (buildOrderEffect r)).status = .hardBreach := by
  have heffect := buildOrderEffect_buy hbuy
  simp only [totalSpotExposureEvaluation]
  rw [heffect.cash, if_pos ⟨heffect.riskIncreasing, hcash⟩]
  rfl

/-- A buy of notional `n` is within every hard size limit. -/
structure WithinHard (r : RiskCheckRequest) (p : RiskPolicy) (n : Decimal) : Prop where
  order : n ≤ orderNotionalHard p (metadataView r)
  instrument : r.currentInstrumentExposureNotional.val + n ≤
    hardNotional p (metadataView r) AccountRiskLimits.maxInstrumentExposurePct
      p.maxInstrumentExposurePct.hard
  strategy : r.currentStrategyExposureNotional.val + n ≤
    hardNotional p (metadataView r) AccountRiskLimits.maxStrategyExposurePct
      p.maxStrategyExposurePct.hard
  cash : cashThreshold p (metadataView r) ≤ r.currentCash.val - n
  total : r.currentTotalSpotExposureNotional.val + n ≤
    hardNotional p (metadataView r) AccountRiskLimits.maxTotalSpotExposurePct
      p.maxTotalSpotExposurePct.hard
  depth : ¬ (r.liquidityRisk.depthMetricRequired = true ∧
    r.liquidityRisk.topOfBookDepthNotional = none)
  participation : ∀ c ∈ liquidityChecks r p n, c.currentValue ≤ c.hardThreshold

/-- A buy of notional `n` is within every soft size limit. -/
structure WithinSoft (r : RiskCheckRequest) (p : RiskPolicy) (n : Decimal) : Prop where
  order : n ≤ p.paperNav.val * p.maxOrderNotionalPct.soft.val
  instrument : r.currentInstrumentExposureNotional.val + n ≤
    p.paperNav.val * p.maxInstrumentExposurePct.soft.val
  strategy : r.currentStrategyExposureNotional.val + n ≤
    p.paperNav.val * p.maxStrategyExposurePct.soft.val
  total : r.currentTotalSpotExposureNotional.val + n ≤
    p.paperNav.val * p.maxTotalSpotExposurePct.soft.val
  participation : ∀ c ∈ liquidityChecks r p n, c.currentValue ≤ c.softThreshold

/-- A check that holds at a notional holds at every smaller one. -/
theorem liquidityChecks_antitone (bound : LiquidityCheck → Decimal)
    (hbound : ∀ m n a t, bound (liquidityCheck m a t) = bound (liquidityCheck n a t))
    {m n : Decimal} (hmn : m ≤ n)
    (h : ∀ c ∈ liquidityChecks r p n, c.currentValue ≤ bound c) :
    ∀ c ∈ liquidityChecks r p m, c.currentValue ≤ bound c := by
  have hshare : ∀ (a : PositiveDecimal) (t : FractionThresholds),
      (liquidityCheck m a t).currentValue ≤ (liquidityCheck n a t).currentValue := by
    intro a t
    exact (div_le_div_iff_of_pos_right a.property).mpr hmn
  intro c hc
  rcases (mem_liquidityChecks_iff r p m c).mp hc with ⟨volume, hv, rfl⟩ | ⟨depth, hd, rfl⟩
  · have hn := h _ ((mem_liquidityChecks_iff r p n _).mpr (Or.inl ⟨volume, hv, rfl⟩))
    rw [hbound m n]
    exact le_trans (hshare _ _) hn
  · have hn := h _ ((mem_liquidityChecks_iff r p n _).mpr (Or.inr ⟨depth, hd, rfl⟩))
    rw [hbound m n]
    exact le_trans (hshare _ _) hn

theorem WithinHard.antitone {p : RiskPolicy} {m n : Decimal} (hmn : m ≤ n)
    (h : WithinHard r p n) : WithinHard r p m where
  order := le_trans hmn h.order
  instrument := le_trans (add_le_add_right hmn _) h.instrument
  strategy := le_trans (add_le_add_right hmn _) h.strategy
  cash := le_trans h.cash (sub_le_sub_left hmn _)
  total := le_trans (add_le_add_right hmn _) h.total
  depth := h.depth
  participation :=
    liquidityChecks_antitone p LiquidityCheck.hardThreshold (fun _ _ _ _ => rfl) hmn
      h.participation

theorem WithinSoft.antitone {p : RiskPolicy} {m n : Decimal} (hmn : m ≤ n)
    (h : WithinSoft r p n) : WithinSoft r p m where
  order := le_trans hmn h.order
  instrument := le_trans (add_le_add_right hmn _) h.instrument
  strategy := le_trans (add_le_add_right hmn _) h.strategy
  total := le_trans (add_le_add_right hmn _) h.total
  participation :=
    liquidityChecks_antitone p LiquidityCheck.softThreshold (fun _ _ _ _ => rfl) hmn
      h.participation

/-- No size evaluation of a buy is a hard breach exactly when the buy is within every hard size
limit. -/
theorem size_no_hard_iff (hbuy : r.orderIntent.side = .buy) :
    (∀ e ∈ sizeEvaluations r p, e.status ≠ .hardBreach) ↔
      WithinHard r p (proposedNotional r).val := by
  have hnotional := (buildOrderEffect_buy hbuy).notional
  simp only [sizeEvaluations, List.forall_mem_cons, List.not_mem_nil, false_implies,
    implies_true, and_true, orderNotional_buy p hbuy, instrumentExposure_buy p hbuy,
    strategyExposure_buy p hbuy, ne_eq, threshold_hard_iff, not_lt]
  constructor
  · rintro ⟨horder, hinstrument, hstrategy, htotal, hliquidity⟩
    have hcash : cashThreshold p (metadataView r) ≤
        r.currentCash.val - (proposedNotional r).val := by
      by_contra hlt
      exact htotal (totalSpotExposure_buy_hard_of_cash p hbuy _ (not_le.mp hlt))
    rw [totalSpotExposure_buy_of_cash p hbuy _ hcash, threshold_hard_iff, not_lt] at htotal
    simp only [liquidityParticipationEvaluation] at hliquidity
    split_ifs at hliquidity with hdepth
    · simp at hliquidity
    · rw [participation_hard_iff, hnotional] at hliquidity
      refine ⟨horder, hinstrument, hstrategy, hcash, htotal, hdepth, ?_⟩
      exact fun c hc => not_lt.mp fun hlt => hliquidity ⟨c, hc, hlt⟩
  · intro h
    refine ⟨h.order, h.instrument, h.strategy, ?_, ?_⟩
    · rw [totalSpotExposure_buy_of_cash p hbuy _ h.cash, threshold_hard_iff, not_lt]
      exact h.total
    · simp only [liquidityParticipationEvaluation, if_neg h.depth]
      rw [participation_hard_iff, hnotional]
      rintro ⟨c, hc, hlt⟩
      exact absurd (h.participation c hc) (not_le.mpr hlt)

/-- Every size evaluation of a buy passes exactly when the buy is within the hard and the soft
size limits. -/
theorem size_pass_iff (hbuy : r.orderIntent.side = .buy) :
    (∀ e ∈ sizeEvaluations r p, e.status = .pass) ↔
      WithinHard r p (proposedNotional r).val ∧ WithinSoft r p (proposedNotional r).val := by
  have hnotional := (buildOrderEffect_buy hbuy).notional
  constructor
  · intro hpass
    have hhard : WithinHard r p (proposedNotional r).val := by
      refine (size_no_hard_iff p hbuy).mp ?_
      intro e he hbreach
      rw [hpass e he] at hbreach
      cases hbreach
    refine ⟨hhard, ?_⟩
    simp only [sizeEvaluations, List.forall_mem_cons, List.not_mem_nil, false_implies,
      implies_true, and_true, orderNotional_buy p hbuy, instrumentExposure_buy p hbuy,
      strategyExposure_buy p hbuy, totalSpotExposure_buy_of_cash p hbuy _ hhard.cash,
      liquidityParticipationEvaluation, if_neg hhard.depth, threshold_pass_iff,
      participation_pass_iff, hnotional] at hpass
    obtain ⟨horder, hinstrument, hstrategy, htotal, hliquidity⟩ := hpass
    exact ⟨horder.1, hinstrument.1, hstrategy.1, htotal.1, fun c hc => (hliquidity c hc).1⟩
  · rintro ⟨hhard, hsoft⟩
    simp only [sizeEvaluations, List.forall_mem_cons, List.not_mem_nil, false_implies,
      implies_true, and_true, orderNotional_buy p hbuy, instrumentExposure_buy p hbuy,
      strategyExposure_buy p hbuy, totalSpotExposure_buy_of_cash p hbuy _ hhard.cash,
      liquidityParticipationEvaluation, if_neg hhard.depth, threshold_pass_iff,
      participation_pass_iff, hnotional]
    exact ⟨⟨hsoft.order, hhard.order⟩, ⟨hsoft.instrument, hhard.instrument⟩,
      ⟨hsoft.strategy, hhard.strategy⟩, ⟨hsoft.total, hhard.total⟩,
      fun c hc => ⟨hsoft.participation c hc, hhard.participation c hc⟩⟩

end Buy

end TaModel.Risk
