import TaModel.Strategy.Decisions
import Mathlib.Algebra.Order.Field.Basic
import Mathlib.Tactic.Linarith

/-!
# Pre-risk sizes

A trade is sized by the budget times three multipliers, each of which falls as its value grows and
is positive exactly under its threshold. A proposal can always be made, and it is of zero size
unless budget and multipliers are all positive.
-/

set_option autoImplicit false

namespace TaModel.Strategy

open Contracts

/-- Below the maximum, or both are zero. -/
def BelowMaximum (value maximum : Decimal) : Prop :=
  value < maximum ∨ (value = 0 ∧ maximum = 0)

/-! ## Thresholds -/

section Thresholds

variable {value value' threshold : Decimal}

theorem breachesThreshold_eq_false_iff (hvalue : 0 ≤ value) (hthreshold : 0 ≤ threshold) :
    breachesThreshold value threshold = false ↔ BelowMaximum value threshold := by
  rw [breachesThreshold, BelowMaximum]
  rcases hthreshold.eq_or_lt with rfl | hpos
  · simp [hvalue.not_gt, hvalue.ge_iff_eq', eq_comm]
  · simp [hpos.ne']

/-- The multiplier of a value under a positive threshold. -/
theorem thresholdMultiplier_of_pos (hvalue : 0 ≤ value) (hpos : 0 < threshold) :
    (thresholdMultiplier value threshold).val = max 0 (1 - value / threshold) := by
  have hratio : 0 ≤ value / threshold := div_nonneg hvalue hpos.le
  rw [thresholdMultiplier, if_neg hpos.ne']
  split
  · next hlow => exact (max_eq_left hlow).symm
  · next hlow =>
      split
      · next hhigh =>
          have hone : 1 - value / threshold = 1 := le_antisymm (by linarith) hhigh
          rw [hone]
          exact (max_eq_right zero_le_one).symm
      · next => exact (max_eq_right (not_le.mp hlow).le).symm

/-- A zero threshold lets only a zero value through. -/
theorem thresholdMultiplier_zero (value : Decimal) :
    (thresholdMultiplier value 0).val = if value = 0 then 1 else 0 := by
  rw [thresholdMultiplier, if_pos rfl]
  split
  · rfl
  · rfl

theorem thresholdMultiplier_pos_iff (hvalue : 0 ≤ value) (hthreshold : 0 ≤ threshold) :
    0 < (thresholdMultiplier value threshold).val ↔ BelowMaximum value threshold := by
  rw [BelowMaximum]
  rcases hthreshold.eq_or_lt with rfl | hpos
  · rw [thresholdMultiplier_zero]
    by_cases hzero : value = 0
    · simp [hzero]
    · simp [hzero, hvalue.not_gt]
  · rw [thresholdMultiplier_of_pos hvalue hpos, lt_max_iff, sub_pos, div_lt_one hpos]
    simp [hpos.ne']

/-- The multiplier falls as the value grows. -/
theorem thresholdMultiplier_antitone (hvalue : 0 ≤ value) (hle : value ≤ value')
    (hthreshold : 0 ≤ threshold) :
    (thresholdMultiplier value' threshold).val ≤ (thresholdMultiplier value threshold).val := by
  rcases hthreshold.eq_or_lt with rfl | hpos
  · rcases hvalue.eq_or_lt with rfl | hvaluePos
    · rw [thresholdMultiplier_zero 0, if_pos rfl]
      exact (thresholdMultiplier value' 0).2.2
    · have hne : value' ≠ 0 := (hvaluePos.trans_le hle).ne'
      rw [thresholdMultiplier_zero value', if_neg hne]
      exact (thresholdMultiplier value 0).2.1
  · rw [thresholdMultiplier_of_pos hvalue hpos, thresholdMultiplier_of_pos (hvalue.trans hle) hpos]
    have hratio : value / threshold ≤ value' / threshold := div_le_div_of_nonneg_right hle hpos.le
    exact max_le_max (le_refl 0) (by linarith)

/-- A multiplier of zero has a value to blame. -/
theorem pos_of_thresholdMultiplier_eq_zero (hvalue : 0 ≤ value) (hthreshold : 0 ≤ threshold)
    (hzero : (thresholdMultiplier value threshold).val = 0) : 0 < value := by
  rcases hvalue.eq_or_lt with rfl | hpos
  · have habove : ¬ BelowMaximum 0 threshold := by
      rw [← thresholdMultiplier_pos_iff (le_refl 0) hthreshold, hzero]
      exact lt_irrefl 0
    exact absurd (hthreshold.eq_or_lt.elim (fun h => .inr ⟨rfl, h.symm⟩) .inl) habove
  · exact hpos

end Thresholds

section Runs

variable [Sha256]

/-! ## The multiplier -/

section Size

variable {expectedCost uncertainty : Decimal} {policy : StrategyDecisionPolicy}
variable {inputs : StrategySizingInputs}

theorem preRiskMultiplier_pos_iff (hcost : 0 ≤ expectedCost) (huncertainty : 0 ≤ uncertainty) :
    0 < (preRiskMultiplier expectedCost uncertainty policy inputs).val ↔
      BelowMaximum expectedCost policy.maxExpectedCost.val ∧
        BelowMaximum uncertainty policy.maxUncertainty.val ∧
        inputs.currentDrawdown.val < inputs.maxDrawdown.val := by
  have hdrawdown : 0 < (thresholdMultiplier inputs.currentDrawdown inputs.maxDrawdown).val ↔
      inputs.currentDrawdown.val < inputs.maxDrawdown.val := by
    rw [thresholdMultiplier_pos_iff inputs.currentDrawdown.2 inputs.maxDrawdown.2.le, BelowMaximum]
    exact or_iff_left fun h => inputs.maxDrawdown.2.ne' h.2
  rw [← thresholdMultiplier_pos_iff hcost policy.maxExpectedCost.2,
    ← thresholdMultiplier_pos_iff huncertainty policy.maxUncertainty.2, ← hdrawdown]
  -- a product of nonnegative factors is positive exactly when each factor is
  simp only [preRiskMultiplier, Multiplier.mul]
  constructor
  · intro hpos
    have hpair := pos_of_mul_pos_left hpos (thresholdMultiplier _ _).2.1
    exact ⟨pos_of_mul_pos_left hpair (thresholdMultiplier _ _).2.1,
      pos_of_mul_pos_right hpair (thresholdMultiplier _ _).2.1,
      pos_of_mul_pos_right hpos (mul_nonneg (thresholdMultiplier _ _).2.1
        (thresholdMultiplier _ _).2.1)⟩
  · rintro ⟨hfirst, hsecond, hthird⟩
    exact mul_pos (mul_pos hfirst hsecond) hthird

/-- The multiplier falls as cost, uncertainty and drawdown grow. -/
theorem preRiskMultiplier_antitone {expectedCost' uncertainty' : Decimal}
    {policy' : StrategyDecisionPolicy} {inputs' : StrategySizingInputs} (hcost : 0 ≤ expectedCost)
    (huncertainty : 0 ≤ uncertainty) (hmaxCost : policy'.maxExpectedCost = policy.maxExpectedCost)
    (hmaxUncertainty : policy'.maxUncertainty = policy.maxUncertainty)
    (hmaxDrawdown : inputs'.maxDrawdown = inputs.maxDrawdown)
    (hcostLe : expectedCost ≤ expectedCost') (huncertaintyLe : uncertainty ≤ uncertainty')
    (hdrawdownLe : inputs.currentDrawdown.val ≤ inputs'.currentDrawdown.val) :
    (preRiskMultiplier expectedCost' uncertainty' policy' inputs').val ≤
      (preRiskMultiplier expectedCost uncertainty policy inputs).val := by
  simp only [preRiskMultiplier, Multiplier.mul, hmaxCost, hmaxUncertainty, hmaxDrawdown]
  have hfirst := thresholdMultiplier_antitone hcost hcostLe policy.maxExpectedCost.2
  have hsecond := thresholdMultiplier_antitone huncertainty huncertaintyLe policy.maxUncertainty.2
  have hthird := thresholdMultiplier_antitone inputs.currentDrawdown.2 hdrawdownLe
    inputs.maxDrawdown.2.le
  have hpair := mul_le_mul hfirst hsecond (thresholdMultiplier _ _).2.1 (thresholdMultiplier _ _).2.1
  exact mul_le_mul hpair hthird (thresholdMultiplier _ _).2.1
    (mul_nonneg (thresholdMultiplier _ _).2.1 (thresholdMultiplier _ _).2.1)

omit [Sha256] in
/-- A block of a multiplier leaves a code. -/
theorem reductionReason_ne_nil {value threshold : Decimal} (hvalue : 0 ≤ value)
    (hthreshold : 0 ≤ threshold) (hzero : (thresholdMultiplier value threshold).val = 0)
    (block reduction : StrategySizingReasonCode) :
    reductionReason value (thresholdMultiplier value threshold) block reduction ≠ [] := by
  rw [reductionReason, if_pos (pos_of_thresholdMultiplier_eq_zero hvalue hthreshold hzero)]
  exact List.cons_ne_nil _ _

omit [Sha256] in
theorem notMem_reductionReason {code block reduction : StrategySizingReasonCode} (value : Decimal)
    (multiplier : Multiplier) (hblock : code ≠ block) (hreduction : code ≠ reduction) :
    code ∉ reductionReason value multiplier block reduction := by
  rw [reductionReason]
  split
  · split
    · exact fun h => hblock (List.mem_singleton.mp h)
    · exact fun h => hreduction (List.mem_singleton.mp h)
  · exact List.not_mem_nil

omit [Sha256] in
theorem notMem_sizingReductionReasons (cost uncertainty drawdown : Decimal)
    (costMultiplier uncertaintyMultiplier drawdownMultiplier : Multiplier) :
    StrategySizingReasonCode.noSizingInputs ∉ sizingReductionReasons cost costMultiplier uncertainty
      uncertaintyMultiplier drawdown drawdownMultiplier := by
  simp only [sizingReductionReasons, List.mem_append, not_or]
  exact ⟨⟨notMem_reductionReason _ _ nofun nofun, notMem_reductionReason _ _ nofun nofun⟩,
    notMem_reductionReason _ _ nofun nofun⟩

/-- A zero product leaves the code of the multiplier that is zero. -/
theorem sizingReductionReasons_ne_nil (hcost : 0 ≤ expectedCost) (huncertainty : 0 ≤ uncertainty)
    (hzero : (preRiskMultiplier expectedCost uncertainty policy inputs).val = 0) :
    sizingReductionReasons expectedCost (thresholdMultiplier expectedCost policy.maxExpectedCost)
      uncertainty (thresholdMultiplier uncertainty policy.maxUncertainty) inputs.currentDrawdown
      (thresholdMultiplier inputs.currentDrawdown inputs.maxDrawdown) ≠ [] := by
  simp only [preRiskMultiplier, Multiplier.mul, mul_eq_zero] at hzero
  simp only [sizingReductionReasons, ne_eq, List.append_eq_nil_iff, not_and_or]
  rcases hzero with (hfirst | hsecond) | hthird
  · exact .inl (.inl (reductionReason_ne_nil hcost policy.maxExpectedCost.2 hfirst _ _))
  · exact .inl (.inr (reductionReason_ne_nil huncertainty policy.maxUncertainty.2 hsecond _ _))
  · exact .inr (reductionReason_ne_nil inputs.currentDrawdown.2 inputs.maxDrawdown.2.le hthird _ _)

/-! ## Proposals -/

omit [Sha256] in
theorem makeProposal_eq_ok_iff (p s : StrategySizingProposal) :
    makeProposal p = .ok s ↔ p.validate = .ok () ∧ p = s := by
  simp only [makeProposal, check_bind_eq_ok_iff]
  exact and_congr_right fun _ => Except.ok.injEq p s ▸ Iff.rfl

omit [Sha256] in
theorem blockedProposal_valid {reasonCodes : List StrategySizingReasonCode}
    (multiplier : Multiplier) (hcodes : reasonCodes ≠ [])
    (hinputs : StrategySizingReasonCode.noSizingInputs ∉ reasonCodes) :
    (blockedProposal inputs reasonCodes multiplier).validate = .ok () := by
  simp [StrategySizingProposal.validate, blockedProposal, require_of, hcodes, hinputs,
    StrategySizingProposal.HasPositiveSize, StrategySizingProposal.HasZeroSize, ok_bind]

omit [Sha256] in
theorem positiveProposal_valid {reasonCodes : List StrategySizingReasonCode}
    {multiplier : Multiplier} (hbudget : 0 < inputs.riskBudgetNotional.val)
    (hmultiplier : 0 < multiplier.val)
    (hinputs : StrategySizingReasonCode.noSizingInputs ∉ reasonCodes) :
    (positiveProposal inputs reasonCodes multiplier).validate = .ok () := by
  have hnotional := mul_pos hbudget hmultiplier
  have hquantity := div_pos hnotional inputs.referencePrice.2
  simp [StrategySizingProposal.validate, positiveProposal, require_of, hinputs, hnotional,
    hquantity, hmultiplier, StrategySizingProposal.HasPositiveSize, ok_bind]

end Size

/-- What a proposal says about its action: a purchase with inputs is sized by the budget times the
multiplier, and anything else is of zero size. -/
structure SizedFor (action : StrategyDecisionAction) (expectedCost uncertainty : Decimal)
    (policy : StrategyDecisionPolicy) (sizingInputs : Option StrategySizingInputs)
    (s : StrategySizingProposal) : Prop where
  valid : s.validate = .ok ()
  carries : s.sizingInputs = sizingInputs
  zero_without_trade : action = .noTrade → s.HasZeroSize
  notional : action = .buy → ∀ inputs ∈ sizingInputs, s.proposedNotional.val =
    inputs.riskBudgetNotional.val * (preRiskMultiplier expectedCost uncertainty policy inputs).val
  quantity : ∀ inputs ∈ sizingInputs,
    s.proposedQuantity.val = s.proposedNotional.val / inputs.referencePrice.val
  pending : 0 < s.proposedNotional.val → s.sizingStatus = .proposedPendingIndependentRisk

section Proposals

variable {expectedCost uncertainty : Decimal} {policy : StrategyDecisionPolicy}
variable {inputs : StrategySizingInputs} {reasonCodes : List StrategySizingReasonCode}

theorem sizedFor_blockedProposal {action : StrategyDecisionAction} (multiplier : Multiplier)
    (hcodes : reasonCodes ≠ [])
    (hinputs : StrategySizingReasonCode.noSizingInputs ∉ reasonCodes)
    (hzero : action = .buy → inputs.riskBudgetNotional.val *
      (preRiskMultiplier expectedCost uncertainty policy inputs).val = 0) :
    SizedFor action expectedCost uncertainty policy (some inputs)
      (blockedProposal inputs reasonCodes multiplier) where
  valid := blockedProposal_valid multiplier hcodes hinputs
  carries := rfl
  zero_without_trade _ := ⟨rfl, rfl⟩
  notional := by
    intro hbuy given hgiven
    obtain rfl := Option.mem_some_iff.mp hgiven
    exact (hzero hbuy).symm
  quantity _ _ := (zero_div _).symm
  pending hpos := absurd hpos (lt_irrefl _)

theorem sizedFor_positiveProposal (hbudget : inputs.riskBudgetNotional.val ≠ 0)
    (hmultiplier : (preRiskMultiplier expectedCost uncertainty policy inputs).val ≠ 0)
    (hinputs : StrategySizingReasonCode.noSizingInputs ∉ reasonCodes) :
    SizedFor .buy expectedCost uncertainty policy (some inputs) (positiveProposal inputs reasonCodes
      (preRiskMultiplier expectedCost uncertainty policy inputs)) where
  valid := positiveProposal_valid (inputs.riskBudgetNotional.2.lt_of_ne' hbudget)
    ((preRiskMultiplier _ _ _ _).2.1.lt_of_ne' hmultiplier) hinputs
  carries := rfl
  zero_without_trade := nofun
  notional := by
    intro _ given hgiven
    obtain rfl := Option.mem_some_iff.mp hgiven
    rfl
  quantity := by
    intro given hgiven
    obtain rfl := Option.mem_some_iff.mp hgiven
    rfl
  pending _ := rfl

end Proposals

/-- A proposal can always be made. -/
theorem exists_proposePreRiskSize (action : StrategyDecisionAction)
    (reasonCode : StrategyDecisionReasonCode) {expectedCost uncertainty : Decimal}
    (policy : StrategyDecisionPolicy) (sizingInputs : Option StrategySizingInputs)
    (hcost : 0 ≤ expectedCost) (huncertainty : 0 ≤ uncertainty) : ∃ s,
    proposePreRiskSize action reasonCode expectedCost uncertainty policy sizingInputs = .ok s ∧
      SizedFor action expectedCost uncertainty policy sizingInputs s := by
  have hmade : ∀ {p : StrategySizingProposal},
      SizedFor action expectedCost uncertainty policy sizingInputs p →
      ∃ s, makeProposal p = .ok s ∧
        SizedFor action expectedCost uncertainty policy sizingInputs s :=
    fun hp => ⟨_, (makeProposal_eq_ok_iff _ _).mpr ⟨hp.valid, rfl⟩, hp⟩
  cases sizingInputs with
  | none =>
      exact hmade ⟨rfl, rfl, fun _ => ⟨rfl, rfl⟩, nofun, nofun,
        fun hpos => absurd hpos (lt_irrefl _)⟩
  | some inputs =>
      cases action with
      | noTrade =>
          have hreason : StrategySizingReasonCode.noSizingInputs ∉
              [sizingBlockReason reasonCode] := by
            cases reasonCode <;> exact fun h => nomatch List.mem_singleton.mp h
          exact hmade (sizedFor_blockedProposal .zero (List.cons_ne_nil _ _) hreason nofun)
      | buy =>
          simp only [proposePreRiskSize, reduceCtorEq, if_false]
          by_cases hbudget : inputs.riskBudgetNotional.val = 0
          · rw [if_pos hbudget]
            exact hmade (sizedFor_blockedProposal .zero (List.cons_ne_nil _ _)
              (fun h => nomatch List.mem_singleton.mp h) fun _ => by rw [hbudget, zero_mul])
          rw [if_neg hbudget]
          have hcodes := notMem_sizingReductionReasons
          by_cases hzero : (preRiskMultiplier expectedCost uncertainty policy inputs).val = 0
          · rw [if_pos hzero]
            exact hmade (sizedFor_blockedProposal _
              (sizingReductionReasons_ne_nil hcost huncertainty hzero) (hcodes _ _ _ _ _ _)
              fun _ => by rw [hzero, mul_zero])
          · rw [if_neg hzero]
            exact hmade (sizedFor_positiveProposal hbudget hzero (hcodes _ _ _ _ _ _))

end Runs

end TaModel.Strategy
