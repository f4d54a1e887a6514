import TaModel.Contracts.EffectiveWindows
import TaModel.Risk.CapFeasibility

/-!
# Constraint lookups

The risk engine reads the constraint in force at snapshot time and the replay the one in force at
the open of the fill bar; both reject when there is not exactly one. In a valid snapshot the windows
of an instrument are disjoint, so a constraint in force is the one that is found.
-/

set_option autoImplicit false

namespace TaModel.Risk

open Contracts Simulation

/-- The constraints of an instrument in force at an instant. -/
def effectiveConstraints (snapshot : InstrumentMasterSnapshot) (instrumentId : String)
    (t : AwareDatetime) : List InstrumentConstraint :=
  snapshot.instrumentConstraints.filter fun c =>
    c.instrumentId == instrumentId && c.window.isEffective t

theorem mem_effectiveConstraints {snapshot : InstrumentMasterSnapshot} {instrumentId : String}
    {t : AwareDatetime} {c : InstrumentConstraint} :
    c ∈ effectiveConstraints snapshot instrumentId t ↔
      c ∈ snapshot.instrumentConstraints ∧ c.instrumentId = instrumentId ∧
        c.window.isEffective t = true := by
  rw [effectiveConstraints, List.mem_filter, Bool.and_eq_true, beq_iff_eq]

/-- In a valid snapshot a constraint in force is the only one. -/
theorem effectiveConstraints_eq_singleton {snapshot : InstrumentMasterSnapshot}
    (h : snapshot.validateReferences = .ok ()) {t : AwareDatetime} {c : InstrumentConstraint}
    (hc : c ∈ snapshot.instrumentConstraints) (ht : c.window.isEffective t = true) :
    effectiveConstraints snapshot c.instrumentId t = [c] := by
  have hmem : c ∈ effectiveConstraints snapshot c.instrumentId t :=
    mem_effectiveConstraints.mpr ⟨hc, rfl, ht⟩
  have hlength : (effectiveConstraints snapshot c.instrumentId t).length = 1 :=
    le_antisymm (snapshot.effective_constraints_le_one h c.instrumentId t)
      (List.length_pos_of_mem hmem)
  obtain ⟨found, hfound⟩ := List.length_eq_one_iff.mp hlength
  rw [hfound] at hmem ⊢
  rw [List.mem_singleton.mp hmem]

theorem constraintRejectReason_of_singleton {snapshot : InstrumentMasterSnapshot}
    {intent : OrderIntent} {t : AwareDatetime} {c : InstrumentConstraint} (price : Decimal)
    (h : effectiveConstraints snapshot intent.instrumentId t = [c]) :
    constraintRejectReason intent snapshot price t =
      if (c.evaluateOrder price intent.quantity.val).passed then none
      else some .constraintViolation := by
  have hfilter : (snapshot.instrumentConstraints.filter fun c =>
      c.instrumentId == intent.instrumentId && c.window.isEffective t) = [c] := h
  rw [constraintRejectReason, hfilter]

/-- The overlap check accepts exactly the records whose windows are disjoint for every two records
with the same key. In a valid snapshot an instrument therefore has one constraint in force at most,
and a constraint in force is the one the engine and the replay look at. -/
theorem effective_windows_disjoint :
    (∀ (records : List (String × EffectiveWindow)) (label : String),
      raiseOnOverlappingEffectiveWindows records label = .ok () ↔
        records.Pairwise fun a b => a.1 = b.1 →
          Disjoint {t | a.2.effectiveFrom ≤ t ∧ ∀ stop ∈ a.2.effectiveTo, t < stop}
            {t | b.2.effectiveFrom ≤ t ∧ ∀ stop ∈ b.2.effectiveTo, t < stop}) ∧
    ∀ snapshot : InstrumentMasterSnapshot, snapshot.validateReferences = .ok () →
      (∀ instrumentId t, (effectiveConstraints snapshot instrumentId t).length ≤ 1) ∧
      ∀ c ∈ snapshot.instrumentConstraints,
        (c.window.isEffective snapshot.createdAt = true →
          activeConstraint snapshot c.instrumentId = some c) ∧
        ∀ (intent : OrderIntent) (bar : OHLCTVBar), intent.instrumentId = c.instrumentId →
          c.window.isEffective bar.openTs = true →
          constraintRejectReason intent snapshot bar.openPrice.val bar.openTs =
            if (c.evaluateOrder bar.openPrice.val intent.quantity.val).passed then none
            else some .constraintViolation := by
  constructor
  · intro records label
    have hinstants : ∀ w : EffectiveWindow,
        w.instants = {t | w.effectiveFrom ≤ t ∧ ∀ stop ∈ w.effectiveTo, t < stop} := by
      intro w
      ext t
      rw [← w.isEffective_iff, Set.mem_ofPred_eq, EffectiveWindow.isEffective, Bool.and_eq_true,
        decide_eq_true_eq]
      cases w.effectiveTo with
      | none => simp
      | some stop => simp
    simp only [raiseOnOverlappingEffectiveWindows_eq_ok_iff, hinstants]
  · intro snapshot h
    refine ⟨snapshot.effective_constraints_le_one h, ?_⟩
    intro c hc
    constructor
    · intro ht
      exact (activeConstraint_eq_some_iff _ _ c).mpr (effectiveConstraints_eq_singleton h hc ht)
    · intro intent bar hid ht
      have hsingle := effectiveConstraints_eq_singleton h hc ht
      rw [← hid] at hsingle
      exact constraintRejectReason_of_singleton bar.openPrice.val hsingle

/-- The constraint of the demonstration market is in force at snapshot time. -/
theorem effective_windows_disjoint_market :
    (effectiveConstraints (marketSnapshot loosestLimits) "BTC-USD" (minute 5)).length ≤ 1 ∧
      activeConstraint (marketSnapshot loosestLimits) "BTC-USD" = some (spotConstraint "BTC") := by
  obtain ⟨hone, hlookup⟩ := effective_windows_disjoint.2 (marketSnapshot loosestLimits)
    (ok_unit_of_toBool _ (by decide))
  exact ⟨hone "BTC-USD" (minute 5),
    (hlookup (spotConstraint "BTC") List.mem_cons_self).1 (by decide)⟩

end TaModel.Risk
