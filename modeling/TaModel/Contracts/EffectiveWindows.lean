import TaModel.Contracts.InstrumentMaster
import TaModel.Library.HalfOpenWindows
import Mathlib.Data.List.Dedup

/-!
# Effective windows

`_raise_on_overlapping_effective_windows` sorts the windows of one key by their start and compares
neighbours. It accepts exactly the records whose windows are pairwise disjoint
(`raiseOnOverlappingEffectiveWindows_eq_ok_iff`).
-/

set_option autoImplicit false

namespace TaModel.Contracts

open Library

namespace EffectiveWindow

/-- The end of a window, infinite when it is open. -/
def stop (w : EffectiveWindow) : WithTop AwareDatetime :=
  match w.effectiveTo with
  | none => ⊤
  | some t => t

theorem start_lt_stop (w : EffectiveWindow) : (w.effectiveFrom : WithTop AwareDatetime) < w.stop := by
  unfold stop
  split
  · exact WithTop.coe_lt_top _
  · rename_i t ht
    exact WithTop.coe_lt_coe.mpr (w.ends_after_start t ht)

/-- The instants at which a record is in force. -/
def instants (w : EffectiveWindow) : Set AwareDatetime :=
  window effectiveFrom stop w

theorem isEffective_iff (w : EffectiveWindow) (t : AwareDatetime) :
    w.isEffective t = true ↔ t ∈ w.instants := by
  simp only [isEffective, instants, window, stop, Set.mem_ofPred_eq, Bool.and_eq_true,
    decide_eq_true_eq]
  cases w.effectiveTo with
  | none => simp
  | some e => simp

/-- `sorted(windows, key=...)` compares starts. -/
def startsNoLater (a b : EffectiveWindow) : Prop := a.effectiveFrom ≤ b.effectiveFrom

instance : DecidableRel startsNoLater := fun a b =>
  inferInstanceAs (Decidable (a.effectiveFrom ≤ b.effectiveFrom))

instance : IsTrans EffectiveWindow startsNoLater := ⟨fun _ _ _ hab hbc => le_trans hab hbc⟩

instance : Std.Total startsNoLater := ⟨fun a b => Int.le_total a.effectiveFrom.utc b.effectiveFrom.utc⟩

end EffectiveWindow

/-- The loop over sorted windows compares neighbours. -/
theorem adjacentWindowsDisjoint_iff {windows : List EffectiveWindow}
    (hsorted : windows.Pairwise EffectiveWindow.startsNoLater) :
    adjacentWindowsDisjoint windows = true ↔
      windows.IsChain (Follows EffectiveWindow.effectiveFrom EffectiveWindow.stop) := by
  induction windows with
  | nil => simp [adjacentWindowsDisjoint]
  | cons previous rest ih =>
      obtain ⟨hhead, hrest⟩ := List.pairwise_cons.mp hsorted
      cases rest with
      | nil => simp [adjacentWindowsDisjoint]
      | cons current rest =>
          have hle := hhead current List.mem_cons_self
          rw [adjacentWindowsDisjoint, Bool.and_eq_true, ih hrest, List.isChain_cons_cons]
          refine and_congr_left fun _ => ?_
          unfold Follows EffectiveWindow.stop
          cases previous.effectiveTo with
          | none => simp
          | some previousEnd =>
              simp only [decide_eq_true_eq, WithTop.coe_lt_coe]
              exact ⟨fun h => ⟨hle, Int.not_lt.mpr h⟩, fun h => Int.not_lt.mp h.2⟩

/-- The check of one key. -/
theorem adjacentWindowsDisjoint_insertionSort_iff (windows : List EffectiveWindow) :
    adjacentWindowsDisjoint
        (windows.insertionSort fun a b => a.effectiveFrom ≤ b.effectiveFrom) = true ↔
      windows.Pairwise fun a b => Disjoint a.instants b.instants := by
  have hsorted := List.pairwise_insertionSort EffectiveWindow.startsNoLater windows
  have hperm := List.perm_insertionSort EffectiveWindow.startsNoLater windows
  rw [← hperm.pairwise_iff fun hdisjoint => Disjoint.symm hdisjoint]
  exact (adjacentWindowsDisjoint_iff hsorted).trans
    (isChain_iff_pairwise_disjoint hsorted fun w _ => w.start_lt_stop)

/-- The check accepts exactly when the windows of every two records with the same key are
disjoint. -/
theorem raiseOnOverlappingEffectiveWindows_eq_ok_iff (records : List (String × EffectiveWindow))
    (label : String) :
    raiseOnOverlappingEffectiveWindows records label = .ok () ↔
      records.Pairwise fun a b => a.1 = b.1 → Disjoint a.2.instants b.2.instants := by
  have hkey : ∀ key, ((records.filter fun r => r.1 == key).map Prod.snd).Pairwise
        (fun a b => Disjoint a.instants b.instants) ↔
      records.Pairwise fun a b => a.1 = key → b.1 = key →
        Disjoint a.2.instants b.2.instants := by
    intro key
    rw [List.pairwise_map, List.pairwise_filter]
    simp only [beq_iff_eq]
  simp only [raiseOnOverlappingEffectiveWindows, forM_eq_ok_iff, require_eq_ok_iff,
    adjacentWindowsDisjoint_insertionSort_iff, hkey]
  constructor
  · intro h
    -- two records with the same key are compared under that key
    rw [List.pairwise_iff_getElem]
    intro i j hi hj hij heq
    have hmem : records[i].1 ∈ (records.map Prod.fst).dedup :=
      List.mem_dedup.mpr (List.mem_map_of_mem (List.getElem_mem hi))
    exact List.pairwise_iff_getElem.mp (h _ hmem) i j hi hj hij rfl heq.symm
  · intro h key _
    exact h.imp fun hdisjoint ha hb => hdisjoint (ha.trans hb.symm)

/-- One constraint of an instrument is in force at most. -/
theorem InstrumentMasterSnapshot.effective_constraints_le_one {s : InstrumentMasterSnapshot}
    (h : s.validateReferences = .ok ()) (instrumentId : String) (t : AwareDatetime) :
    (s.instrumentConstraints.filter fun c =>
      c.instrumentId == instrumentId && c.window.isEffective t).length ≤ 1 := by
  simp only [InstrumentMasterSnapshot.validateReferences, check_bind_eq_ok_iff] at h
  obtain ⟨-, -, -, -, -, -, -, -, hwindows, -⟩ := h
  rw [raiseOnOverlappingEffectiveWindows_eq_ok_iff, List.pairwise_map] at hwindows
  refine @length_filter_le_one _ _ _ (fun c : InstrumentConstraint => c.window.effectiveFrom)
    (fun c => c.window.stop) _ _ t ?_ ?_
  · refine hwindows.imp fun hdisjoint ha hb => hdisjoint ?_
    simp only [Bool.and_eq_true, beq_iff_eq] at ha hb
    exact ha.1.trans hb.1.symm
  · intro c _ hc
    rw [Bool.and_eq_true] at hc
    exact (c.window.isEffective_iff t).mp hc.2

end TaModel.Contracts
