import Mathlib.Algebra.Order.Field.Basic
import Mathlib.Data.Set.Image
import Mathlib.Order.Bounds.Basic
import Mathlib.Order.Interval.Set.Basic
import Mathlib.Tactic.Linarith

/-!
# Drawdowns of a sequence of levels

The deepest drawdown of a sequence is a minimum over all pairs of an earlier and a later level. One
pass computes it: the running peak gives the deepest drop to the level just reached
(`TracksDrop.succ`).
-/

set_option autoImplicit false

namespace TaModel.Library

universe u

variable {α : Type u} [Field α] [LinearOrder α]

/-- The returns from a positive level among the first `n + 1` to the same or a later one. -/
def drops (level : ℕ → α) (n : ℕ) : Set α :=
  {d | ∃ i j, i ≤ j ∧ j ≤ n ∧ 0 < level i ∧ level j / level i - 1 = d}

/-- A peak and a drawdown are those of the first `n + 1` levels. -/
structure TracksDrop (level : ℕ → α) (n : ℕ) (peak worst : α) : Prop where
  isGreatest_peak : IsGreatest (Set.image level (Set.Iic n)) peak
  isLeast_worst : IsLeast (drops level n) worst

variable {level : ℕ → α} {n : ℕ} {peak worst : α}

theorem drops_mono {m : ℕ} (h : m ≤ n) : drops level m ⊆ drops level n := by
  rintro d ⟨i, j, hij, hj, hpos, hd⟩
  exact ⟨i, j, hij, hj.trans h, hpos, hd⟩

/-- A new drop ends at the new level. -/
theorem mem_drops_succ {d : α} (h : d ∈ drops level (n + 1)) :
    d ∈ drops level n ∨ ∃ i ≤ n + 1, 0 < level i ∧ level (n + 1) / level i - 1 = d := by
  obtain ⟨i, j, hij, hj, hpos, hd⟩ := h
  rcases Nat.le_succ_iff.mp hj with hold | rfl
  · exact .inl ⟨i, j, hij, hold, hpos, hd⟩
  · exact .inr ⟨i, hij, hpos, hd⟩

omit [Field α] in
theorem isGreatest_image_Iic_succ (h : IsGreatest (Set.image level (Set.Iic n)) peak) :
    IsGreatest (Set.image level (Set.Iic (n + 1))) (max peak (level (n + 1))) := by
  obtain ⟨⟨i, hi, hpeak⟩, hupper⟩ := h
  constructor
  · rcases max_choice peak (level (n + 1)) with hm | hm
    · exact ⟨i, le_trans hi n.le_succ, hpeak.trans hm.symm⟩
    · exact ⟨n + 1, le_refl (n + 1), hm.symm⟩
  · rintro _ ⟨j, hj, rfl⟩
    rcases Nat.le_succ_iff.mp hj with hold | rfl
    · exact le_trans (hupper ⟨j, hold, rfl⟩) (le_max_left _ _)
    · exact le_max_right _ _

theorem TracksDrop.zero (hpos : 0 < level 0) : TracksDrop level 0 (level 0) 0 := by
  refine ⟨⟨⟨0, le_refl 0, rfl⟩, ?_⟩, ⟨0, 0, le_refl 0, le_refl 0, hpos, ?_⟩, ?_⟩
  · rintro _ ⟨i, hi, rfl⟩
    rw [Nat.le_zero.mp hi]
  · rw [div_self hpos.ne', sub_self]
  · rintro d ⟨i, j, hij, hj, -, rfl⟩
    obtain rfl := Nat.le_zero.mp hj
    obtain rfl := Nat.le_zero.mp hij
    rw [div_self hpos.ne', sub_self]

/-- The running peak stays positive. -/
theorem TracksDrop.peak_pos (h : TracksDrop level n peak worst) (hpos : 0 < level 0) :
    0 < peak :=
  lt_of_lt_of_le hpos (h.isGreatest_peak.2 ⟨0, Nat.zero_le n, rfl⟩)

theorem TracksDrop.worst_nonpos (h : TracksDrop level n peak worst) (hpos : 0 < level 0) :
    worst ≤ 0 :=
  h.isLeast_worst.2 ⟨0, 0, le_refl 0, Nat.zero_le n, hpos, by rw [div_self hpos.ne', sub_self]⟩

variable [IsStrictOrderedRing α]

/-- The deepest drop to a level starts at the greatest level so far. -/
theorem drop_peak_le {top a b : α} (ha : 0 < a) (htop : a ≤ top) (hb : 0 ≤ b) :
    b / top - 1 ≤ b / a - 1 :=
  sub_le_sub_right (div_le_div_of_nonneg_left hb ha htop) 1

/-- One level more. -/
theorem TracksDrop.succ (h : TracksDrop level n peak worst) (hpos : 0 < level 0)
    (hnonneg : 0 ≤ level (n + 1)) :
    TracksDrop level (n + 1) (max peak (level (n + 1)))
      (min worst (level (n + 1) / max peak (level (n + 1)) - 1)) := by
  have hgreatest := isGreatest_image_Iic_succ h.isGreatest_peak
  have htop : 0 < max peak (level (n + 1)) := lt_of_lt_of_le (h.peak_pos hpos) (le_max_left _ _)
  refine ⟨hgreatest, ?_, ?_⟩
  · rcases min_choice worst (level (n + 1) / max peak (level (n + 1)) - 1) with hm | hm
    · rw [hm]
      exact drops_mono n.le_succ h.isLeast_worst.1
    · -- the new drop starts where the peak was reached
      rw [hm]
      obtain ⟨i, hi, hpeak⟩ := hgreatest.1
      exact ⟨i, n + 1, hi, le_refl (n + 1), hpeak ▸ htop, by rw [hpeak]⟩
  · intro d hd
    rcases mem_drops_succ hd with hold | ⟨i, hi, hi_pos, rfl⟩
    · exact le_trans (min_le_left _ _) (h.isLeast_worst.2 hold)
    · exact le_trans (min_le_right _ _)
        (drop_peak_le hi_pos (hgreatest.2 ⟨i, hi, rfl⟩) hnonneg)

theorem TracksDrop.neg_one_le_worst (h : TracksDrop level n peak worst)
    (hnonneg : ∀ i ≤ n, 0 ≤ level i) : -1 ≤ worst := by
  obtain ⟨i, j, -, hj, hpos, rfl⟩ := h.isLeast_worst.1
  have hquotient : 0 ≤ level j / level i := div_nonneg (hnonneg j hj) hpos.le
  linarith

end TaModel.Library
