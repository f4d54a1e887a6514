import Mathlib.Algebra.BigOperators.Group.Multiset.Basic
import Mathlib.Algebra.Order.BigOperators.Group.List
import Mathlib.Algebra.Order.Field.Basic
import Mathlib.Data.Rat.Floor
import Mathlib.Tactic.Linarith

/-!
# Means of the smallest values of a list

The first values of a sorted list have the least sum among all selections of that size
(`sum_take_le`), and their mean grows with the number of values taken (`mean_take_mono`).
-/

set_option autoImplicit false

namespace TaModel.Library

universe u

variable {α : Type u} [Field α] [LinearOrder α] [IsStrictOrderedRing α]

/-- The mean of a selection of values. -/
def multisetMean (values : Multiset α) : α := values.sum / values.card

/-- No selection has a smaller sum than the first values of a sorted list. -/
theorem sum_take_le {l : List α} (hsorted : l.Pairwise (· ≤ ·)) {tail : Multiset α}
    (htail : tail ≤ (l : Multiset α)) : (l.take tail.card).sum ≤ tail.sum := by
  induction l generalizing tail with
  | nil =>
      rw [Multiset.coe_nil, Multiset.le_zero] at htail
      rw [htail]
      rfl
  | cons a l ih =>
      obtain ⟨hhead, hrest⟩ := List.pairwise_cons.mp hsorted
      rw [← Multiset.cons_coe] at htail
      by_cases ha : a ∈ tail
      · obtain ⟨rest, rfl⟩ := Multiset.exists_cons_of_mem ha
        have hle := (Multiset.cons_le_cons_iff a).mp htail
        rw [Multiset.card_cons, List.take_succ_cons, List.sum_cons, Multiset.sum_cons]
        exact add_le_add_right (ih hrest hle) a
      · -- the selection leaves out the smallest value: any of its values can be exchanged for it
        have hle := (Multiset.le_cons_of_notMem ha).mp htail
        rcases Multiset.empty_or_exists_mem tail with rfl | ⟨b, hb⟩
        · rfl
        · have hab := hhead b (Multiset.mem_coe.mp (Multiset.mem_of_le hle hb))
          obtain ⟨rest, rfl⟩ := Multiset.exists_cons_of_mem hb
          have hrest_le := le_trans (Multiset.le_cons_self rest b) hle
          rw [Multiset.card_cons, List.take_succ_cons, List.sum_cons, Multiset.sum_cons]
          exact add_le_add hab (ih hrest hrest_le)

/-- The first values of a sorted list sum to at most as many times the next one. -/
theorem sum_take_le_mul {l : List α} (hsorted : l.Pairwise (· ≤ ·)) {k : ℕ} (hk : k < l.length) :
    (l.take k).sum ≤ k * l[k] := by
  have hbound : ∀ a ∈ l.take k, a ≤ l[k] := by
    intro a ha
    obtain ⟨i, hi, rfl⟩ := List.mem_take_iff_getElem.mp ha
    have hik : i < k := lt_of_lt_of_le hi (min_le_left k l.length)
    exact List.pairwise_iff_getElem.mp hsorted i k (hik.trans hk) hk hik
  have hsum := List.sum_le_card_nsmul (l.take k) l[k] hbound
  rwa [List.length_take_of_le hk.le, nsmul_eq_mul] at hsum

/-- One value more does not lower the mean. -/
theorem mean_take_succ {l : List α} (hsorted : l.Pairwise (· ≤ ·)) {k : ℕ} (hpos : 0 < k)
    (hk : k < l.length) : (l.take k).sum / k ≤ (l.take (k + 1)).sum / (k + 1 : ℕ) := by
  have hk_pos : (0 : α) < k := Nat.cast_pos.mpr hpos
  have hsucc_pos : (0 : α) < (k + 1 : ℕ) := Nat.cast_pos.mpr k.succ_pos
  have hnext := sum_take_le_mul hsorted hk
  rw [div_le_div_iff₀ hk_pos hsucc_pos, List.sum_take_succ l k hk, Nat.cast_succ]
  calc (l.take k).sum * (k + 1) = (l.take k).sum * k + (l.take k).sum := by ring
    _ ≤ (l.take k).sum * k + k * l[k] := by linarith
    _ = ((l.take k).sum + l[k]) * k := by ring

theorem mean_take_mono {l : List α} (hsorted : l.Pairwise (· ≤ ·)) {i j : ℕ} (hpos : 0 < i)
    (hij : i ≤ j) (hj : j ≤ l.length) : (l.take i).sum / i ≤ (l.take j).sum / j := by
  induction j, hij using Nat.le_induction with
  | base => exact le_refl _
  | succ j hij ih =>
      exact le_trans (ih (Nat.le_of_succ_le hj)) (mean_take_succ hsorted (hpos.trans_le hij) hj)

end TaModel.Library
