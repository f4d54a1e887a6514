import Mathlib.Data.List.Sort
import Mathlib.Order.Basic

/-!
# Ranks in a list sorted by a key

The item `k` of a list whose keys increase strictly is the one with exactly `k` items of a smaller
key: position and rank are the same thing. `IsRanked k xs x` states the rank without positions.
-/

set_option autoImplicit false

namespace TaModel.Library

universe u v

variable {α : Type u} {κ : Type v} [Preorder κ] [DecidableLT κ] (key : α → κ)

/-- The item has exactly `k` items with a smaller key in the list. -/
def IsRanked (k : Nat) (xs : List α) (x : α) : Prop :=
  x ∈ xs ∧ xs.countP (fun a => decide (key a < key x)) = k

/-- In a strictly increasing list the item in front has rank zero. -/
theorem countP_cons_self_of_increasing {x : α} {xs : List α}
    (h : (x :: xs).Pairwise fun a b => key a < key b) :
    (x :: xs).countP (fun a => decide (key a < key x)) = 0 := by
  rw [List.countP_eq_zero]
  intro a ha hlt
  have hlt' : key a < key x := of_decide_eq_true hlt
  rcases List.mem_cons.mp ha with rfl | hmem
  · exact lt_irrefl _ hlt'
  · exact lt_asymm hlt' (List.rel_of_pairwise_cons h hmem)

/-- Behind the item in front every rank grows by one. -/
theorem countP_cons_of_increasing {x y : α} {xs : List α}
    (h : (x :: xs).Pairwise fun a b => key a < key b) (hy : y ∈ xs) :
    (x :: xs).countP (fun a => decide (key a < key y)) =
      xs.countP (fun a => decide (key a < key y)) + 1 := by
  have hlt : decide (key x < key y) = true := decide_eq_true (List.rel_of_pairwise_cons h hy)
  rw [List.countP_cons, if_pos hlt]

/-- Positions of a strictly increasing list are ranks. -/
theorem getElem?_eq_some_iff_isRanked {xs : List α}
    (h : xs.Pairwise fun a b => key a < key b) (k : Nat) (x : α) :
    xs[k]? = some x ↔ IsRanked key k xs x := by
  induction xs generalizing k with
  | nil => exact iff_of_false (by simp) fun hx => absurd hx.1 List.not_mem_nil
  | cons y xs ih =>
      have htail := (List.pairwise_cons.mp h).2
      cases k with
      | zero =>
          constructor
          · intro hx
            obtain rfl : y = x := Option.some.inj hx
            exact ⟨List.mem_cons_self, countP_cons_self_of_increasing key h⟩
          · rintro ⟨hmem, hcount⟩
            rcases List.mem_cons.mp hmem with rfl | hx
            · rfl
            · have hgrows := countP_cons_of_increasing key h hx
              omega
      | succ k =>
          rw [List.getElem?_cons_succ, ih htail]
          constructor
          · rintro ⟨hmem, hcount⟩
            refine ⟨List.mem_cons_of_mem y hmem, ?_⟩
            rw [countP_cons_of_increasing key h hmem, hcount]
          · rintro ⟨hmem, hcount⟩
            rcases List.mem_cons.mp hmem with rfl | hx
            · have hzero := countP_cons_self_of_increasing key h
              omega
            · refine ⟨hx, ?_⟩
              have hgrows := countP_cons_of_increasing key h hx
              omega

end TaModel.Library
