import Mathlib.Data.List.Forall2

/-!
# Lists of which only part is disclosed

Two lists agree item by item on what is disclosed of them, and go on with items of which nothing
is. `map_eq_of_hidden` says that their values are the same once those of the hidden items are: what
is disclosed and what is hidden make up the list.
-/

set_option autoImplicit false

namespace TaModel.Library

universe u v w

variable {α : Type u} {β : Type v}

/-- A list whose items stop passing a test once one of them fails it is its passing items followed
by the others. -/
theorem filter_append_filter_not {p : α → Bool} {xs : List α}
    (h : xs.Pairwise fun x y => p y = true → p x = true) :
    xs.filter p ++ xs.filter (fun x => !p x) = xs := by
  induction xs with
  | nil => rfl
  | cons x xs ih =>
      obtain ⟨hhead, htail⟩ := List.pairwise_cons.mp h
      cases hx : p x with
      | true =>
          rw [List.filter_cons_of_pos hx, List.filter_cons_of_neg (by simp [hx]), List.cons_append,
            ih htail]
      | false =>
          -- after `x` nothing passes any more
          have hnone : xs.filter p = [] := by
            rw [List.filter_eq_nil_iff]
            intro y hy hpy
            exact absurd (hhead y hy hpy) (by simp [hx])
          have hrest := ih htail
          rw [hnone, List.nil_append] at hrest
          rw [List.filter_cons_of_neg (by simp [hx]), List.filter_cons_of_pos (by simp [hx]), hnone,
            hrest, List.nil_append]

section Related

variable {R : α → β → Prop}

/-- A loop over related items that each give the same result gives the same results. -/
theorem mapM_eq_of_forall₂ {m : Type w → Type w} [Monad m] [LawfulMonad m] {γ : Type w}
    {f : α → m γ} {g : β → m γ} {xs : List α} {ys : List β} (h : List.Forall₂ R xs ys)
    (hfg : ∀ x y, R x y → f x = g y) : xs.mapM f = ys.mapM g := by
  induction h with
  | nil => simp
  | cons hxy _ ih => rw [List.mapM_cons, List.mapM_cons, hfg _ _ hxy, ih]

variable {γ : Type w} {hidden : α → Bool} {hidden' : β → Bool} {value : α → γ} {value' : β → γ}

/-- Related items are hidden together and show the same value otherwise; what follows them is
hidden. Then equal hidden values make all values equal. -/
theorem map_eq_of_hidden {xs rest : List α} {ys rest' : List β} (h : List.Forall₂ R xs ys)
    (hR : ∀ x y, R x y → hidden x = hidden' y ∧ (hidden x = false → value x = value' y))
    (hrest : ∀ x ∈ rest, hidden x = true) (hrest' : ∀ y ∈ rest', hidden' y = true)
    (heq : ((xs ++ rest).filter hidden).map value = ((ys ++ rest').filter hidden').map value') :
    (xs ++ rest).map value = (ys ++ rest').map value' := by
  induction h with
  | nil =>
      rwa [List.nil_append, List.nil_append, List.filter_eq_self.mpr hrest,
        List.filter_eq_self.mpr hrest'] at heq
  | @cons x y xs ys hxy _ ih =>
      obtain ⟨hhidden, hshown⟩ := hR x y hxy
      rw [List.cons_append, List.cons_append] at heq ⊢
      rw [List.map_cons, List.map_cons]
      cases hx : hidden x with
      | true =>
          -- both heads are hidden, so their values head the hidden values
          rw [List.filter_cons_of_pos hx, List.filter_cons_of_pos (hhidden ▸ hx), List.map_cons,
            List.map_cons] at heq
          obtain ⟨hvalue, htail⟩ := List.cons.inj heq
          rw [hvalue, ih htail]
      | false =>
          have hy : hidden' y = false := hhidden ▸ hx
          rw [List.filter_cons_of_neg (by simp [hx]), List.filter_cons_of_neg (by simp [hy])] at heq
          rw [hshown hx, ih heq]

end Related

end TaModel.Library
