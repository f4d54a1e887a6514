import Mathlib.Data.List.MinMax

/-!
# The first of several greatest items

A scan that replaces its best item only by a greater one returns the first of the greatest items of
a list, which Mathlib calls `List.argmax`. Which of several greatest items that is depends on the
order of the list; what does not is their key, and whatever they have in common.
-/

set_option autoImplicit false

namespace TaModel.Library

universe u v w

variable {α : Type u} {κ : Type v} [LinearOrder κ] {key : α → κ}

/-- The scan of a nonempty list is `argmax`. -/
theorem argmax_cons_eq_foldl (key : α → κ) (first : α) (rest : List α) :
    (first :: rest).argmax key =
      some (rest.foldl (fun best a => if key best < key a then a else best) first) := by
  induction rest using List.reverseRecOn with
  | nil => rfl
  | append_singleton rest a ih =>
      rw [← List.cons_append, List.argmax_concat, ih, List.foldl_append]
      simp only [List.foldl_cons, List.foldl_nil]
      split_ifs <;> rfl

/-- An item of the list that no item exceeds. -/
def IsTop (key : α → κ) (l : List α) (a : α) : Prop := a ∈ l ∧ ∀ b ∈ l, key b ≤ key a

theorem isTop_of_argmax {l : List α} {a : α} (h : l.argmax key = some a) : IsTop key l a :=
  ⟨List.argmax_mem h, fun _ hb => List.le_of_mem_argmax hb h⟩

theorem exists_isTop_iff (key : α → κ) {l : List α} : (∃ a, IsTop key l a) ↔ l ≠ [] := by
  constructor
  · rintro ⟨a, ha, -⟩
    exact List.ne_nil_of_mem ha
  · intro hne
    have hsome : l.argmax key ≠ none := fun hnone => hne (List.argmax_eq_none.mp hnone)
    obtain ⟨a, ha⟩ := Option.ne_none_iff_exists'.mp hsome
    exact ⟨a, isTop_of_argmax ha⟩

/-- A greatest item in front is the first one. -/
theorem argmax_cons_of_isTop {l : List α} {a : α} (h : IsTop key (a :: l) a) :
    (a :: l).argmax key = some a := by
  rw [List.argmax_cons]
  cases hmax : l.argmax key with
  | none => rfl
  | some b =>
      have hb := List.mem_cons_of_mem a (List.argmax_mem hmax)
      exact if_neg (h.2 b hb).not_gt

/-- Lists with the same greatest items have the same first one, up to what greatest items have in
common. -/
theorem argmax_map_eq {β : Type w} {view : α → β} {l l' : List α}
    (htop : ∀ a, IsTop key l' a ↔ IsTop key l a)
    (hties : ∀ a b, IsTop key l a → IsTop key l b → view a = view b) :
    (l'.argmax key).map view = (l.argmax key).map view := by
  cases hmax : l.argmax key with
  | none =>
      have hnil : l' = [] := by
        by_contra hne
        obtain ⟨a, ha⟩ := (exists_isTop_iff key).mpr hne
        exact (exists_isTop_iff key).mp ⟨a, (htop a).mp ha⟩ (List.argmax_eq_none.mp hmax)
      rw [hnil]
      rfl
  | some a =>
      have ha := isTop_of_argmax hmax
      cases hmax' : l'.argmax key with
      | none => exact absurd (List.argmax_eq_none.mp hmax') ((exists_isTop_iff key).mp ⟨a, (htop a).mpr ha⟩)
      | some b =>
          have hb := (htop b).mp (isTop_of_argmax hmax')
          exact congrArg some (hties b a hb ha)

end TaModel.Library
