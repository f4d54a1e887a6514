import Mathlib.Data.List.Basic
import Mathlib.Data.List.Sort

/-!
# Lists and options seen through a view

Two lists may hold different items that look the same under a view `f`. When their views are
permutations of each other, whatever selects and reads items through the view only gives the same
answer on both: filters, searches for a unique item, and functions of an optional item.
-/

set_option autoImplicit false

namespace TaModel.Library

universe u v w

variable {α : Type u} {β : Type v} {γ : Type w} {f : α → β}

/-! ## Options -/

/-- A function that factors through the view maps equal views to equal values. -/
theorem map_of_view {g : α → γ} (hg : ∀ a b, f a = f b → g a = g b) {x y : Option α}
    (h : x.map f = y.map f) : x.map g = y.map g := by
  cases x with
  | none =>
      cases y with
      | none => rfl
      | some b => cases h
  | some a =>
      cases y with
      | none => cases h
      | some b => exact congrArg some (hg a b (Option.some.inj h))

theorem isSome_of_view {x y : Option α} (h : x.map f = y.map f) : x.isSome = y.isSome := by
  have hsome := congrArg Option.isSome h
  rwa [Option.isSome_map, Option.isSome_map] at hsome

/-- A test that factors through the view gives the same answer on equal views. -/
theorem any_of_view {p : α → Bool} (hp : ∀ a b, f a = f b → p a = p b) {x y : Option α}
    (h : x.map f = y.map f) : x.any p = y.any p := by
  have hmap := map_of_view hp h
  cases x with
  | none =>
      cases y with
      | none => rfl
      | some b => cases h
  | some a =>
      cases y with
      | none => cases h
      | some b => exact Option.some.inj hmap

/-! ## Lists -/

section Lists

variable {p : α → Bool} {xs ys : List α}

/-- A test of the items that looks at the view only. -/
def TestsView (f : α → β) (p : α → Bool) : Prop := ∀ a b, f a = f b → p a = p b

/-- Such a test filters lists with the same view to lists with the same view. -/
theorem filter_view (hp : TestsView f p) (h : (xs.map f).Perm (ys.map f)) :
    ((xs.filter p).map f).Perm ((ys.filter p).map f) := by
  classical
  -- the test as a test of views
  let q : β → Bool := fun b => decide (∃ a, f a = b ∧ p a = true)
  have hq : q ∘ f = p := by
    funext a
    cases hpa : p a with
    | true => exact decide_eq_true ⟨a, rfl, hpa⟩
    | false =>
        apply decide_eq_false
        rintro ⟨b, hb, hpb⟩
        rw [hp b a hb, hpa] at hpb
        cases hpb
  have hfilter := h.filter q
  rw [List.filter_map, List.filter_map, hq] at hfilter
  exact hfilter

/-- When one item of the first list passes the test, so does one of the second, and it looks the
same. -/
theorem singleton_view (hp : TestsView f p) (h : (xs.map f).Perm (ys.map f)) {a : α}
    (ha : xs.filter p = [a]) : ∃ b, ys.filter p = [b] ∧ f a = f b := by
  have hperm := filter_view hp h
  rw [ha, List.map_singleton] at hperm
  have hview := List.singleton_perm.mp hperm
  obtain ⟨b, hb, hab⟩ := List.map_eq_singleton_iff.mp hview.symm
  exact ⟨b, hb, hab.symm⟩

/-- A search whose hits all look the same finds the same view in both lists. -/
theorem find?_view (hp : TestsView f p) (h : (xs.map f).Perm (ys.map f))
    (hunique : ∀ a ∈ xs, ∀ b ∈ xs, p a = true → p b = true → f a = f b) :
    (xs.find? p).map f = (ys.find? p).map f := by
  have hback : ∀ b ∈ ys, ∃ a ∈ xs, f a = f b := by
    intro b hb
    obtain ⟨a, ha, hab⟩ := List.mem_map.mp (h.mem_iff.mpr (List.mem_map_of_mem hb))
    exact ⟨a, ha, hab⟩
  cases hx : xs.find? p with
  | none =>
      cases hy : ys.find? p with
      | none => rfl
      | some b =>
          obtain ⟨a, ha, hab⟩ := hback b (List.mem_of_find?_eq_some hy)
          have hpa : p a = true := (hp a b hab).trans (List.find?_some hy)
          exact absurd hpa (List.find?_eq_none.mp hx a ha)
  | some a =>
      have ha := List.mem_of_find?_eq_some hx
      have hpa : p a = true := List.find?_some hx
      obtain ⟨b, hb, hba⟩ := List.mem_map.mp (h.mem_iff.mp (List.mem_map_of_mem ha))
      have hpb : p b = true := (hp b a hba).trans hpa
      cases hy : ys.find? p with
      | none => exact absurd hpb (List.find?_eq_none.mp hy b hb)
      | some c =>
          obtain ⟨a', ha', hac⟩ := hback c (List.mem_of_find?_eq_some hy)
          have hpa' : p a' = true := (hp a' c hac).trans (List.find?_some hy)
          exact congrArg some ((hunique a ha a' ha' hpa hpa').trans hac)

/-- Sorted copies with equal views come from lists whose views are permutations. -/
theorem map_perm_of_sorted {r : α → α → Prop} [DecidableRel r]
    (h : (xs.insertionSort r).map f = (ys.insertionSort r).map f) :
    (xs.map f).Perm (ys.map f) := by
  have hx := (List.perm_insertionSort r xs).map f
  have hy := (List.perm_insertionSort r ys).map f
  exact hx.symm.trans (h ▸ hy)

end Lists

end TaModel.Library
