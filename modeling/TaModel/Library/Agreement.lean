import TaModel.Library.StateFold

/-!
# Folds that agree on a value

A fold over items that carry values may insist that they all carry the same one: the first value
found is remembered and the later ones are compared with it. `AgreesOn` says what the state of such a
fold becomes, and `runSteps_agrees_iff` when a whole run succeeds.
-/

set_option autoImplicit false

namespace TaModel.Library

universe u

variable {σ α β ε V : Type u}

/-- The values all equal the remembered one, or the first of them if nothing was remembered. -/
structure AgreesOn (remembered : Option V) (values : List V) (final : Option V) : Prop where
  final_eq : final = remembered.or values.head?
  all_equal : ∀ v ∈ values, final = some v

theorem agreesOn_nil_iff (remembered final : Option V) :
    AgreesOn remembered [] final ↔ final = remembered := by
  constructor
  · intro h
    rw [h.final_eq, List.head?_nil, Option.or_none]
  · rintro rfl
    exact ⟨(Option.or_none).symm, List.forall_mem_nil _⟩

/-- One value agrees with what is remembered and is remembered from then on. -/
theorem agreesOn_singleton_iff (remembered : Option V) (v : V) (final : Option V) :
    AgreesOn remembered [v] final ↔ (∀ w ∈ remembered, v = w) ∧ final = some v := by
  cases remembered with
  | none =>
      constructor
      · intro h
        refine ⟨?_, h.final_eq⟩
        intro w hw
        cases hw
      · rintro ⟨-, rfl⟩
        exact ⟨rfl, by simp⟩
  | some w =>
      constructor
      · intro h
        have hw : final = some w := h.final_eq
        have hv : final = some v := h.all_equal v (List.mem_singleton_self v)
        have heq : v = w := Option.some.inj (hv.symm.trans hw)
        refine ⟨?_, hv⟩
        rintro _ ⟨⟩
        exact heq
      · rintro ⟨hall, rfl⟩
        obtain rfl := hall w rfl
        exact ⟨rfl, by simp⟩

/-- Agreement on values in a row is agreement on the first ones and then on the others. -/
theorem agreesOn_append_iff (remembered : Option V) (xs ys : List V) (final : Option V) :
    AgreesOn remembered (xs ++ ys) final ↔
      ∃ middle, AgreesOn remembered xs middle ∧ AgreesOn middle ys final := by
  constructor
  · intro h
    have hfinal : final = (remembered.or xs.head?).or ys.head? := by
      rw [h.final_eq, List.head?_append, Option.or_assoc]
    refine ⟨remembered.or xs.head?, ⟨rfl, ?_⟩, hfinal, ?_⟩
    · intro v hv
      have hall := h.all_equal v (List.mem_append_left ys hv)
      -- some value is remembered after a nonempty list
      cases hmiddle : remembered.or xs.head? with
      | none =>
          have hnil := (Option.or_eq_none_iff.mp hmiddle).2
          rw [List.head?_eq_none_iff] at hnil
          rw [hnil] at hv
          cases hv
      | some w =>
          rw [hmiddle, Option.some_or] at hfinal
          exact hfinal.symm.trans hall
    · intro v hv
      exact h.all_equal v (List.mem_append_right xs hv)
  · rintro ⟨middle, hfirst, hlater⟩
    refine ⟨?_, ?_⟩
    · rw [hlater.final_eq, hfirst.final_eq, List.head?_append, Option.or_assoc]
    · intro v hv
      rcases List.mem_append.mp hv with hmem | hmem
      · rw [hlater.final_eq, hfirst.all_equal v hmem, Option.some_or]
      · exact hlater.all_equal v hmem

/-- All values of a successful agreement are equal. -/
theorem AgreesOn.eq {remembered final : Option V} {values : List V}
    (h : AgreesOn remembered values final) {v w : V} (hv : v ∈ values) (hw : w ∈ values) : v = w :=
  Option.some.inj ((h.all_equal v hv).symm.trans (h.all_equal w hw))

/-- With nothing remembered, values can be agreed on exactly when they are equal. -/
theorem exists_agreesOn_none_iff (values : List V) :
    (∃ final, AgreesOn none values final) ↔ ∀ v ∈ values, ∀ w ∈ values, v = w := by
  constructor
  · rintro ⟨final, h⟩ v hv w hw
    exact h.eq hv hw
  · intro h
    refine ⟨values.head?, rfl, ?_⟩
    intro v hv
    cases values with
    | nil => cases hv
    | cons w values => exact congrArg some (h w List.mem_cons_self v hv)

/-- When each step agrees on the values of its item, a run succeeds exactly when all values of all
items agree and each item has an output of its own. -/
theorem runSteps_agrees_iff {step : Option V → α → Except ε (β × Option V)} {R : α → β → Prop}
    {values : α → List V}
    (hstep : ∀ s a b s', step s a = .ok (b, s') ↔ R a b ∧ AgreesOn s (values a) s')
    (s : Option V) (as : List α) (bs : List β) (final : Option V) :
    runSteps step s as = .ok (bs, final) ↔
      List.Forall₂ R as bs ∧ AgreesOn s (as.flatMap values) final := by
  induction as generalizing s bs with
  | nil =>
      rw [List.forall₂_nil_left_iff, List.flatMap_nil, agreesOn_nil_iff, runSteps_nil]
      constructor
      · intro h
        cases h
        exact ⟨rfl, rfl⟩
      · rintro ⟨rfl, rfl⟩
        rfl
  | cons a as ih =>
      rw [runSteps_cons_eq_ok_iff, List.flatMap_cons, agreesOn_append_iff]
      constructor
      · rintro ⟨b, s', bs', hfirst, hrest, hout⟩
        obtain ⟨hR, hagrees⟩ := (hstep s a b s').mp hfirst
        obtain ⟨hall, hlater⟩ := (ih s' bs').mp hrest
        change bs = b :: bs' at hout
        rw [hout]
        exact ⟨.cons hR hall, s', hagrees, hlater⟩
      · rintro ⟨hall, s', hagrees, hlater⟩
        cases hall with
        | @cons _ b _ bs' hR hrest =>
            exact ⟨b, s', bs', (hstep s a b s').mpr ⟨hR, hagrees⟩, (ih s' bs').mpr ⟨hrest, hlater⟩,
              rfl⟩

end TaModel.Library
