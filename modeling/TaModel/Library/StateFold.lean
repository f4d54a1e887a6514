import Mathlib.Data.List.Basic
import Mathlib.Data.List.Forall2

/-!
# Fallible state-passing folds

A step function takes a state and an item and either fails or returns an output and the next
state. `runSteps` folds it over a list of items and collects the outputs. The rules below turn a
fact about one step into a fact about a whole run: an invariant, a relation between items and
outputs, a relation between two runs, and a fact about an output and the ones before it.
-/

set_option autoImplicit false

namespace TaModel.Library

universe u

variable {σ σ' α α' β β' ε : Type u}

/-- Run `step` over a list of items, threading the state and collecting the outputs. -/
def runSteps (step : σ → α → Except ε (β × σ)) : σ → List α → Except ε (List β × σ)
  | s, [] => .ok ([], s)
  | s, a :: as =>
      match step s a with
      | .error e => .error e
      | .ok (b, s') =>
          match runSteps step s' as with
          | .error e => .error e
          | .ok (bs, s'') => .ok (b :: bs, s'')

section Inversion

variable {step : σ → α → Except ε (β × σ)}

@[simp] theorem runSteps_nil (s : σ) : runSteps step s [] = .ok ([], s) := rfl

/-- Inversion of a successful nonempty run. -/
theorem runSteps_cons_eq_ok_iff (s : σ) (a : α) (as : List α) (out : List β × σ) :
    runSteps step s (a :: as) = .ok out ↔
      ∃ b s' bs, step s a = .ok (b, s') ∧ runSteps step s' as = .ok (bs, out.2) ∧
        out.1 = b :: bs := by
  obtain ⟨outs, final⟩ := out
  constructor
  · intro h
    rw [runSteps] at h
    cases hs : step s a with
    | error e => simp only [hs, reduceCtorEq] at h
    | ok r =>
        obtain ⟨b, s'⟩ := r
        simp only [hs] at h
        cases hr : runSteps step s' as with
        | error e => simp only [hr, reduceCtorEq] at h
        | ok q =>
            obtain ⟨bs, s''⟩ := q
            simp only [hr] at h
            cases h
            exact ⟨b, s', bs, rfl, hr, rfl⟩
  · rintro ⟨b, s', bs, hs, hr, ho⟩
    have hr' : runSteps step s' as = .ok (bs, final) := hr
    have ho' : outs = b :: bs := ho
    simp only [runSteps, hs, hr', ho']

/-- A run over `as ++ bs` is a run over `as` followed by one over `bs`. -/
theorem runSteps_append_eq_ok_iff (s : σ) (as bs : List α) (out : List β × σ) :
    runSteps step s (as ++ bs) = .ok out ↔
      ∃ xs s' ys, runSteps step s as = .ok (xs, s') ∧ runSteps step s' bs = .ok (ys, out.2) ∧
        out.1 = xs ++ ys := by
  induction as generalizing s out with
  | nil =>
      constructor
      · intro h
        exact ⟨[], s, out.1, rfl, h, rfl⟩
      · rintro ⟨xs, s', ys, hx, hy, ho⟩
        cases hx
        simp only [List.nil_append] at ho
        rw [List.nil_append, hy, ← ho]
  | cons a as ih =>
      rw [List.cons_append, runSteps_cons_eq_ok_iff]
      constructor
      · rintro ⟨b, s', rest, hstep, hrest, ho⟩
        obtain ⟨xs, s'', ys, hx, hy, hxy⟩ := (ih s' (rest, out.2)).mp hrest
        refine ⟨b :: xs, s'', ys, ?_, hy, ?_⟩
        · exact (runSteps_cons_eq_ok_iff s a as _).mpr ⟨b, s', xs, hstep, hx, rfl⟩
        · rw [ho, show rest = xs ++ ys from hxy, List.cons_append]
      · rintro ⟨xs, s'', ys, hx, hy, ho⟩
        obtain ⟨b, s', bs', hstep, hrest, hb⟩ := (runSteps_cons_eq_ok_iff s a as _).mp hx
        refine ⟨b, s', bs' ++ ys, hstep, ?_, ?_⟩
        · exact (ih s' (bs' ++ ys, out.2)).mpr ⟨bs', s'', ys, hrest, hy, rfl⟩
        · rw [ho, show xs = b :: bs' from hb, List.cons_append]

/-- A successful run has one output for each item. -/
theorem length_of_runSteps {s : σ} {as : List α} {out : List β × σ}
    (h : runSteps step s as = .ok out) : out.1.length = as.length := by
  induction as generalizing s out with
  | nil => cases h; rfl
  | cons a as ih =>
      obtain ⟨b, s', bs, -, hrest, ho⟩ := (runSteps_cons_eq_ok_iff s a as out).mp h
      have hlen : bs.length = as.length := ih hrest
      rw [ho, List.length_cons, List.length_cons, hlen]

/-- A run of steps that never fail never fails. -/
theorem runSteps_total (hstep : ∀ s a, ∃ out, step s a = .ok out) (s : σ) (as : List α) :
    ∃ out, runSteps step s as = .ok out := by
  induction as generalizing s with
  | nil => exact ⟨_, rfl⟩
  | cons a as ih =>
      obtain ⟨⟨b, s'⟩, hb⟩ := hstep s a
      obtain ⟨⟨bs, s''⟩, hbs⟩ := ih s'
      exact ⟨(b :: bs, s''), (runSteps_cons_eq_ok_iff s a as _).mpr ⟨b, s', bs, hb, hbs, rfl⟩⟩

/-- When the state does not decide whether a step fails, a run succeeds exactly when every item
does. -/
theorem runSteps_succeeds_iff {P : α → Prop} (hstep : ∀ s a, (∃ out, step s a = .ok out) ↔ P a)
    (s : σ) (as : List α) : (∃ out, runSteps step s as = .ok out) ↔ ∀ a ∈ as, P a := by
  induction as generalizing s with
  | nil => exact iff_of_true ⟨_, rfl⟩ (by simp)
  | cons a as ih =>
      constructor
      · rintro ⟨out, h⟩ item hitem
        obtain ⟨b, s', bs, hb, hrest, -⟩ := (runSteps_cons_eq_ok_iff s a as out).mp h
        rcases List.mem_cons.mp hitem with rfl | hmem
        · exact (hstep s _).mp ⟨_, hb⟩
        · exact (ih s').mp ⟨_, hrest⟩ item hmem
      · intro hall
        obtain ⟨⟨b, s'⟩, hb⟩ := (hstep s a).mpr (hall a List.mem_cons_self)
        obtain ⟨⟨bs, s''⟩, hbs⟩ :=
          (ih s').mpr fun item hitem => hall item (List.mem_cons_of_mem a hitem)
        exact ⟨(b :: bs, s''), (runSteps_cons_eq_ok_iff s a as _).mpr ⟨b, s', bs, hb, hbs, rfl⟩⟩

/-- A run succeeds exactly when every step succeeds from the state that the items before it reach. -/
theorem runSteps_succeeds_iff_reached {P : σ → α → Prop}
    (hstep : ∀ s a, (∃ out, step s a = .ok out) ↔ P s a) (s : σ) (as : List α) :
    (∃ out, runSteps step s as = .ok out) ↔
      ∀ before a after, as = before ++ a :: after →
        ∀ outs s', runSteps step s before = .ok (outs, s') → P s' a := by
  induction as generalizing s with
  | nil =>
      refine iff_of_true ⟨_, rfl⟩ ?_
      intro before a after hsplit
      simp at hsplit
  | cons a as ih =>
      constructor
      · rintro ⟨out, h⟩ before item after hsplit outs s' hbefore
        obtain ⟨b, s₁, bs, hb, hrest, -⟩ := (runSteps_cons_eq_ok_iff s a as out).mp h
        cases before with
        | nil =>
            obtain ⟨rfl, -⟩ := List.cons.inj hsplit
            cases hbefore
            exact (hstep _ _).mp ⟨_, hb⟩
        | cons first before =>
            obtain ⟨rfl, htail⟩ := List.cons.inj hsplit
            obtain ⟨b', s₁', bs', hb', hbefore', -⟩ :=
              (runSteps_cons_eq_ok_iff s _ before _).mp hbefore
            cases hb.symm.trans hb'
            exact (ih s₁).mp ⟨_, hrest⟩ before item after htail bs' s' hbefore'
      · intro hall
        obtain ⟨⟨b, s₁⟩, hb⟩ := (hstep s a).mpr (hall [] a as rfl [] s rfl)
        have htail : ∃ out, runSteps step s₁ as = .ok out := by
          apply (ih s₁).mpr
          intro before item after hsplit outs s' hbefore
          apply hall (a :: before) item after (by rw [hsplit, List.cons_append]) (b :: outs) s'
          exact (runSteps_cons_eq_ok_iff s a before _).mpr ⟨b, s₁, outs, hb, hbefore, rfl⟩
        obtain ⟨⟨bs, s₂⟩, hbs⟩ := htail
        exact ⟨(b :: bs, s₂), (runSteps_cons_eq_ok_iff s a as _).mpr ⟨b, s₁, bs, hb, hbs, rfl⟩⟩

/-- The state in front of item `n` of a successful run, with that item's step. -/
theorem runSteps_at {s : σ} {as : List α} {out : List β × σ}
    (h : runSteps step s as = .ok out) (n : Nat) (hn : n < as.length) :
    ∃ s₁ b s₂, runSteps step s (as.take n) = .ok (out.1.take n, s₁) ∧
      step s₁ (as[n]) = .ok (b, s₂) ∧ out.1[n]? = some b ∧
      runSteps step s (as.take (n + 1)) = .ok (out.1.take (n + 1), s₂) := by
  have hsplit : as = as.take n ++ as[n] :: as.drop (n + 1) := by
    rw [List.getElem_cons_drop, List.take_append_drop]
  rw [hsplit] at h
  obtain ⟨xs, s₁, ys, hx, hy, ho⟩ := (runSteps_append_eq_ok_iff s _ _ out).mp h
  obtain ⟨b, s₂, bs, hstep, -, hb⟩ := (runSteps_cons_eq_ok_iff s₁ _ _ _).mp hy
  have hlen : xs.length = n := by
    have hl : xs.length = (as.take n).length := length_of_runSteps hx
    rw [hl, List.length_take, Nat.min_eq_left (Nat.le_of_lt hn)]
  have hb' : ys = b :: bs := hb
  have htake : out.1.take n = xs := by
    rw [ho, ← hlen, List.take_left']
    rfl
  have htake' : out.1.take (n + 1) = xs ++ [b] := by
    rw [ho, hb', List.take_append, hlen, List.take_of_length_le (by omega)]
    simp
  refine ⟨s₁, b, s₂, ?_, hstep, ?_, ?_⟩
  · rw [htake]
    exact hx
  · rw [ho, hb', List.getElem?_append_right (by omega), hlen, Nat.sub_self]
    rfl
  · rw [htake', List.take_succ_eq_append_getElem hn]
    refine (runSteps_append_eq_ok_iff s _ _ _).mpr ⟨xs, s₁, [b], hx, ?_, rfl⟩
    exact (runSteps_cons_eq_ok_iff s₁ _ _ _).mpr ⟨b, s₂, [], hstep, rfl, rfl⟩

end Inversion

section Invariants

variable {step : σ → α → Except ε (β × σ)}

/-- What every step preserves, every run preserves. -/
theorem runSteps_invariant {Inv : σ → Prop}
    (hstep : ∀ s a b s', Inv s → step s a = .ok (b, s') → Inv s')
    {s : σ} {as : List α} {out : List β × σ} (hs : Inv s)
    (h : runSteps step s as = .ok out) : Inv out.2 := by
  induction as generalizing s out with
  | nil => cases h; exact hs
  | cons a as ih =>
      obtain ⟨b, s', bs, hb, hrest, -⟩ := (runSteps_cons_eq_ok_iff s a as out).mp h
      have htail : Inv (bs, out.2).2 := ih (hstep s a b s' hs hb) hrest
      exact htail

/-- Under an invariant, a relation that every step puts between its item and its output holds
between all items and outputs of a run. -/
theorem runSteps_forall₂ {Inv : σ → Prop} {R : α → β → Prop}
    (hstep : ∀ s a b s', Inv s → step s a = .ok (b, s') → Inv s' ∧ R a b)
    {s : σ} {as : List α} {out : List β × σ} (hs : Inv s)
    (h : runSteps step s as = .ok out) : List.Forall₂ R as out.1 := by
  induction as generalizing s out with
  | nil => cases h; exact .nil
  | cons a as ih =>
      obtain ⟨b, s', bs, hb, hrest, ho⟩ := (runSteps_cons_eq_ok_iff s a as out).mp h
      obtain ⟨hinv, hr⟩ := hstep s a b s' hs hb
      rw [ho]
      exact .cons hr (ih hinv hrest)

/-- Two runs in lockstep over the same items: what relates the states is kept, and the outputs are
related item by item. -/
theorem runSteps_lockstep {step' : σ' → α → Except ε (β' × σ')} {S : σ → σ' → Prop}
    {R : β → β' → Prop} {as : List α}
    (hstep : ∀ a ∈ as, ∀ s t b s' c t', S s t → step s a = .ok (b, s') →
      step' t a = .ok (c, t') → S s' t' ∧ R b c)
    {s : σ} {t : σ'} {out : List β × σ} {out' : List β' × σ'} (hs : S s t)
    (h : runSteps step s as = .ok out) (h' : runSteps step' t as = .ok out') :
    S out.2 out'.2 ∧ List.Forall₂ R out.1 out'.1 := by
  induction as generalizing s t out out' with
  | nil =>
      cases h
      cases h'
      exact ⟨hs, .nil⟩
  | cons a as ih =>
      obtain ⟨b, s', bs, hb, hrest, ho⟩ := (runSteps_cons_eq_ok_iff s a as out).mp h
      obtain ⟨c, t', cs, hc, hrest', ho'⟩ := (runSteps_cons_eq_ok_iff t a as out').mp h'
      obtain ⟨hS, hR⟩ := hstep a List.mem_cons_self s t b s' c t' hs hb hc
      obtain ⟨hfinal, houts⟩ :=
        ih (fun item hitem => hstep item (List.mem_cons_of_mem a hitem)) hS hrest hrest'
      rw [ho, ho']
      exact ⟨hfinal, .cons hR houts⟩

/-- A run whose outputs all pass `P` is followed item by item by a second run: what relates the states
is kept, and the outputs are related item by item. -/
theorem runSteps_simulate {step' : σ' → α → Except ε (β' × σ')} {S : σ → σ' → Prop} {P : β → Prop}
    {R : β → β' → Prop}
    (hstep : ∀ s t a b s', S s t → step s a = .ok (b, s') → P b →
      ∃ c t', step' t a = .ok (c, t') ∧ S s' t' ∧ R b c)
    {s : σ} {t : σ'} {as : List α} {out : List β × σ} (hs : S s t)
    (h : runSteps step s as = .ok out) (hP : ∀ b ∈ out.1, P b) :
    ∃ out', runSteps step' t as = .ok out' ∧ S out.2 out'.2 ∧ List.Forall₂ R out.1 out'.1 := by
  induction as generalizing s t out with
  | nil =>
      cases h
      exact ⟨([], t), rfl, hs, .nil⟩
  | cons a as ih =>
      obtain ⟨b, s', bs, hb, hrest, ho⟩ := (runSteps_cons_eq_ok_iff s a as out).mp h
      rw [ho] at hP ⊢
      obtain ⟨c, t', hc, hS, hR⟩ := hstep s t a b s' hs hb (hP b List.mem_cons_self)
      obtain ⟨out', hrun, hfinal, houts⟩ :=
        ih hS hrest fun item hitem => hP item (List.mem_cons_of_mem b hitem)
      refine ⟨(c :: out'.1, out'.2), ?_, hfinal, .cons hR houts⟩
      exact (runSteps_cons_eq_ok_iff t a as _).mpr ⟨c, t', out'.1, hc, hrun, rfl⟩

/-- Items that the rest of the run does not notice can be left out: `S` relates the state of the
full run to the state of the run over the items that are kept. -/
theorem runSteps_select {keep : α → Bool} {S : σ → σ → Prop} {as : List α}
    (hkept : ∀ a ∈ as, keep a = true → ∀ s t b s', S s t → step s a = .ok (b, s') →
      ∃ t', step t a = .ok (b, t') ∧ S s' t')
    (hdropped : ∀ a ∈ as, keep a = false → ∀ s t b s', S s t → step s a = .ok (b, s') → S s' t)
    {s t : σ} {out : List β × σ} (hs : S s t) (h : runSteps step s as = .ok out) :
    ∃ out', runSteps step t (as.filter keep) = .ok out' ∧ S out.2 out'.2 ∧
      out'.1 = ((as.zip out.1).filter fun entry => keep entry.1).map Prod.snd := by
  induction as generalizing s t out with
  | nil =>
      cases h
      exact ⟨([], t), rfl, hs, rfl⟩
  | cons a as ih =>
      obtain ⟨b, s', bs, hb, hrest, ho⟩ := (runSteps_cons_eq_ok_iff s a as out).mp h
      have htail := fun {t' : σ} (hS : S s' t') =>
        ih (fun item hitem => hkept item (List.mem_cons_of_mem a hitem))
          (fun item hitem => hdropped item (List.mem_cons_of_mem a hitem)) hS hrest
      rw [ho, List.zip_cons_cons]
      cases hkeep : keep a with
      | true =>
          obtain ⟨t', ht', hS⟩ := hkept a List.mem_cons_self hkeep s t b s' hs hb
          obtain ⟨out', hrun, hfinal, houts⟩ := htail hS
          refine ⟨(b :: out'.1, out'.2), ?_, hfinal, ?_⟩
          · rw [List.filter_cons_of_pos hkeep]
            exact (runSteps_cons_eq_ok_iff t a _ _).mpr ⟨b, t', out'.1, ht', hrun, rfl⟩
          · rw [List.filter_cons_of_pos (by simpa using hkeep), List.map_cons, houts]
      | false =>
          obtain ⟨out', hrun, hfinal, houts⟩ :=
            htail (hdropped a List.mem_cons_self hkeep s t b s' hs hb)
          refine ⟨out', ?_, hfinal, ?_⟩
          · rwa [List.filter_cons_of_neg (by simp [hkeep])]
          · rw [List.filter_cons_of_neg (by simp [hkeep]), houts]

/-- Items whose steps left the state alone can be left out of the run. -/
theorem runSteps_skip {inert : β → Prop}
    (hinert : ∀ s a b s', step s a = .ok (b, s') → inert b → s' = s) {keep : α → Bool}
    {s : σ} {as : List α} {out : List β × σ} (h : runSteps step s as = .ok out)
    (hskip : ∀ entry ∈ as.zip out.1, keep entry.1 = false → inert entry.2) :
    runSteps step s (as.filter keep) =
      .ok (((as.zip out.1).filter fun entry => keep entry.1).map Prod.snd, out.2) := by
  induction as generalizing s out with
  | nil =>
      cases h
      rfl
  | cons a as ih =>
      obtain ⟨b, s', bs, hb, hrest, ho⟩ := (runSteps_cons_eq_ok_iff s a as out).mp h
      rw [ho, List.zip_cons_cons] at hskip ⊢
      have htail := ih hrest fun entry hentry => hskip entry (List.mem_cons_of_mem _ hentry)
      cases hkeep : keep a with
      | true =>
          rw [List.filter_cons_of_pos hkeep, List.filter_cons_of_pos (by simpa using hkeep),
            List.map_cons]
          exact (runSteps_cons_eq_ok_iff s a _ _).mpr ⟨b, s', _, hb, htail, rfl⟩
      | false =>
          have hsame : s' = s := hinert s a b s' hb (hskip (a, b) List.mem_cons_self hkeep)
          rw [List.filter_cons_of_neg (by simp [hkeep]), List.filter_cons_of_neg (by simp [hkeep]),
            ← hsame]
          exact htail

/-- When the state is what the outputs so far make of it, a fact about one step and the outputs
before it holds at every output of a run. -/
theorem runSteps_history {view : List β → σ} {R : List β → β → Prop}
    (hstep : ∀ done a b s', step (view done) a = .ok (b, s') → s' = view (done ++ [b]) ∧ R done b)
    {done : List β} {as : List α} {out : List β × σ}
    (h : runSteps step (view done) as = .ok out) :
    ∀ before b after, out.1 = before ++ b :: after → R (done ++ before) b := by
  induction as generalizing done out with
  | nil =>
      cases h
      intro before b after hout
      simp at hout
  | cons a as ih =>
      obtain ⟨first, s', bs, hfirst, hrest, ho⟩ := (runSteps_cons_eq_ok_iff _ a as out).mp h
      obtain ⟨rfl, hR⟩ := hstep done a first s' hfirst
      intro before b after hout
      rw [ho] at hout
      cases before with
      | nil =>
          obtain ⟨rfl, -⟩ := List.cons.inj hout
          rwa [List.append_nil]
      | cons c before =>
          obtain ⟨rfl, htail⟩ := List.cons.inj hout
          have hlater := ih hrest before b after htail
          rwa [List.append_assoc] at hlater

end Invariants

/-! ## Items and outputs -/

section Related

variable {R : α → β → Prop}

theorem exists_of_mem_right {as : List α} {bs : List β} (h : List.Forall₂ R as bs) {b : β}
    (hb : b ∈ bs) : ∃ a ∈ as, R a b := by
  induction h with
  | nil => cases hb
  | @cons a c as bs hac hrest ih =>
      rcases List.mem_cons.mp hb with rfl | hmem
      · exact ⟨a, List.mem_cons_self, hac⟩
      · obtain ⟨a', ha', hR⟩ := ih hmem
        exact ⟨a', List.mem_cons_of_mem a ha', hR⟩

theorem exists_of_mem_left {as : List α} {bs : List β} (h : List.Forall₂ R as bs) {a : α}
    (ha : a ∈ as) : ∃ b ∈ bs, R a b :=
  exists_of_mem_right h.flip ha

/-- Around an item the list of outputs splits as the items do. -/
theorem forall₂_split {as as' : List α} {a : α} {bs : List β}
    (h : List.Forall₂ R (as ++ a :: as') bs) :
    ∃ cs b cs', bs = cs ++ b :: cs' ∧ List.Forall₂ R as cs ∧ R a b := by
  induction as generalizing bs with
  | nil =>
      cases h with
      | @cons _ b _ bs hab _ => exact ⟨[], b, bs, rfl, .nil, hab⟩
  | cons first as ih =>
      cases h with
      | @cons _ c _ bs hfirst hrest =>
          obtain ⟨cs, b, cs', rfl, hbefore, hab⟩ := ih hrest
          exact ⟨c :: cs, b, cs', rfl, .cons hfirst hbefore, hab⟩

/-- Outputs for every item are outputs for the whole list. -/
theorem exists_forall₂ {as : List α} (h : ∀ a ∈ as, ∃ b, R a b) :
    ∃ bs, List.Forall₂ R as bs := by
  induction as with
  | nil => exact ⟨[], .nil⟩
  | cons a as ih =>
      obtain ⟨b, hb⟩ := h a List.mem_cons_self
      obtain ⟨bs, hbs⟩ := ih fun a ha => h a (List.mem_cons_of_mem _ ha)
      exact ⟨b :: bs, .cons hb hbs⟩

/-- Outputs of outputs. -/
theorem forall₂_comp {γ : Type*} {S : β → γ → Prop} {as : List α} {bs : List β} {cs : List γ}
    (h : List.Forall₂ R as bs) (h' : List.Forall₂ S bs cs) :
    List.Forall₂ (fun a c => ∃ b, R a b ∧ S b c) as cs := by
  induction h generalizing cs with
  | nil =>
      cases h'
      exact .nil
  | cons hab _ ih =>
      cases h' with
      | cons hbc hrest => exact .cons ⟨_, hab, hbc⟩ (ih hrest)

/-- Two lists of outputs for the same items are related item by item. -/
theorem forall₂_of_common {γ : Type*} {S : α → γ → Prop} {T : β → γ → Prop} {as : List α}
    {bs : List β} {cs : List γ} (h : List.Forall₂ R as bs) (h' : List.Forall₂ S as cs)
    (hT : ∀ a ∈ as, ∀ b c, R a b → S a c → T b c) : List.Forall₂ T bs cs := by
  induction h generalizing cs with
  | nil =>
      cases h'
      exact .nil
  | @cons a b as bs hab _ ih =>
      cases h' with
      | cons hac hrest =>
          exact .cons (hT a List.mem_cons_self b _ hab hac)
            (ih hrest fun item hitem => hT item (List.mem_cons_of_mem a hitem))

/-- A pairwise property of the items that their outputs inherit holds pairwise of the outputs. -/
theorem pairwise_of_forall₂ {S : α → α → Prop} {T : β → β → Prop}
    (hlift : ∀ a a' b b', R a b → R a' b' → S a a' → T b b') {as : List α} {bs : List β}
    (h : List.Forall₂ R as bs) (hS : as.Pairwise S) : bs.Pairwise T := by
  induction h with
  | nil => exact .nil
  | @cons a b as bs hab hrest ih =>
      obtain ⟨hhead, htail⟩ := List.pairwise_cons.mp hS
      refine List.pairwise_cons.mpr ⟨?_, ih htail⟩
      intro b' hb'
      obtain ⟨a', ha', hR⟩ := exists_of_mem_right hrest hb'
      exact hlift a a' b b' hab hR (hhead a' ha')

/-- Selecting outputs by `f` selects the items that pass `p`, when the two agree along the list. -/
theorem forall₂_select {γ : Type*} {S : α → γ → Prop} {p : α → Bool} {f : β → Option γ}
    {as : List α} {bs : List β} (h : List.Forall₂ R as bs)
    (hselect : ∀ a b, R a b →
      (p a = false ∧ f b = none) ∨ ∃ c, p a = true ∧ f b = some c ∧ S a c) :
    List.Forall₂ S (as.filter p) (bs.filterMap f) := by
  induction h with
  | nil => exact .nil
  | @cons a b as bs hab _ ih =>
      rcases hselect a b hab with ⟨hp, hf⟩ | ⟨c, hp, hf, hS⟩
      · rw [List.filter_cons_of_neg (by simp [hp]), List.filterMap_cons_none hf]
        exact ih
      · rw [List.filter_cons_of_pos hp, List.filterMap_cons_some hf]
        exact .cons hS ih

/-- A quantity that items and outputs share has the same values along both lists. -/
theorem forall₂_imp_of_mem {S : α → β → Prop} {as : List α} {bs : List β}
    (h : List.Forall₂ R as bs) (himp : ∀ a ∈ as, ∀ b, R a b → S a b) : List.Forall₂ S as bs := by
  induction h with
  | nil => exact .nil
  | @cons a b as bs hab _ ih =>
      apply List.Forall₂.cons
      · exact himp a List.mem_cons_self b hab
      · exact ih fun c hc => himp c (List.mem_cons_of_mem a hc)

theorem map_eq_of_forall₂ {γ : Type*} {f : α → γ} {g : β → γ} {as : List α} {bs : List β}
    (h : List.Forall₂ R as bs) (hfg : ∀ a b, R a b → f a = g b) : as.map f = bs.map g := by
  induction h with
  | nil => rfl
  | @cons a b as bs hab _ ih => rw [List.map_cons, List.map_cons, hfg a b hab, ih]

end Related

end TaModel.Library
