import Mathlib.Algebra.Order.BigOperators.Group.List
import Mathlib.Algebra.Order.Group.Basic
import Mathlib.Data.List.Induction
import Mathlib.Data.List.Sort
import Mathlib.Tactic.Abel

/-!
# Ledgers of covered transfers

A book assigns an amount to every key. A transfer debits one key and credits another one, and it
is posted only when the book covers its debit. The library states conservation for a list of posted
transfers, non-negativity of every book on the way, the agreement of two books off a set of keys,
and the solvency of a reordering of the posted transfers.
-/

set_option autoImplicit false

namespace TaModel.Library

universe u v w

/-- A movement that takes `debit` from one key and puts `credit` on another. -/
structure Transfer (K : Type u) (A : Type v) where
  debitKey : K
  debit : A
  creditKey : K
  credit : A
deriving DecidableEq

/-- The amount held under each key. -/
abbrev Book (K : Type u) (A : Type v) := K → A

variable {K : Type u} {A : Type v} [DecidableEq K] [AddCommGroup A]

/-- The change a transfer makes to the amount under `key`. -/
def Transfer.effect (t : Transfer K A) (key : K) : A :=
  (if key = t.creditKey then t.credit else 0) - (if key = t.debitKey then t.debit else 0)

/-- The book after a transfer. -/
def Book.post (b : Book K A) (t : Transfer K A) : Book K A := fun key => b key + t.effect key

/-- The book after a list of transfers. -/
def Book.postAll (b : Book K A) (ts : List (Transfer K A)) : Book K A := ts.foldl Book.post b

@[simp] theorem postAll_nil (b : Book K A) : b.postAll [] = b := rfl

@[simp] theorem postAll_cons (b : Book K A) (t : Transfer K A) (ts : List (Transfer K A)) :
    b.postAll (t :: ts) = (b.post t).postAll ts := rfl

theorem postAll_append (b : Book K A) (ts us : List (Transfer K A)) :
    b.postAll (ts ++ us) = (b.postAll ts).postAll us := List.foldl_append

/-- Conservation: a posted book is the initial one plus the sum of the effects. -/
theorem postAll_apply (b : Book K A) (ts : List (Transfer K A)) (key : K) :
    b.postAll ts key = b key + (ts.map fun t => t.effect key).sum := by
  induction ts generalizing b with
  | nil => simp
  | cons t ts ih =>
      rw [postAll_cons, ih, List.map_cons, List.sum_cons, ← add_assoc]
      rfl

theorem postAll_apply_perm (b : Book K A) {ts us : List (Transfer K A)} (h : ts.Perm us)
    (key : K) : b.postAll ts key = b.postAll us key := by
  rw [postAll_apply, postAll_apply, (h.map _).sum_eq]

section Effects

theorem effect_eq_zero {t : Transfer K A} {key : K} (hd : key ≠ t.debitKey)
    (hc : key ≠ t.creditKey) : t.effect key = 0 := by
  rw [Transfer.effect, if_neg hc, if_neg hd, sub_zero]

variable [LinearOrder A]

theorem effect_nonneg {t : Transfer K A} {key : K} (hcredit : 0 ≤ t.credit)
    (hd : key ≠ t.debitKey) : 0 ≤ t.effect key := by
  rw [Transfer.effect, if_neg hd, sub_zero]
  split
  · exact hcredit
  · exact le_refl 0

variable [IsOrderedAddMonoid A]

theorem effect_nonpos {t : Transfer K A} {key : K} (hdebit : 0 ≤ t.debit)
    (hc : key ≠ t.creditKey) : t.effect key ≤ 0 := by
  rw [Transfer.effect, if_neg hc, zero_sub]
  split
  · exact neg_nonpos.mpr hdebit
  · exact le_of_eq neg_zero

end Effects

/-! ## Settled runs -/

section Settled

variable [LinearOrder A]

/-- The book holds what the transfer takes. -/
def Book.Covers (b : Book K A) (t : Transfer K A) : Prop := t.debit ≤ b t.debitKey

instance (b : Book K A) (t : Transfer K A) : Decidable (b.Covers t) :=
  inferInstanceAs (Decidable (t.debit ≤ b t.debitKey))

/-- Every transfer is covered by the book in front of it. -/
def Book.Settles (b : Book K A) : List (Transfer K A) → Prop
  | [] => True
  | t :: ts => b.Covers t ∧ (b.post t).Settles ts

theorem settles_append_iff (b : Book K A) (ts us : List (Transfer K A)) :
    b.Settles (ts ++ us) ↔ b.Settles ts ∧ (b.postAll ts).Settles us := by
  induction ts generalizing b with
  | nil => simp [Book.Settles]
  | cons t ts ih => simp only [List.cons_append, Book.Settles, ih, postAll_cons, and_assoc]

omit [DecidableEq K] [AddCommGroup A] in
/-- Books with the same amount under the debited key cover a transfer alike. -/
theorem covers_congr {b b' : Book K A} {t : Transfer K A} (h : b t.debitKey = b' t.debitKey) :
    b.Covers t ↔ b'.Covers t := by
  unfold Book.Covers
  rw [h]

variable [IsOrderedAddMonoid A]

/-- A covered transfer leaves a non-negative amount under its debited key. -/
theorem post_nonneg_at_debit {b : Book K A} {t : Transfer K A} {key : K}
    (hcredit : 0 ≤ t.credit) (hcov : b.Covers t) (hd : key = t.debitKey) :
    0 ≤ b key + t.effect key := by
  subst hd
  have hleft : 0 ≤ b t.debitKey - t.debit := sub_nonneg.mpr hcov
  unfold Transfer.effect
  rw [if_pos rfl]
  split
  · calc
      0 ≤ b t.debitKey - t.debit := hleft
      _ ≤ b t.debitKey - t.debit + t.credit := le_add_of_nonneg_right hcredit
      _ = b t.debitKey + (t.credit - t.debit) := by abel
  · calc
      0 ≤ b t.debitKey - t.debit := hleft
      _ = b t.debitKey + (0 - t.debit) := by abel

/-- A covered transfer keeps a non-negative book non-negative. -/
theorem post_nonneg {b : Book K A} {t : Transfer K A} (hb : ∀ key, 0 ≤ b key)
    (hcredit : 0 ≤ t.credit) (hcov : b.Covers t) (key : K) : 0 ≤ b.post t key := by
  show 0 ≤ b key + t.effect key
  by_cases hd : key = t.debitKey
  · exact post_nonneg_at_debit hcredit hcov hd
  · exact add_nonneg (hb key) (effect_nonneg hcredit hd)

end Settled

/-! ## Dearer transfers -/

section Dearer

variable [LinearOrder A]

/-- The transfer takes no less than `u` does, gives no more, and moves between the same keys. -/
structure Transfer.Dearer (t u : Transfer K A) : Prop where
  debitKey : t.debitKey = u.debitKey
  creditKey : t.creditKey = u.creditKey
  debit : u.debit ≤ t.debit
  credit : t.credit ≤ u.credit

variable {b b' : Book K A} {t u : Transfer K A}

omit [DecidableEq K] [AddCommGroup A] in
/-- A book that covers a transfer leaves every richer book enough for the cheaper one. -/
theorem Transfer.Dearer.covers (h : t.Dearer u) (hb : ∀ key, b key ≤ b' key) (hcov : b.Covers t) :
    b'.Covers u := by
  show u.debit ≤ b' u.debitKey
  rw [← h.debitKey]
  exact h.debit.trans (hcov.trans (hb t.debitKey))

variable [IsOrderedAddMonoid A]

theorem Transfer.Dearer.effect_le (h : t.Dearer u) (key : K) : t.effect key ≤ u.effect key := by
  unfold Transfer.effect
  rw [h.debitKey, h.creditKey]
  apply sub_le_sub
  · split
    · exact h.credit
    · exact le_refl 0
  · split
    · exact h.debit
    · exact le_refl 0

/-- Of two books the richer one stays the richer one when it posts the cheaper transfer. -/
theorem Transfer.Dearer.post_le (h : t.Dearer u) (hb : ∀ key, b key ≤ b' key) (key : K) :
    b.post t key ≤ b'.post u key :=
  add_le_add (hb key) (h.effect_le key)

end Dearer

/-! ## Attempts

An attempt is a transfer, or nothing when there is nothing to settle. An attempted transfer is
posted when it is covered and dropped otherwise. -/

section Attempts

variable [LinearOrder A]

/-- Whether an attempt is posted. -/
def Book.posts (b : Book K A) : Option (Transfer K A) → Bool
  | none => false
  | some t => decide (b.Covers t)

/-- The book after one attempt. -/
def Book.settle (b : Book K A) : Option (Transfer K A) → Book K A
  | none => b
  | some t => if b.Covers t then b.post t else b

/-- Post the attempts that are covered; the flags say which ones were. -/
def Book.settleAll : Book K A → List (Option (Transfer K A)) → List Bool × Book K A
  | b, [] => ([], b)
  | b, x :: xs => (b.posts x :: ((b.settle x).settleAll xs).1, ((b.settle x).settleAll xs).2)

theorem settleAll_cons (b : Book K A) (x : Option (Transfer K A))
    (xs : List (Option (Transfer K A))) :
    b.settleAll (x :: xs) =
      (b.posts x :: ((b.settle x).settleAll xs).1, ((b.settle x).settleAll xs).2) := rfl

end Attempts

/-! ## Agreement of two runs -/

section Agreement

/-- Two books agree on every key outside `keys`. -/
def AgreeOff (keys : List K) (b b' : Book K A) : Prop := ∀ key, key ∉ keys → b key = b' key

/-- Keys whose amount may differ between two runs after one more pair of attempts, when it may
differ on `keys` before. A transfer attempted by the second run alone spoils both its keys; one
attempted by both runs spreads a difference only from its debited key, which decides whether it
is posted. -/
def spoil (keys : List K) (first second : Option (Transfer K A)) : List K :=
  match first with
  | some t => if t.debitKey ∈ keys then t.creditKey :: keys else keys
  | none =>
      match second with
      | some t => t.debitKey :: t.creditKey :: keys
      | none => keys

/-- `spoil` along a list of pairs of attempts. -/
def spoilAll (keys : List K) (pairs : List (Option (Transfer K A) × Option (Transfer K A))) :
    List K :=
  pairs.foldl (fun ks p => spoil ks p.1 p.2) keys

omit [AddCommGroup A] in
theorem subset_spoil (keys : List K) (first second : Option (Transfer K A)) :
    keys ⊆ spoil keys first second := by
  intro key hkey
  cases first with
  | some t =>
      unfold spoil
      dsimp only
      split
      · exact List.mem_cons_of_mem _ hkey
      · exact hkey
  | none =>
      cases second with
      | some t => exact List.mem_cons_of_mem _ (List.mem_cons_of_mem _ hkey)
      | none => exact hkey

omit [DecidableEq K] [AddCommGroup A] in
theorem AgreeOff.mono {keys keys' : List K} {b b' : Book K A} (h : AgreeOff keys b b')
    (hsub : keys ⊆ keys') : AgreeOff keys' b b' := fun key hkey => h key fun hk => hkey (hsub hk)

omit [DecidableEq K] [AddCommGroup A] in
theorem AgreeOff.symm {keys : List K} {b b' : Book K A} (h : AgreeOff keys b b') :
    AgreeOff keys b' b := fun key hkey => (h key hkey).symm

theorem AgreeOff.post {keys : List K} {b b' : Book K A} (h : AgreeOff keys b b')
    (t : Transfer K A) : AgreeOff keys (b.post t) (b'.post t) := by
  intro key hkey
  show b key + t.effect key = b' key + t.effect key
  rw [h key hkey]

/-- Posting a transfer in one of the runs only changes its two keys. -/
theorem AgreeOff.post_left {keys : List K} {b b' : Book K A} (h : AgreeOff keys b b')
    {t : Transfer K A} (hd : t.debitKey ∈ keys) (hc : t.creditKey ∈ keys) :
    AgreeOff keys (b.post t) b' := by
  intro key hkey
  have hzero : t.effect key = 0 :=
    effect_eq_zero (fun e => hkey (e ▸ hd)) (fun e => hkey (e ▸ hc))
  show b key + t.effect key = b' key
  rw [hzero, add_zero, h key hkey]

variable [LinearOrder A]

/-- One pair of attempts keeps the agreement off the spoiled keys. -/
theorem AgreeOff.settle {keys : List K} {b b' : Book K A} (h : AgreeOff keys b b')
    {first second : Option (Transfer K A)} (hpair : first = none ∨ first = second) :
    AgreeOff (spoil keys first second) (b.settle first) (b'.settle second) := by
  have hsub := subset_spoil keys first second
  cases first with
  | none =>
      cases second with
      | none => exact h
      | some t =>
          have hgrown : AgreeOff (spoil keys none (some t)) b' b := (h.mono hsub).symm
          show AgreeOff _ b (if b'.Covers t then b'.post t else b')
          split
          · exact (hgrown.post_left List.mem_cons_self
              (List.mem_cons_of_mem _ List.mem_cons_self)).symm
          · exact hgrown.symm
  | some t =>
      obtain rfl : some t = second := by
        rcases hpair with hnone | hsame
        · cases hnone
        · exact hsame
      by_cases hd : t.debitKey ∈ keys
      · -- the decision may differ, so both keys may differ from here on
        have hspoil : spoil keys (some t) (some t) = t.creditKey :: keys := if_pos hd
        have hgrown : AgreeOff (t.creditKey :: keys) b b' := h.mono (hspoil ▸ hsub)
        have hd' : t.debitKey ∈ t.creditKey :: keys := List.mem_cons_of_mem _ hd
        have hc' : t.creditKey ∈ t.creditKey :: keys := List.mem_cons_self
        rw [hspoil]
        show AgreeOff _ (if b.Covers t then b.post t else b)
          (if b'.Covers t then b'.post t else b')
        split
        · split
          · exact hgrown.post t
          · exact hgrown.post_left hd' hc'
        · split
          · exact (hgrown.symm.post_left hd' hc').symm
          · exact hgrown
      · have hspoil : spoil keys (some t) (some t) = keys := if_neg hd
        have hcov : b.Covers t ↔ b'.Covers t := covers_congr (h _ hd)
        rw [hspoil]
        show AgreeOff _ (if b.Covers t then b.post t else b)
          (if b'.Covers t then b'.post t else b')
        by_cases hb : b.Covers t
        · rw [if_pos hb, if_pos (hcov.mp hb)]
          exact h.post t
        · rw [if_neg hb, if_neg (fun hb' => hb (hcov.mpr hb'))]
          exact h

/-- Two runs whose attempts coincide wherever the first one attempts anything agree off the
spoiled keys. -/
theorem AgreeOff.settleAll {keys : List K} {b b' : Book K A} (h : AgreeOff keys b b')
    {pairs : List (Option (Transfer K A) × Option (Transfer K A))}
    (hpairs : ∀ p ∈ pairs, p.1 = none ∨ p.1 = p.2) :
    AgreeOff (spoilAll keys pairs) (b.settleAll (pairs.map Prod.fst)).2
      (b'.settleAll (pairs.map Prod.snd)).2 := by
  induction pairs generalizing keys b b' with
  | nil => exact h
  | cons p ps ih =>
      have hhead := h.settle (hpairs p List.mem_cons_self)
      rw [List.map_cons, List.map_cons, settleAll_cons, settleAll_cons]
      exact ih hhead fun q hq => hpairs q (List.mem_cons_of_mem p hq)

end Agreement

/-! ## Reordering a settled run

Items are settled in list order, `earlier` is another order on them (a stable sort by time). The
reordered run can only fail when an item is paid from a credit that comes later in the new order. -/

section Reordering

variable {α : Type w} (transfer : α → Transfer K A)

/-- No item debits a key that an item in front of it credits although it comes strictly later in
the order `earlier`. -/
def NoLateCredit (earlier : α → α → Prop) (items : List α) : Prop :=
  items.Pairwise fun i j => ¬ earlier i j → (transfer i).creditKey ≠ (transfer j).debitKey

variable [LinearOrder A] [IsOrderedAddMonoid A]

/-- Dropping items that cannot raise an amount does not lower the sum of the effects on it. -/
theorem sum_effect_le_sum_filter (kept : α → Bool) (key : K) {items : List α}
    (hdrop : ∀ a ∈ items, kept a = false → (transfer a).effect key ≤ 0) :
    ((items.map transfer).map fun t => t.effect key).sum ≤
      (((items.filter kept).map transfer).map fun t => t.effect key).sum := by
  induction items with
  | nil => exact le_refl _
  | cons a items ih =>
      have hrest := ih fun c hc => hdrop c (List.mem_cons_of_mem a hc)
      cases hk : kept a with
      | true =>
          rw [List.filter_cons_of_pos hk]
          simp only [List.map_cons, List.sum_cons]
          exact add_le_add_right hrest _
      | false =>
          rw [List.filter_cons_of_neg (by simp [hk])]
          simp only [List.map_cons, List.sum_cons]
          have hhead := hdrop a List.mem_cons_self hk
          exact le_trans (add_le_of_nonpos_left hhead) hrest

/-- Dropping from a settled run items that do not credit the key of a debit they stand in front of
keeps every amount non-negative. -/
theorem postAll_filter_nonneg {b : Book K A} {items : List α} (kept : α → Bool)
    (hb : ∀ key, 0 ≤ b key) (hdebit : ∀ a ∈ items, 0 ≤ (transfer a).debit)
    (hcredit : ∀ a ∈ items, 0 ≤ (transfer a).credit) (hset : b.Settles (items.map transfer))
    (hdrop : items.Pairwise fun i j =>
      kept i = false → kept j = true → (transfer i).creditKey ≠ (transfer j).debitKey)
    (key : K) : 0 ≤ b.postAll ((items.filter kept).map transfer) key := by
  -- from the back: either the last item does not debit `key`, or every dropped item in front of
  -- it can only have lowered the amount the settled run found there
  induction items using List.reverseRecOn with
  | nil => exact hb key
  | append_singleton front t ih =>
      rw [List.map_append, settles_append_iff] at hset
      obtain ⟨hfront, hcov, -⟩ := hset
      have hmem : ∀ a ∈ front, a ∈ front ++ [t] := fun a ha => List.mem_append_left _ ha
      have hlast : t ∈ front ++ [t] := List.mem_append_right _ List.mem_cons_self
      have hrest : 0 ≤ b.postAll ((front.filter kept).map transfer) key :=
        ih (fun a ha => hdebit a (hmem a ha)) (fun a ha => hcredit a (hmem a ha)) hfront
          (List.pairwise_append.mp hdrop).1
      rw [List.filter_append]
      cases hk : kept t with
      | false =>
          rw [List.filter_cons_of_neg (by simp [hk]), List.filter_nil, List.append_nil]
          exact hrest
      | true =>
          rw [List.filter_cons_of_pos hk, List.filter_nil, List.map_append, postAll_append]
          show 0 ≤ b.postAll ((front.filter kept).map transfer) key + (transfer t).effect key
          by_cases hd : key = (transfer t).debitKey
          · have hle : b.postAll (front.map transfer) key ≤
                b.postAll ((front.filter kept).map transfer) key := by
              rw [postAll_apply, postAll_apply]
              refine add_le_add_right ?_ (b key)
              refine sum_effect_le_sum_filter transfer kept key ?_
              intro a ha hnot
              have hne := (List.pairwise_append.mp hdrop).2.2 a ha t List.mem_cons_self hnot hk
              exact effect_nonpos (hdebit a (hmem a ha)) (fun e => hne (by rw [← e, hd]))
            have hpost : 0 ≤ b.postAll (front.map transfer) key + (transfer t).effect key :=
              post_nonneg_at_debit (hcredit t hlast) hcov hd
            exact le_trans hpost (add_le_add_left hle _)
          · exact add_nonneg hrest (effect_nonneg (hcredit t hlast) hd)

omit [DecidableEq K] [AddCommGroup A] [LinearOrder A] [IsOrderedAddMonoid A] in
/-- In a duplicate-free list, what stands in front of a member of a prefix is in that prefix. -/
theorem mem_take_of_pair_sublist {l : List α} (hl : l.Nodup) {i j : α} {n : Nat}
    (hpair : List.Sublist [i, j] l) (hj : j ∈ l.take n) : i ∈ l.take n := by
  rw [← List.take_append_drop n l] at hpair hl
  obtain ⟨xs, ys, hxy, hx, hy⟩ := List.sublist_append_iff.mp hpair
  cases xs with
  | nil =>
      have hys : [i, j] = ys := hxy
      have hmem : j ∈ ys := by rw [← hys]; exact List.mem_cons_of_mem _ List.mem_cons_self
      exact absurd (hy.subset hmem) ((List.nodup_append'.mp hl).2.2 hj)
  | cons x xs =>
      have hx' : i = x := (List.cons.inj hxy).1
      rw [hx']
      exact hx.subset List.mem_cons_self

/-- Solvency of a stable reordering: if no item is paid from a later credit, every amount stays
non-negative when the items of a settled run are posted in the order `earlier`. -/
theorem postAll_insertionSort_take_nonneg [DecidableEq α] {earlier : α → α → Prop}
    [DecidableRel earlier] {b : Book K A} {items : List α} (hnodup : items.Nodup)
    (hb : ∀ key, 0 ≤ b key) (hdebit : ∀ a ∈ items, 0 ≤ (transfer a).debit)
    (hcredit : ∀ a ∈ items, 0 ≤ (transfer a).credit) (hset : b.Settles (items.map transfer))
    (hlate : NoLateCredit transfer earlier items) (n : Nat) (key : K) :
    0 ≤ b.postAll (((items.insertionSort earlier).take n).map transfer) key := by
  have hperm := List.perm_insertionSort earlier items
  have hsorted : (items.insertionSort earlier).Nodup := hperm.nodup_iff.mpr hnodup
  -- the prefix posts the items of a filter, in another order
  have hfilter : (items.filter fun a => decide (a ∈ (items.insertionSort earlier).take n)).Perm
      ((items.insertionSort earlier).take n) := by
    refine (List.perm_ext_iff_of_nodup (hnodup.filter _)
      (hsorted.sublist (List.take_sublist n _))).mpr ?_
    intro a
    simp only [List.mem_filter, decide_eq_true_eq, and_iff_right_iff_imp]
    intro ha
    exact hperm.mem_iff.mp (List.mem_of_mem_take ha)
  rw [← postAll_apply_perm b (hfilter.map transfer) key]
  refine postAll_filter_nonneg transfer _ hb hdebit hcredit hset ?_ key
  rw [List.pairwise_iff_forall_sublist]
  intro i j hij hi hj
  refine List.pairwise_iff_forall_sublist.mp hlate hij ?_
  intro hle
  have hmem := mem_take_of_pair_sublist hsorted (List.pair_sublist_insertionSort hle hij)
    (of_decide_eq_true hj)
  exact of_decide_eq_false hi hmem

end Reordering

end TaModel.Library
