import Mathlib.Data.List.Chain
import Mathlib.Data.Set.Lattice
import Mathlib.Order.CompletePartialOrder
import Mathlib.Order.WithBot

/-!
# Half-open windows

Windows `[start, stop)` whose end may be infinite. A list sorted by start is pairwise disjoint as
soon as every window ends no later than its neighbour starts (`isChain_iff_pairwise_disjoint`).
The instants are only preordered: two of them may be equally late without being the same.
-/

set_option autoImplicit false

namespace TaModel.Library

universe u v

variable {α : Type u} {ι : Type v} [Preorder α] {start : ι → α} {stop : ι → WithTop α}

/-- The instants of a window. -/
def window (start : ι → α) (stop : ι → WithTop α) (i : ι) : Set α :=
  {t | start i ≤ t ∧ (t : WithTop α) < stop i}

/-- `b` starts no earlier than `a` and not within it. -/
def Follows (start : ι → α) (stop : ι → WithTop α) (a b : ι) : Prop :=
  start a ≤ start b ∧ ¬ (start b : WithTop α) < stop a

/-- What follows the next window follows this one. -/
theorem Follows.trans {a b c : ι} (hab : Follows start stop a b) (hbc : Follows start stop b c) :
    Follows start stop a c := by
  refine ⟨hab.1.trans hbc.1, fun hinside => hab.2 ?_⟩
  exact lt_of_le_of_lt (WithTop.coe_le_coe.mpr hbc.1) hinside

instance : Trans (Follows start stop) (Follows start stop) (Follows start stop) :=
  ⟨Follows.trans⟩

/-- Of two windows that are not empty, the later one follows exactly if they are disjoint. -/
theorem follows_iff_disjoint {a b : ι} (hle : start a ≤ start b)
    (hb : (start b : WithTop α) < stop b) :
    Follows start stop a b ↔ Disjoint (window start stop a) (window start stop b) := by
  rw [Set.disjoint_left]
  constructor
  · intro hfollows t hta htb
    exact hfollows.2 (lt_of_le_of_lt (WithTop.coe_le_coe.mpr htb.1) hta.2)
  · intro hdisjoint
    -- the start of `b` is an instant of `b`
    exact ⟨hle, fun hinside => hdisjoint ⟨hle, hinside⟩ ⟨le_refl _, hb⟩⟩

/-- On a list sorted by start it is enough to compare neighbours. -/
theorem isChain_iff_pairwise_disjoint {l : List ι}
    (hsorted : l.Pairwise fun a b => start a ≤ start b)
    (hpos : ∀ i ∈ l, (start i : WithTop α) < stop i) :
    l.IsChain (Follows start stop) ↔
      l.Pairwise fun a b => Disjoint (window start stop a) (window start stop b) := by
  rw [List.isChain_iff_pairwise]
  constructor
  · intro hfollows
    refine hfollows.imp_of_mem ?_
    intro a b _ hb h
    exact (follows_iff_disjoint h.1 (hpos b hb)).mp h
  · intro hdisjoint
    refine (hsorted.and hdisjoint).imp_of_mem ?_
    intro a b _ hb h
    exact (follows_iff_disjoint h.1 (hpos b hb)).mpr h.2

/-- Disjoint windows are in force one at a time. -/
theorem length_filter_le_one {l : List ι} {p : ι → Bool} {t : α}
    (hdisjoint : l.Pairwise fun a b => p a → p b →
      Disjoint (window start stop a) (window start stop b))
    (hp : ∀ i ∈ l, p i → t ∈ window start stop i) : (l.filter p).length ≤ 1 := by
  induction l with
  | nil => exact Nat.zero_le 1
  | cons a l ih =>
      obtain ⟨hhead, hrest⟩ := List.pairwise_cons.mp hdisjoint
      by_cases ha : p a
      · have hnone : l.filter p = [] := by
          rw [List.filter_eq_nil_iff]
          intro b hb hpb
          exact Set.disjoint_left.mp (hhead b hb ha hpb) (hp a List.mem_cons_self ha)
            (hp b (List.mem_cons_of_mem a hb) hpb)
        rw [List.filter_cons_of_pos ha, hnone]
        exact le_refl 1
      · rw [List.filter_cons_of_neg ha]
        exact ih hrest fun i hi => hp i (List.mem_cons_of_mem a hi)

end TaModel.Library
