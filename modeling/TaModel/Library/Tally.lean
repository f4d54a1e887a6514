import Mathlib.Data.List.Dedup
import Mathlib.Data.List.Sort
import Mathlib.Data.Finset.Card
import Mathlib.Algebra.BigOperators.Group.List.Lemmas
import Mathlib.Algebra.GroupWithZero.Nat

/-!
# Counting items by a key

`tally key as` counts the items of `as` as an insertion-ordered counter does: one entry for each key,
under the first item that has it. `IsTally` says what the counter of a list holds, and the sums over
its entries follow from that.
-/

set_option autoImplicit false

namespace TaModel.Library

universe u v

variable {α : Type u} {κ : Type v} [DecidableEq κ] (key : α → κ)

/-- `counts[a] += 1`. -/
def tallyStep (counts : List (α × Nat)) (a : α) : List (α × Nat) :=
  if ∃ entry ∈ counts, key entry.1 = key a then
    counts.map fun entry => if key entry.1 = key a then (entry.1, entry.2 + 1) else entry
  else counts ++ [(a, 1)]

/-- The counter of a list. -/
def tally (as : List α) : List (α × Nat) := as.foldl (tallyStep key) []

/-- The number of items with a key. -/
def occurrences (as : List α) (k : κ) : Nat := as.countP fun a => decide (key a = k)

/-- `counts[k]`, zero for a missing key. -/
def countOf (counts : List (α × Nat)) (k : κ) : Nat :=
  ((counts.find? fun entry => decide (key entry.1 = k)).map Prod.snd).getD 0

/-- The entries count the items of the list: one entry for each key, with its occurrences. -/
structure IsTally (as : List α) (counts : List (α × Nat)) : Prop where
  keys_nodup : (counts.map fun entry => key entry.1).Nodup
  entry_counts : ∀ entry ∈ counts, entry.2 = occurrences key as (key entry.1)
  entry_mem : ∀ entry ∈ counts, entry.1 ∈ as
  complete : ∀ a ∈ as, ∃ entry ∈ counts, key entry.1 = key a

variable {key}

theorem occurrences_concat (as : List α) (a : α) (k : κ) :
    occurrences key (as ++ [a]) k = occurrences key as k + if key a = k then 1 else 0 := by
  simp [occurrences, List.countP_append, List.countP_singleton]

theorem occurrences_eq_zero_iff {as : List α} {k : κ} :
    occurrences key as k = 0 ↔ ∀ a ∈ as, key a ≠ k := by
  simp [occurrences, List.countP_eq_zero]

/-- One more item keeps the counter right. -/
theorem IsTally.step {as : List α} {counts : List (α × Nat)} (h : IsTally key as counts) (a : α) :
    IsTally key (as ++ [a]) (tallyStep key counts a) := by
  rw [tallyStep]
  split
  · next hseen =>
      have hkeys : ∀ entry : α × Nat,
          key (if key entry.1 = key a then (entry.1, entry.2 + 1) else entry).1 = key entry.1 := by
        intro entry
        split <;> rfl
      refine ⟨?_, ?_, ?_, ?_⟩
      · rw [List.map_map]
        simp only [Function.comp_def, hkeys]
        exact h.keys_nodup
      · intro entry hentry
        obtain ⟨old, hold, rfl⟩ := List.mem_map.mp hentry
        rw [hkeys, occurrences_concat, ← h.entry_counts old hold]
        by_cases hkey : key old.1 = key a
        · rw [if_pos hkey, if_pos hkey.symm]
        · rw [if_neg hkey, if_neg fun heq => hkey heq.symm]
          rfl
      · intro entry hentry
        obtain ⟨old, hold, rfl⟩ := List.mem_map.mp hentry
        have hmem := List.mem_append_left [a] (h.entry_mem old hold)
        split <;> exact hmem
      · intro b hb
        -- the new item has an entry already
        obtain ⟨entry, hentry, hkey⟩ : ∃ entry ∈ counts, key entry.1 = key b := by
          rcases List.mem_append.mp hb with hold | hnew
          · exact h.complete b hold
          · rw [List.mem_singleton.mp hnew]
            exact hseen
        exact ⟨_, List.mem_map.mpr ⟨entry, hentry, rfl⟩, (hkeys entry).trans hkey⟩
  · next hnew =>
      have hfresh : ∀ entry ∈ counts, key entry.1 ≠ key a :=
        fun entry hentry hkey => hnew ⟨entry, hentry, hkey⟩
      have hzero : occurrences key as (key a) = 0 := by
        refine occurrences_eq_zero_iff.mpr fun b hb hkey => ?_
        obtain ⟨entry, hentry, hsame⟩ := h.complete b hb
        exact hfresh entry hentry (hsame.trans hkey)
      refine ⟨?_, ?_, ?_, ?_⟩
      · rw [List.map_append, List.nodup_append]
        refine ⟨h.keys_nodup, List.nodup_singleton _, ?_⟩
        intro k hk k' hk' heq
        obtain ⟨entry, hentry, rfl⟩ := List.mem_map.mp hk
        obtain rfl := List.mem_singleton.mp hk'
        exact hfresh entry hentry heq
      · intro entry hentry
        rw [occurrences_concat]
        rcases List.mem_append.mp hentry with hold | hlast
        · rw [if_neg fun heq => hfresh entry hold heq.symm]
          exact h.entry_counts entry hold
        · rw [List.mem_singleton.mp hlast, hzero, if_pos rfl]
      · intro entry hentry
        rcases List.mem_append.mp hentry with hold | hlast
        · exact List.mem_append_left [a] (h.entry_mem entry hold)
        · rw [List.mem_singleton.mp hlast]
          exact List.mem_append_right as (List.mem_singleton_self a)
      · intro b hb
        rcases List.mem_append.mp hb with hold | hlast
        · obtain ⟨entry, hentry, hkey⟩ := h.complete b hold
          exact ⟨entry, List.mem_append_left _ hentry, hkey⟩
        · rw [List.mem_singleton.mp hlast]
          exact ⟨(a, 1), List.mem_append_right _ (List.mem_singleton_self _), rfl⟩

theorem isTally_tally (as : List α) : IsTally key as (tally key as) := by
  induction as using List.reverseRecOn with
  | nil => exact ⟨List.nodup_nil, nofun, nofun, nofun⟩
  | append_singleton as a ih =>
      rw [tally, List.foldl_append]
      exact ih.step a

namespace IsTally

variable {as : List α} {counts : List (α × Nat)}

theorem countOf_eq (h : IsTally key as counts) (k : κ) : countOf key counts k = occurrences key as k := by
  rw [countOf]
  cases hfound : counts.find? fun entry => decide (key entry.1 = k) with
  | none =>
      refine (occurrences_eq_zero_iff.mpr fun a ha hkey => ?_).symm
      obtain ⟨entry, hentry, hsame⟩ := h.complete a ha
      have hnot := List.find?_eq_none.mp hfound entry hentry
      exact hnot (decide_eq_true (hsame.trans hkey))
  | some entry =>
      have hkey : key entry.1 = k := by simpa using List.find?_some hfound
      rw [← hkey]
      exact h.entry_counts entry (List.mem_of_find?_eq_some hfound)

/-- Every entry counts something. -/
theorem entry_pos (h : IsTally key as counts) {entry : α × Nat} (hentry : entry ∈ counts) :
    0 < entry.2 := by
  rw [h.entry_counts entry hentry, occurrences, List.countP_pos_iff]
  exact ⟨entry.1, h.entry_mem entry hentry, decide_eq_true rfl⟩

/-- Entries in another order count the same. -/
theorem perm (h : IsTally key as counts) {counts' : List (α × Nat)} (hperm : counts'.Perm counts) :
    IsTally key as counts' := by
  refine ⟨?_, ?_, ?_, ?_⟩
  · exact (hperm.map fun entry => key entry.1).nodup_iff.mpr h.keys_nodup
  · intro entry hentry
    exact h.entry_counts entry (hperm.mem_iff.mp hentry)
  · intro entry hentry
    exact h.entry_mem entry (hperm.mem_iff.mp hentry)
  · intro a ha
    obtain ⟨entry, hentry, hkey⟩ := h.complete a ha
    exact ⟨entry, hperm.mem_iff.mpr hentry, hkey⟩

/-- The keys that are counted, with their counts. -/
theorem exists_entry_iff (h : IsTally key as counts) (k : κ) (n : Nat) :
    (∃ entry ∈ counts, key entry.1 = k ∧ entry.2 = n) ↔
      (∃ a ∈ as, key a = k) ∧ n = occurrences key as k := by
  constructor
  · rintro ⟨entry, hentry, rfl, rfl⟩
    exact ⟨⟨entry.1, h.entry_mem entry hentry, rfl⟩, h.entry_counts entry hentry⟩
  · rintro ⟨⟨a, ha, rfl⟩, rfl⟩
    obtain ⟨entry, hentry, hkey⟩ := h.complete a ha
    refine ⟨entry, hentry, hkey, ?_⟩
    rw [h.entry_counts entry hentry, hkey]

/-- Sorted by a rank that tells keys apart, the entries increase strictly. -/
theorem pairwise_rank_lt {ρ : Type*} [LinearOrder ρ] {rank : κ → ρ}
    (hrank : Function.Injective rank) (h : IsTally key as counts) :
    (counts.insertionSort fun a b => rank (key a.1) ≤ rank (key b.1)).Pairwise fun a b =>
      rank (key a.1) < rank (key b.1) := by
  have htotal : Std.Total fun a b : α × Nat => rank (key a.1) ≤ rank (key b.1) :=
    ⟨fun _ _ => le_total _ _⟩
  have htrans : IsTrans (α × Nat) fun a b => rank (key a.1) ≤ rank (key b.1) :=
    ⟨fun _ _ _ => le_trans⟩
  have hsorted := List.pairwise_insertionSort
    (fun a b : α × Nat => rank (key a.1) ≤ rank (key b.1)) counts
  have hnodup := (h.perm (List.perm_insertionSort
    (fun a b : α × Nat => rank (key a.1) ≤ rank (key b.1)) counts)).keys_nodup
  rw [List.Nodup, List.pairwise_map] at hnodup
  refine (hsorted.and hnodup).imp ?_
  rintro a b ⟨hle, hne⟩
  exact lt_of_le_of_ne hle fun heq => hne (hrank heq)

/-- The keys of the entries are those of the items, each once. -/
theorem keys_perm (h : IsTally key as counts) :
    (counts.map fun entry => key entry.1).Perm (as.map key).dedup := by
  refine (List.perm_ext_iff_of_nodup h.keys_nodup (List.nodup_dedup _)).mpr fun k => ?_
  rw [List.mem_dedup]
  constructor
  · intro hk
    obtain ⟨entry, hentry, rfl⟩ := List.mem_map.mp hk
    exact List.mem_map_of_mem (h.entry_mem entry hentry)
  · intro hk
    obtain ⟨a, ha, rfl⟩ := List.mem_map.mp hk
    obtain ⟨entry, hentry, hkey⟩ := h.complete a ha
    exact List.mem_map.mpr ⟨entry, hentry, hkey⟩

theorem length_eq (h : IsTally key as counts) : counts.length = (as.map key).toFinset.card := by
  rw [List.card_toFinset, ← h.keys_perm.length_eq, List.length_map]

/-- The counts add up to the number of items. -/
theorem sum_eq (h : IsTally key as counts) : (counts.map Prod.snd).sum = as.length := by
  have hcounts : counts.map Prod.snd =
      (counts.map fun entry => key entry.1).map fun k => (as.map key).count k := by
    rw [List.map_map]
    refine List.map_congr_left fun entry hentry => ?_
    rw [h.entry_counts entry hentry, Function.comp_apply, occurrences, List.count, List.countP_map]
    rfl
  rw [hcounts, (h.keys_perm.map _).sum_eq, List.sum_map_count_dedup_eq_length, List.length_map]

/-- The counts beyond the first of each key add up to the items that are not first. -/
theorem sum_beyond_first (h : IsTally key as counts) :
    ((counts.filter fun entry => decide (1 < entry.2)).map fun entry => entry.2 - 1).sum =
      as.length - (as.map key).toFinset.card := by
  have hsplit : ∀ entries : List (α × Nat), (∀ entry ∈ entries, 0 < entry.2) →
      ((entries.filter fun entry => decide (1 < entry.2)).map fun entry => entry.2 - 1).sum +
        entries.length = (entries.map Prod.snd).sum := by
    intro entries hpos
    induction entries with
    | nil => rfl
    | cons entry entries ih =>
        have hrest := ih fun other hother => hpos other (List.mem_cons_of_mem entry hother)
        have hentry := hpos entry List.mem_cons_self
        rw [List.map_cons, List.sum_cons, ← hrest, List.length_cons]
        by_cases hmany : 1 < entry.2
        · rw [List.filter_cons_of_pos (by simpa using hmany), List.map_cons, List.sum_cons]
          omega
        · rw [List.filter_cons_of_neg (by simpa using hmany)]
          omega
  have htotal := hsplit counts fun entry hentry => h.entry_pos hentry
  rw [h.sum_eq, h.length_eq] at htotal
  omega

end IsTally

end TaModel.Library
