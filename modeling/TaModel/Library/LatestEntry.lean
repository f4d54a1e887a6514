import Mathlib.Data.List.AList
import Mathlib.Data.List.Sort

/-!
# The latest entry of each key of a log

A log is read by sorting its entries, stably, under a total preorder `r` and letting later entries
overwrite earlier ones of the same key. `lookup_latestEntries_append` says what one more entry
does: it replaces the latest entry of its own key when that one is not strictly after it, and it
leaves every other key alone.
-/

set_option autoImplicit false

namespace TaModel.Library

variable {α κ : Type} (r : α → α → Prop) [DecidableRel r]

/-! ## Stable sorting -/

section Sorting

theorem filter_orderedInsert_of_neg (p : α → Bool) {a : α} (ha : p a = false) (l : List α) :
    (l.orderedInsert r a).filter p = l.filter p := by
  induction l with
  | nil => simp [ha]
  | cons b l ih =>
      rw [List.orderedInsert_cons]
      split_ifs
      · rw [List.filter_cons_of_neg (by simp [ha])]
      · rw [List.filter_cons, List.filter_cons, ih]

variable [IsTrans α r]

theorem filter_orderedInsert_of_pos (p : α → Bool) {a : α} (ha : p a = true) {l : List α}
    (hl : l.Pairwise r) : (l.orderedInsert r a).filter p = (l.filter p).orderedInsert r a := by
  induction l with
  | nil => simp [ha]
  | cons b l ih =>
      obtain ⟨hb, hl⟩ := List.pairwise_cons.mp hl
      rw [List.orderedInsert_cons]
      split_ifs with hab
      · -- everything after `b` is above `a` too, so `a` goes in front of the filtered list
        rw [List.filter_cons_of_pos ha]
        have hfront : ∀ c ∈ (b :: l).filter p, r a c := by
          intro c hc
          rcases List.mem_cons.mp (List.mem_of_mem_filter hc) with rfl | hc
          · exact hab
          · exact IsTrans.trans a b c hab (hb c hc)
        cases hfilter : (b :: l).filter p with
        | nil => rfl
        | cons c cs =>
            rw [List.orderedInsert_cons_of_le r cs (hfront c (by simp [hfilter]))]
      · by_cases hpb : p b = true
        · rw [List.filter_cons_of_pos hpb, List.filter_cons_of_pos hpb, ih hl,
            List.orderedInsert_cons, if_neg hab]
        · rw [List.filter_cons_of_neg hpb, List.filter_cons_of_neg hpb, ih hl]

/-- The last entry after an insertion into a sorted list: the old last entry, unless the new one is
strictly after it. -/
theorem getLast?_orderedInsert {a m : α} {l : List α} (hl : l.Pairwise r)
    (hm : l.getLast? = some m) :
    (l.orderedInsert r a).getLast? = some (if r a m then m else a) := by
  induction l with
  | nil => cases hm
  | cons b l ih =>
      obtain ⟨hb, hl⟩ := List.pairwise_cons.mp hl
      rw [List.orderedInsert_cons]
      cases l with
      | nil =>
          have hbm : b = m := by simpa using hm
          subst hbm
          split_ifs <;> rfl
      | cons c l =>
          rw [List.getLast?_cons_cons] at hm
          have hbm : r b m := hb m (List.mem_of_getLast? hm)
          by_cases hab : r a b
          · have ham : r a m := IsTrans.trans a b m hab hbm
            rw [if_pos hab, if_pos ham, List.getLast?_cons_cons, List.getLast?_cons_cons]
            exact hm
          · have hne : ((c :: l).orderedInsert r a) ≠ [] := by
              intro hnil
              have hmem : a ∈ (c :: l).orderedInsert r a :=
                (List.mem_orderedInsert r).mpr (Or.inl rfl)
              rw [hnil] at hmem
              cases hmem
            obtain ⟨d, ds, hds⟩ := List.exists_cons_of_ne_nil hne
            rw [if_neg hab, hds, List.getLast?_cons_cons, ← hds]
            exact ih hl hm

variable [Std.Total r]

/-- Filtering commutes with stable sorting. -/
theorem filter_insertionSort (p : α → Bool) (l : List α) :
    (l.insertionSort r).filter p = (l.filter p).insertionSort r := by
  induction l with
  | nil => rfl
  | cons a l ih =>
      rw [List.insertionSort_cons]
      by_cases ha : p a = true
      · rw [filter_orderedInsert_of_pos r p ha (List.pairwise_insertionSort r l), ih,
          List.filter_cons_of_pos ha, List.insertionSort_cons]
      · rw [filter_orderedInsert_of_neg r p (by simpa using ha), ih, List.filter_cons_of_neg ha]

/-- The last entry after one more entry was sorted in: the new one, unless the old last entry is
strictly after it. -/
theorem getLast?_insertionSort_append (l : List α) (x : α) :
    ((l ++ [x]).insertionSort r).getLast? =
      some (match (l.insertionSort r).getLast? with
        | none => x
        | some m => if r m x then x else m) := by
  induction l with
  | nil => rfl
  | cons a l ih =>
      rw [List.cons_append, List.insertionSort_cons, List.insertionSort_cons,
        getLast?_orderedInsert r (List.pairwise_insertionSort r _) ih]
      cases hlast : (l.insertionSort r).getLast? with
      | none =>
          have hnil : l.insertionSort r = [] := List.getLast?_eq_none_iff.mp hlast
          rw [hnil]
          rfl
      | some m =>
          rw [getLast?_orderedInsert r (List.pairwise_insertionSort r l) hlast]
          -- which of `a`, `m` and `x` is last, by cases on their order
          by_cases ham : r a m
          · by_cases hmx : r m x
            · simp [ham, hmx, IsTrans.trans a m x ham hmx]
            · simp [ham, hmx]
          · have hma : r m a := (Std.Total.total a m).resolve_left ham
            by_cases hmx : r m x
            · by_cases hax : r a x
              · simp [ham, hmx, hax]
              · simp [ham, hmx, hax]
            · have hax : ¬ r a x := fun hax => hmx (IsTrans.trans m a x hma hax)
              simp [ham, hmx, hax]

end Sorting

/-! ## Latest entries -/

section Latest

variable [DecidableEq κ] (key : α → κ)

/-- Sort the log and let later entries overwrite earlier ones of the same key. -/
def latestEntries (entries : List α) : AList (fun _ : κ => α) :=
  (entries.insertionSort r).foldl (fun latest x => latest.insert (key x) x) ∅

theorem lookup_foldl_insert (entries : List α) (latest : AList (fun _ : κ => α)) (k : κ) :
    (entries.foldl (fun latest x => latest.insert (key x) x) latest).lookup k =
      ((entries.filter fun x => decide (key x = k)).getLast?).or (latest.lookup k) := by
  induction entries generalizing latest with
  | nil => rfl
  | cons x entries ih =>
      rw [List.foldl_cons, ih]
      by_cases hx : key x = k
      · subst hx
        rw [AList.lookup_insert, List.filter_cons_of_pos (by simp), List.getLast?_cons]
        cases (entries.filter fun y => decide (key y = key x)).getLast? <;> rfl
      · rw [AList.lookup_insert_ne (Ne.symm hx), List.filter_cons_of_neg (by simp [hx])]

variable [IsTrans α r] [Std.Total r]

/-- The latest entry of a key is the last one of its own entries. -/
theorem lookup_latestEntries (entries : List α) (k : κ) :
    (latestEntries r key entries).lookup k =
      ((entries.filter fun x => decide (key x = k)).insertionSort r).getLast? := by
  simp only [latestEntries]
  rw [lookup_foldl_insert, filter_insertionSort, AList.lookup_empty, Option.or_none]

/-- The latest entry of a key is one of its entries. -/
theorem lookup_latestEntries_some {entries : List α} {k : κ} {x : α}
    (h : (latestEntries r key entries).lookup k = some x) :
    x ∈ entries ∧ key x = k := by
  rw [lookup_latestEntries] at h
  have hmem := (List.mem_insertionSort r).mp (List.mem_of_getLast? h)
  obtain ⟨hx, hkey⟩ := List.mem_filter.mp hmem
  exact ⟨hx, of_decide_eq_true hkey⟩

/-- A key without a latest entry has no entries. -/
theorem lookup_latestEntries_none {entries : List α} {k : κ}
    (h : (latestEntries r key entries).lookup k = none) {x : α} (hx : x ∈ entries) :
    key x ≠ k := by
  rw [lookup_latestEntries, List.getLast?_eq_none_iff] at h
  intro hkey
  have hmem : x ∈ entries.filter fun x => decide (key x = k) :=
    List.mem_filter.mpr ⟨hx, decide_eq_true hkey⟩
  have hsorted := (List.mem_insertionSort r).mpr hmem
  rw [h] at hsorted
  cases hsorted

theorem lookup_latestEntries_append (entries : List α) (x : α) (k : κ) :
    (latestEntries r key (entries ++ [x])).lookup k =
      if key x = k then
        some (match (latestEntries r key entries).lookup k with
          | none => x
          | some m => if r m x then x else m)
      else (latestEntries r key entries).lookup k := by
  rw [lookup_latestEntries, lookup_latestEntries, List.filter_append]
  split_ifs with hx
  · rw [List.filter_cons_of_pos (by simp [hx]), List.filter_nil]
    exact getLast?_insertionSort_append r _ x
  · rw [List.filter_cons_of_neg (by simp [hx]), List.filter_nil, List.append_nil]

end Latest

end TaModel.Library
