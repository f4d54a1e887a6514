import Mathlib.Data.List.Nodup
import Mathlib.Data.List.Sort

/-!
# Lists whose items have a key

A dictionary that is filled item by item can refuse a key it already has (`collectFresh`). Where keys
are distinct, looking one up does not depend on the order of the items; where equal keys mean equal
items, neither does sorting by the key.
-/

set_option autoImplicit false

namespace TaModel.Library

universe u v

variable {α ε : Type u} {κ : Type v} [DecidableEq κ] (key : α → κ)

/-! ## Lookups -/

/-- `entries[k]`. -/
def lookupKey (entries : List α) (k : κ) : Option α :=
  entries.find? fun entry => decide (key entry = k)

variable {key}

theorem lookupKey_eq_some_iff {entries : List α} (hnodup : (entries.map key).Nodup) (k : κ) (a : α) :
    lookupKey key entries k = some a ↔ a ∈ entries ∧ key a = k := by
  constructor
  · intro h
    have htest := List.find?_some h
    exact ⟨List.mem_of_find?_eq_some h, of_decide_eq_true htest⟩
  · rintro ⟨hmem, rfl⟩
    induction entries with
    | nil => cases hmem
    | cons entry entries ih =>
        rw [List.map_cons, List.nodup_cons] at hnodup
        rcases List.mem_cons.mp hmem with rfl | hrest
        · exact List.find?_cons_of_pos (decide_eq_true rfl)
        · have hne : key entry ≠ key a := by
            intro heq
            apply hnodup.1
            rw [heq]
            exact List.mem_map_of_mem hrest
          rw [lookupKey, List.find?_cons_of_neg (by simpa using hne)]
          exact ih hnodup.2 hrest

/-- Where keys are distinct, the order of the entries does not matter. -/
theorem lookupKey_perm {entries entries' : List α} (hperm : entries.Perm entries')
    (hnodup : (entries.map key).Nodup) (k : κ) :
    lookupKey key entries k = lookupKey key entries' k := by
  have hnodup' : (entries'.map key).Nodup := (hperm.map key).nodup_iff.mp hnodup
  apply Option.ext
  intro a
  rw [lookupKey_eq_some_iff hnodup, lookupKey_eq_some_iff hnodup', hperm.mem_iff]

/-! ## Collecting distinct keys -/

/-- One turn of a loop that files an item under its key. -/
def insertFresh (key : α → κ) (error : ε) (entries : List α) (a : α) : Except ε (List α) :=
  if key a ∈ entries.map key then .error error else .ok (entries ++ [a])

/-- The items under their keys, unless a key occurs twice. -/
def collectFresh (key : α → κ) (error : ε) (as : List α) : Except ε (List α) :=
  as.foldlM (insertFresh key error) []

theorem foldlM_insertFresh (error : ε) (as entries : List α) (hentries : (entries.map key).Nodup) :
    as.foldlM (insertFresh key error) entries =
      if ((entries ++ as).map key).Nodup then .ok (entries ++ as) else .error error := by
  induction as generalizing entries with
  | nil =>
      rw [List.append_nil, if_pos hentries]
      rfl
  | cons a as ih =>
      rw [List.foldlM_cons, insertFresh]
      by_cases hmem : key a ∈ entries.map key
      · have hrepeated : ¬ ((entries ++ a :: as).map key).Nodup := by
          rw [List.map_append, List.map_cons]
          intro hnodup
          exact (List.nodup_append.mp hnodup).2.2 _ hmem _ List.mem_cons_self rfl
        rw [if_pos hmem, if_neg hrepeated]
        rfl
      · have hnext : ((entries ++ [a]).map key).Nodup := by
          rw [List.map_append, List.map_singleton]
          exact List.nodup_append.mpr ⟨hentries, List.nodup_singleton _, by
            intro k hk k' hk' heq
            rw [List.mem_singleton.mp hk'] at heq
            exact hmem (heq ▸ hk)⟩
        rw [if_neg hmem, List.append_cons entries a as, ← ih (entries ++ [a]) hnext]
        rfl

/-- The loop keeps every item in order, and fails exactly on a repeated key. -/
theorem collectFresh_eq (error : ε) (as : List α) :
    collectFresh key error as = if (as.map key).Nodup then .ok as else .error error :=
  foldlM_insertFresh error as [] List.nodup_nil

/-! ## Sorting by the key -/

/-- Items with equal keys are equal. -/
def KeyDetermines (key : α → κ) (as : List α) : Prop :=
  ∀ a ∈ as, ∀ b ∈ as, key a = key b → a = b

omit [DecidableEq κ] in
/-- Where the key determines the item, the order of the items does not matter to a sort by key. -/
theorem insertionSort_perm_of_keyDetermines [LinearOrder κ] {as bs : List α} (hperm : as.Perm bs)
    (hkey : KeyDetermines key as) :
    as.insertionSort (fun a b => key a ≤ key b) = bs.insertionSort fun a b => key a ≤ key b := by
  have htotal : Std.Total (fun a b : α => key a ≤ key b) := ⟨fun a b => le_total (key a) (key b)⟩
  have htrans : IsTrans α (fun a b : α => key a ≤ key b) := ⟨fun _ _ _ => le_trans⟩
  have hsorted := (List.perm_insertionSort (fun a b => key a ≤ key b) as).trans
    (hperm.trans (List.perm_insertionSort (fun a b => key a ≤ key b) bs).symm)
  refine hsorted.eq_of_pairwise ?_ (List.pairwise_insertionSort _ as)
    (List.pairwise_insertionSort _ bs)
  intro a b ha hb hab hba
  exact hkey a (((List.perm_insertionSort _ as).mem_iff).mp ha) b
    (hperm.mem_iff.mpr (((List.perm_insertionSort _ bs).mem_iff).mp hb)) (le_antisymm hab hba)

end TaModel.Library
