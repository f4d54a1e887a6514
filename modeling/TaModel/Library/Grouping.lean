import Mathlib.Data.List.Basic

/-!
# Grouping the values of a list by key

`grouped` walks a list of keyed values and appends each value to the group of its key, which is
opened at the key's first value. `lookup_grouped` says what a key finds: its values in their order,
and no group at all when it has none.
-/

set_option autoImplicit false

namespace TaModel.Library

variable {κ α : Type} [DecidableEq κ]

/-- Append a value to the group of its key, opening the group when there is none. -/
def appendTo (key : κ) (value : α) : List (κ × List α) → List (κ × List α)
  | [] => [(key, [value])]
  | (k, values) :: groups =>
      if k = key then (k, values ++ [value]) :: groups
      else (k, values) :: appendTo key value groups

/-- The groups of a list of keyed values. -/
def grouped (entries : List (κ × α)) : List (κ × List α) :=
  entries.foldl (fun groups entry => appendTo entry.1 entry.2 groups) []

/-- The values of a key. -/
def valuesOf (key : κ) (entries : List (κ × α)) : List α :=
  (entries.filter fun entry => decide (entry.1 = key)).map Prod.snd

theorem lookup_appendTo_self (key : κ) (value : α) (groups : List (κ × List α)) :
    (appendTo key value groups).lookup key = some ((groups.lookup key).getD [] ++ [value]) := by
  induction groups with
  | nil => simp [appendTo]
  | cons group groups ih =>
      obtain ⟨k, values⟩ := group
      by_cases hk : k = key
      · simp [appendTo, hk]
      · have hbeq : (key == k) = false := beq_false_of_ne (Ne.symm hk)
        simp [appendTo, hk, List.lookup_cons, hbeq, ih]

theorem lookup_appendTo_of_ne {key other : κ} (h : other ≠ key) (value : α)
    (groups : List (κ × List α)) :
    (appendTo key value groups).lookup other = groups.lookup other := by
  have hbeq : (other == key) = false := beq_false_of_ne h
  induction groups with
  | nil => simp [appendTo, List.lookup_cons, hbeq]
  | cons group groups ih =>
      obtain ⟨k, values⟩ := group
      by_cases hk : k = key
      · simp [appendTo, hk, List.lookup_cons, hbeq]
      · simp only [appendTo, if_neg hk, List.lookup_cons, ih]

/-- What a list of keyed values adds to the groups so far. -/
theorem lookup_foldl_appendTo (key : κ) (entries : List (κ × α)) (groups : List (κ × List α)) :
    (entries.foldl (fun groups entry => appendTo entry.1 entry.2 groups) groups).lookup key =
      if valuesOf key entries = [] then groups.lookup key
      else some ((groups.lookup key).getD [] ++ valuesOf key entries) := by
  induction entries generalizing groups with
  | nil => rfl
  | cons entry entries ih =>
      obtain ⟨k, value⟩ := entry
      rw [List.foldl_cons, ih]
      rcases eq_or_ne k key with rfl | hk
      · -- the group of `k` is open after this value, whatever follows
        have hvalues : valuesOf k ((k, value) :: entries) = value :: valuesOf k entries := by
          simp [valuesOf]
        rw [lookup_appendTo_self, hvalues, if_neg (List.cons_ne_nil _ _)]
        split_ifs with hnone
        · rw [hnone]
        · rw [Option.getD_some, List.append_assoc, List.singleton_append]
      · have hvalues : valuesOf key ((k, value) :: entries) = valuesOf key entries := by
          simp [valuesOf, hk]
        rw [lookup_appendTo_of_ne (Ne.symm hk), hvalues]

/-- A key finds its values in their order, and nothing when it has none. -/
theorem lookup_grouped (key : κ) (entries : List (κ × α)) :
    (grouped entries).lookup key =
      if valuesOf key entries = [] then none else some (valuesOf key entries) := by
  rw [grouped, lookup_foldl_appendTo]
  simp

/-- A group that has values, all of them among some keyed values. -/
def GroupOf (entries : List (κ × α)) (group : κ × List α) : Prop :=
  group.2 ≠ [] ∧ ∀ value ∈ group.2, (group.1, value) ∈ entries

theorem groupOf_appendTo {entries : List (κ × α)} {key : κ} {value : α}
    {groups : List (κ × List α)} (hentry : (key, value) ∈ entries)
    (h : ∀ group ∈ groups, GroupOf entries group) :
    ∀ group ∈ appendTo key value groups, GroupOf entries group := by
  induction groups with
  | nil =>
      refine List.forall_mem_singleton.mpr ⟨List.cons_ne_nil _ _, ?_⟩
      exact List.forall_mem_singleton.mpr hentry
  | cons group groups ih =>
      obtain ⟨k, values⟩ := group
      obtain ⟨hhead, htail⟩ := List.forall_mem_cons.mp h
      by_cases hk : k = key
      · rw [appendTo, if_pos hk]
        refine List.forall_mem_cons.mpr ⟨⟨by simp, fun v hv => ?_⟩, htail⟩
        rcases List.mem_append.mp hv with hold | hnew
        · exact hhead.2 v hold
        · rw [List.mem_singleton.mp hnew, hk]
          exact hentry
      · rw [appendTo, if_neg hk]
        exact List.forall_mem_cons.mpr ⟨hhead, ih htail⟩

/-- A group is opened by a value, and it holds values of its key only. -/
theorem groupOf_of_mem_grouped {entries : List (κ × α)} {group : κ × List α}
    (h : group ∈ grouped entries) : GroupOf entries group := by
  have hfold : ∀ (rest : List (κ × α)) (groups : List (κ × List α)), rest ⊆ entries →
      (∀ group ∈ groups, GroupOf entries group) →
      ∀ group ∈ rest.foldl (fun groups entry => appendTo entry.1 entry.2 groups) groups,
        GroupOf entries group := by
    intro rest
    induction rest with
    | nil => exact fun _ _ hgroups => hgroups
    | cons entry rest ih =>
        intro groups hsubset hgroups
        obtain ⟨hentry, hrest⟩ := List.cons_subset.mp hsubset
        exact ih _ hrest (groupOf_appendTo hentry hgroups)
  exact hfold entries [] (List.Subset.refl _) (List.forall_mem_nil _) group h

/-- Groups whose entries are replaced one by one keep their keys. -/
theorem lookup_of_forall₂ {β : Type} {R : α → β → Prop} {groups : List (κ × α)}
    {results : List (κ × β)}
    (h : List.Forall₂ (fun group result => result.1 = group.1 ∧ R group.2 result.2) groups results)
    (key : κ) :
    (groups.lookup key = none → results.lookup key = none) ∧
      ∀ group, groups.lookup key = some group →
        ∃ result, results.lookup key = some result ∧ R group result := by
  induction h with
  | nil => exact ⟨fun _ => rfl, nofun⟩
  | @cons group result groups results hhead _ ih =>
      obtain ⟨k, values⟩ := group
      obtain ⟨k', stats⟩ := result
      obtain ⟨rfl, hR⟩ : k' = k ∧ R values stats := hhead
      rw [List.lookup_cons, List.lookup_cons]
      cases hk : key == k' with
      | true => exact ⟨nofun, fun group hgroup => ⟨stats, rfl, Option.some.inj hgroup ▸ hR⟩⟩
      | false => exact ih

example : grouped [(1, 'a'), (2, 'b'), (1, 'c')] = [(1, ['a', 'c']), (2, ['b'])] := rfl

end TaModel.Library
