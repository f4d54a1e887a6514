import TaModel.Contracts.Canonical

/-!
# Dictionaries with string keys

The `dict[str, ...]` fields of the contracts. The keys of a dictionary are distinct, and its entries
keep the order in which they were inserted.
-/

set_option autoImplicit false

namespace TaModel.Contracts

/-- A `dict` with string keys, in its order of insertion. -/
structure StringDict (α : Type) where
  entries : List (String × α)
  keys_nodup : (entries.map Prod.fst).Nodup

/-- `.get(key)`. -/
def StringDict.get {α : Type} (dict : StringDict α) (key : String) : Option α :=
  (dict.entries.find? fun entry => entry.1 == key).map Prod.snd

/-- A key of the dictionary has its value. -/
theorem StringDict.get_of_mem {α : Type} {dict : StringDict α} {key : String} {value : α}
    (h : (key, value) ∈ dict.entries) : dict.get key = some value := by
  obtain ⟨entries, hnodup⟩ := dict
  simp only [StringDict.get]
  induction entries with
  | nil => cases h
  | cons entry entries ih =>
      obtain ⟨hhead, htail⟩ := List.nodup_cons.mp hnodup
      rcases List.mem_cons.mp h with rfl | hmem
      · rw [List.find?_cons_of_pos (by simp)]
        rfl
      · have hne : entry.1 ≠ key := by
          rintro rfl
          exact hhead (List.mem_map.mpr ⟨_, hmem, rfl⟩)
        rw [List.find?_cons_of_neg (by simpa using hne)]
        exact ih htail hmem

instance {α : Type} [ToPayload α] : ToPayload (StringDict α) := ⟨fun dict =>
  .record (dict.entries.map fun entry => (entry.1, toPayload entry.2))⟩

end TaModel.Contracts
