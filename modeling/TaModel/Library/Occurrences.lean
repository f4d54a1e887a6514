import Mathlib.Data.List.Nodup

/-!
# Loops that collect first and repeated occurrences

Two loops over a list: one keeps an item when it sees it for the first time, the other collects the
items it has seen before. The first keeps a list without duplicates as it is, and the second finds
nothing exactly in such a list.
-/

set_option autoImplicit false

namespace TaModel.Library

universe u

variable {α : Type u} [DecidableEq α]

/-! ## First occurrences -/

/-- One turn of the loop that keeps first occurrences. -/
def keepFirst (kept : List α) (item : α) : List α :=
  if item ∈ kept then kept else kept ++ [item]

/-- The items of a list without their later occurrences. -/
def firstOccurrences (items : List α) : List α := items.foldl keepFirst []

theorem length_foldl_keepFirst_le (items kept : List α) :
    (items.foldl keepFirst kept).length ≤ kept.length + items.length := by
  induction items generalizing kept with
  | nil => exact Nat.le_refl _
  | cons item items ih =>
      have hstep : (keepFirst kept item).length ≤ kept.length + 1 := by
        simp only [keepFirst]
        split_ifs
        · omega
        · simp
      have hrest := ih (keepFirst kept item)
      simp only [List.foldl_cons, List.length_cons]
      omega

theorem length_firstOccurrences_le (items : List α) :
    (firstOccurrences items).length ≤ items.length := by
  have hlength := length_foldl_keepFirst_le items []
  simpa only [firstOccurrences, List.length_nil, Nat.zero_add] using hlength

theorem mem_foldl_keepFirst (items kept : List α) (x : α) :
    x ∈ items.foldl keepFirst kept ↔ x ∈ kept ∨ x ∈ items := by
  induction items generalizing kept with
  | nil => simp
  | cons item items ih =>
      have hstep : x ∈ keepFirst kept item ↔ x ∈ kept ∨ x = item := by
        simp only [keepFirst]
        split_ifs with hmem
        · constructor
          · exact .inl
          · rintro (hkept | rfl)
            · exact hkept
            · exact hmem
        · rw [List.mem_append, List.mem_singleton]
      rw [List.foldl_cons, ih, hstep, List.mem_cons, or_assoc]

/-- The same items occur. -/
theorem mem_firstOccurrences (items : List α) (x : α) : x ∈ firstOccurrences items ↔ x ∈ items := by
  rw [firstOccurrences, mem_foldl_keepFirst]
  exact or_iff_right List.not_mem_nil

/-- New items are appended as they are. -/
theorem foldl_keepFirst_of_nodup {items kept : List α} (h : (kept ++ items).Nodup) :
    items.foldl keepFirst kept = kept ++ items := by
  induction items generalizing kept with
  | nil => exact (List.append_nil kept).symm
  | cons item items ih =>
      have hnew : item ∉ kept := by
        intro hmem
        exact (List.nodup_append.mp h).2.2 item hmem item List.mem_cons_self rfl
      rw [List.append_cons] at h ⊢
      simp only [List.foldl_cons, keepFirst, if_neg hnew]
      exact ih h

theorem firstOccurrences_of_nodup {items : List α} (h : items.Nodup) :
    firstOccurrences items = items :=
  foldl_keepFirst_of_nodup h

/-! ## Repeated occurrences -/

/-- One turn of the loop that collects repeated items: the items seen and the items found again. -/
def findAgain (state : List α × List α) (item : α) : List α × List α :=
  (state.1 ++ [item],
    if item ∈ state.1 ∧ item ∉ state.2 then state.2 ++ [item] else state.2)

/-- The items that occur more than once, in the order in which they are found again. -/
def repeatedItems (items : List α) : List α := (items.foldl findAgain ([], [])).2

/-- Items found again stay found. -/
theorem foldl_findAgain_ne_nil (items : List α) {state : List α × List α} (h : state.2 ≠ []) :
    (items.foldl findAgain state).2 ≠ [] := by
  induction items generalizing state with
  | nil => exact h
  | cons item items ih =>
      apply ih
      simp only [findAgain]
      split_ifs
      · exact List.append_ne_nil_of_right_ne_nil _ (List.cons_ne_nil _ _)
      · exact h

/-- While nothing is found again, the items are new and distinct. -/
theorem foldl_findAgain_eq_nil_iff (items seen : List α) :
    (items.foldl findAgain (seen, [])).2 = [] ↔ items.Nodup ∧ ∀ item ∈ items, item ∉ seen := by
  induction items generalizing seen with
  | nil => exact ⟨fun _ => ⟨List.nodup_nil, nofun⟩, fun _ => rfl⟩
  | cons item items ih =>
      by_cases hseen : item ∈ seen
      · have hfound : (items.foldl findAgain (findAgain (seen, []) item)).2 ≠ [] := by
          apply foldl_findAgain_ne_nil
          simp [findAgain, hseen]
        constructor
        · intro h
          exact absurd h hfound
        · rintro ⟨-, hnew⟩
          exact absurd hseen (hnew item List.mem_cons_self)
      · have hstep : findAgain (seen, []) item = (seen ++ [item], []) := by
          simp [findAgain, hseen]
        rw [List.foldl_cons, hstep, ih, List.nodup_cons, List.forall_mem_cons]
        constructor
        · rintro ⟨hnodup, hnew⟩
          refine ⟨⟨?_, hnodup⟩, hseen, ?_⟩
          · intro hmem
            exact hnew item hmem (List.mem_append_right _ (List.mem_singleton_self item))
          · intro x hx hmem
            exact hnew x hx (List.mem_append_left _ hmem)
        · rintro ⟨⟨hhead, hnodup⟩, -, hnew⟩
          refine ⟨hnodup, ?_⟩
          intro x hx hmem
          rcases List.mem_append.mp hmem with hmem | hmem
          · exact hnew x hx hmem
          · rw [List.mem_singleton.mp hmem] at hx
            exact hhead hx

theorem repeatedItems_eq_nil_iff (items : List α) : repeatedItems items = [] ↔ items.Nodup := by
  rw [repeatedItems, foldl_findAgain_eq_nil_iff]
  exact ⟨fun h => h.1, fun h => ⟨h, nofun⟩⟩

/-- Every item found again is an item of the list. -/
theorem mem_of_mem_repeatedItems {items : List α} {item : α} (h : item ∈ repeatedItems items) :
    item ∈ items := by
  suffices hall : ∀ (items : List α) (state : List α × List α),
      item ∈ (items.foldl findAgain state).2 → item ∈ items ∨ item ∈ state.2 by
    rcases hall items ([], []) h with hmem | hmem
    · exact hmem
    · cases hmem
  intro items
  induction items with
  | nil => exact fun state hmem => .inr hmem
  | cons x items ih =>
      intro state hmem
      rcases ih _ hmem with hrest | hstate
      · exact .inl (List.mem_cons_of_mem _ hrest)
      · simp only [findAgain] at hstate
        split_ifs at hstate
        · rcases List.mem_append.mp hstate with hold | hnew
          · exact .inr hold
          · rw [List.mem_singleton.mp hnew]
            exact .inl List.mem_cons_self
        · exact .inr hstate

end TaModel.Library
