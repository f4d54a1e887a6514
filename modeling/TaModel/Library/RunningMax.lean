import Mathlib.Data.List.Count
import Mathlib.Order.Bounds.Basic
import Mathlib.Algebra.BigOperators.Group.List.Basic
import Mathlib.Tactic.Ring

/-!
# Running maxima

`raises m ns` lists how the maximum of a stream of numbers rises above `m`: a pair of the old and
the new maximum for every number that raises it. The half-open intervals of these pairs tile what
lies between `m` and the maximum, so every number in between is hit exactly once, as a new maximum
or inside a gap.
-/

set_option autoImplicit false

namespace TaModel.Library

/-- The old and the new maximum at every rise of the maximum above `m`. -/
def raises (m : Nat) : List Nat → List (Nat × Nat)
  | [] => []
  | n :: ns => if m < n then (m, n) :: raises n ns else raises m ns

@[simp] theorem raises_nil (m : Nat) : raises m [] = [] := rfl

theorem raises_cons_of_lt {m n : Nat} (h : m < n) (ns : List Nat) :
    raises m (n :: ns) = (m, n) :: raises n ns := if_pos h

theorem raises_cons_of_le {m n : Nat} (h : n ≤ m) (ns : List Nat) :
    raises m (n :: ns) = raises m ns := if_neg (not_lt.mpr h)

/-- The maximum of a stream that starts at `m`. -/
def runningMax (m : Nat) (ns : List Nat) : Nat := ns.foldl max m

theorem runningMax_cons_of_lt {m n : Nat} (h : m < n) (ns : List Nat) :
    runningMax m (n :: ns) = runningMax n ns := by
  simp only [runningMax, List.foldl_cons, max_eq_right h.le]

theorem runningMax_cons_of_le {m n : Nat} (h : n ≤ m) (ns : List Nat) :
    runningMax m (n :: ns) = runningMax m ns := by
  simp only [runningMax, List.foldl_cons, max_eq_left h]

theorem isGreatest_runningMax (m : Nat) (ns : List Nat) :
    IsGreatest {n | n ∈ m :: ns} (runningMax m ns) := by
  induction ns generalizing m with
  | nil => simp [runningMax]
  | cons n ns ih =>
      obtain ⟨hmem, hupper⟩ := ih (max m n)
      have hmax : max m n ≤ runningMax m (n :: ns) := hupper List.mem_cons_self
      refine ⟨?_, ?_⟩
      · rcases List.mem_cons.mp hmem with heq | htail
        · rcases max_choice m n with hm | hn
          · exact List.mem_cons.mpr (.inl (heq.trans hm))
          · exact List.mem_cons_of_mem m (List.mem_cons.mpr (.inl (heq.trans hn)))
        · exact List.mem_cons_of_mem m (List.mem_cons_of_mem n htail)
      · intro k hk
        rcases List.mem_cons.mp hk with rfl | hk
        · exact le_trans (le_max_left _ n) hmax
        · rcases List.mem_cons.mp hk with rfl | hk
          · exact le_trans (le_max_right m _) hmax
          · exact hupper (List.mem_cons_of_mem _ hk)

/-- The stream rises from at least `m`. -/
theorem le_fst_of_mem_raises {m : Nat} {ns : List Nat} {rise : Nat × Nat}
    (h : rise ∈ raises m ns) : m ≤ rise.1 ∧ rise.1 < rise.2 := by
  induction ns generalizing m with
  | nil => cases h
  | cons n ns ih =>
      by_cases hlt : m < n
      · rw [raises_cons_of_lt hlt] at h
        rcases List.mem_cons.mp h with rfl | htail
        · exact ⟨le_refl m, hlt⟩
        · obtain ⟨hle, hrise⟩ := ih htail
          exact ⟨le_trans hlt.le hle, hrise⟩
      · rw [raises_cons_of_le (not_lt.mp hlt)] at h
        exact ih h

/-- Nothing at or below `m` is hit. -/
theorem countP_raises_of_le {m k : Nat} (h : k ≤ m) (ns : List Nat) :
    (raises m ns).countP (fun rise => decide (rise.1 < k ∧ k ≤ rise.2)) = 0 := by
  rw [List.countP_eq_zero]
  intro rise hrise
  have hle := (le_fst_of_mem_raises hrise).1
  simp only [decide_eq_true_eq]
  omega

/-- Everything between `m` and the maximum is hit exactly once. -/
theorem countP_raises_eq_one {m k : Nat} {ns : List Nat} (hlow : m < k)
    (hhigh : k ≤ runningMax m ns) :
    (raises m ns).countP (fun rise => decide (rise.1 < k ∧ k ≤ rise.2)) = 1 := by
  induction ns generalizing m with
  | nil => exact absurd hhigh (not_le.mpr hlow)
  | cons n ns ih =>
      by_cases hlt : m < n
      · rw [raises_cons_of_lt hlt]
        rw [runningMax_cons_of_lt hlt] at hhigh
        by_cases hin : k ≤ n
        · -- `k` is hit by this rise, and the later rises start above it
          rw [List.countP_cons_of_pos (by simp [hlow, hin]), countP_raises_of_le hin]
        · rw [List.countP_cons_of_neg (by simp [hin])]
          exact ih (not_le.mp hin) hhigh
      · rw [raises_cons_of_le (not_lt.mp hlt)]
        rw [runningMax_cons_of_le (not_lt.mp hlt)] at hhigh
        exact ih hlow hhigh

/-- A number between `m` and the maximum is a new maximum or lies inside exactly one gap. -/
theorem count_raises_add_countP_gap {m k : Nat} {ns : List Nat} (hlow : m < k)
    (hhigh : k ≤ runningMax m ns) :
    ((raises m ns).map Prod.snd).count k +
      (raises m ns).countP (fun rise => decide (rise.1 < k ∧ k < rise.2)) = 1 := by
  rw [← countP_raises_eq_one hlow hhigh, List.count, List.countP_map]
  have hsplit : ∀ rises : List (Nat × Nat), (∀ rise ∈ rises, rise.1 < rise.2) →
      rises.countP ((fun n => n == k) ∘ Prod.snd) +
          rises.countP (fun rise => decide (rise.1 < k ∧ k < rise.2)) =
        rises.countP (fun rise => decide (rise.1 < k ∧ k ≤ rise.2)) := by
    intro rises hrises
    induction rises with
    | nil => rfl
    | cons rise rises ih =>
        have hrise := hrises rise List.mem_cons_self
        have htail := ih fun other hother => hrises other (List.mem_cons_of_mem rise hother)
        simp only [List.countP_cons, Function.comp_apply, beq_iff_eq, decide_eq_true_eq]
        split_ifs <;> omega
  exact hsplit _ fun rise hrise => (le_fst_of_mem_raises hrise).2

theorem sum_map_ite_eq_countP {α : Type} (p : α → Prop) [DecidablePred p] (as : List α) :
    (as.map fun a => if p a then 1 else 0).sum = as.countP fun a => decide (p a) := by
  induction as with
  | nil => rfl
  | cons a as ih =>
      rw [List.map_cons, List.sum_cons, ih, List.countP_cons]
      simp only [decide_eq_true_eq, add_comm]

/-- The gaps add up to the total rise without the number of rises. -/
theorem sum_gaps_raises (m : Nat) (ns : List Nat) :
    ((raises m ns).map fun rise => rise.2 - rise.1 - 1).sum + (raises m ns).length + m =
      runningMax m ns := by
  induction ns generalizing m with
  | nil => simp [runningMax]
  | cons n ns ih =>
      by_cases hlt : m < n
      · rw [raises_cons_of_lt hlt, runningMax_cons_of_lt hlt, ← ih n, List.map_cons,
          List.sum_cons, List.length_cons]
        simp only
        omega
      · rw [raises_cons_of_le (not_lt.mp hlt), runningMax_cons_of_le (not_lt.mp hlt)]
        exact ih m

end TaModel.Library
