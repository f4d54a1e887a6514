import Mathlib.Data.List.Sort
import Mathlib.Data.Set.Card

/-!
# Maximal runs of consecutive numbers

A maximal run of a predicate below `n` is an interval on which it holds and that cannot be extended
on either side. There are as many as there are numbers at which the predicate starts to hold, and a
scan that compares neighbours of an increasing list counts exactly these.
-/

set_option autoImplicit false

namespace TaModel.Library

/-- The interval from `run.1` to `run.2` is a maximal one with `p` below `n`. -/
structure IsMaximalRun (p : ℕ → Prop) (n : ℕ) (run : ℕ × ℕ) : Prop where
  ordered : run.1 ≤ run.2
  below : run.2 < n
  holds : ∀ k, run.1 ≤ k → k ≤ run.2 → p k
  left : run.1 = 0 ∨ ¬ p (run.1 - 1)
  right : run.2 + 1 = n ∨ ¬ p (run.2 + 1)

/-- The predicate starts to hold at `k`. -/
def StartsAt (p : ℕ → Prop) (k : ℕ) : Prop := p k ∧ (k = 0 ∨ ¬ p (k - 1))

section Starts

variable {p : ℕ → Prop} {n : ℕ}

/-- From every number with `p` a run extends to the right as far as it can. -/
theorem exists_run_end {i : ℕ} (hi : i < n) (hp : p i) :
    ∃ j, i ≤ j ∧ j < n ∧ (∀ k, i ≤ k → k ≤ j → p k) ∧ (j + 1 = n ∨ ¬ p (j + 1)) := by
  induction hfuel : n - i generalizing i with
  | zero => omega
  | succ fuel ih =>
      by_cases hstop : i + 1 = n ∨ ¬ p (i + 1)
      · exact ⟨i, le_refl i, hi, fun k hlow hhigh => le_antisymm hlow hhigh ▸ hp, hstop⟩
      · obtain ⟨hne, hnext⟩ := not_or.mp hstop
        obtain ⟨j, hij, hj, hholds, hright⟩ := ih (by omega) (not_not.mp hnext) (by omega)
        refine ⟨j, by omega, hj, fun k hlow hhigh => ?_, hright⟩
        rcases hlow.eq_or_lt with rfl | hlt
        · exact hp
        · exact hholds k hlt hhigh

/-- A maximal run is determined by its start. -/
theorem IsMaximalRun.eq_of_fst_eq {run run' : ℕ × ℕ} (h : IsMaximalRun p n run)
    (h' : IsMaximalRun p n run') (hstart : run.1 = run'.1) : run = run' := by
  have hle : ∀ {r r' : ℕ × ℕ}, IsMaximalRun p n r → IsMaximalRun p n r' → r.1 = r'.1 →
      r'.2 ≤ r.2 := by
    intro r r' hr hr' hsame
    by_contra hlt
    have hordered := hr.ordered
    have hbelow := hr'.below
    rcases hr.right with hend | hnot
    · omega
    · exact hnot (hr'.holds _ (by omega) (by omega))
  exact Prod.ext hstart (le_antisymm (hle h' h hstart.symm) (hle h h' hstart))

/-- The starts of the maximal runs are the numbers at which the predicate starts to hold. -/
theorem image_fst_maximalRuns (p : ℕ → Prop) (n : ℕ) :
    Prod.fst '' {run | IsMaximalRun p n run} = {k | k < n ∧ StartsAt p k} := by
  ext i
  constructor
  · rintro ⟨run, hrun, rfl⟩
    exact ⟨hrun.ordered.trans_lt hrun.below, hrun.holds _ (le_refl _) hrun.ordered, hrun.left⟩
  · rintro ⟨hi, hp, hleft⟩
    obtain ⟨j, hij, hj, hholds, hright⟩ := exists_run_end hi hp
    exact ⟨(i, j), ⟨hij, hj, hholds, hleft, hright⟩, rfl⟩

theorem ncard_maximalRuns (p : ℕ → Prop) (n : ℕ) :
    {run | IsMaximalRun p n run}.ncard = {k | k < n ∧ StartsAt p k}.ncard := by
  rw [← image_fst_maximalRuns]
  have hinj : Set.InjOn Prod.fst {run : ℕ × ℕ | IsMaximalRun p n run} :=
    fun _ h _ h' hstart => h.eq_of_fst_eq h' hstart
  exact hinj.ncard_image.symm

end Starts

/-! ## Counting by neighbours -/

/-- The items of a list that do not follow the item before them. -/
def countJumps : ℕ → List ℕ → ℕ
  | _, [] => 0
  | previous, k :: ks => (if k = previous + 1 then 0 else 1) + countJumps k ks

/-- The runs of consecutive numbers in a list. -/
def countRuns : List ℕ → ℕ
  | [] => 0
  | k :: ks => 1 + countJumps k ks

/-- In an increasing list an item jumps exactly when its predecessor is missing. -/
theorem countJumps_eq_countP {previous : ℕ} {ks : List ℕ} (h : (previous :: ks).Pairwise (· < ·)) :
    countJumps previous ks = ks.countP fun k => decide (k - 1 ∉ previous :: ks) := by
  induction ks generalizing previous with
  | nil => rfl
  | cons k ks ih =>
      obtain ⟨hprevious, htail⟩ := List.pairwise_cons.mp h
      have hk := (List.pairwise_cons.mp htail).1
      have hlt : previous < k := hprevious k List.mem_cons_self
      have hhead : k - 1 ∉ previous :: k :: ks ↔ k ≠ previous + 1 := by
        rw [List.mem_cons, List.mem_cons, not_or, not_or]
        constructor
        · rintro ⟨hne, -⟩
          omega
        · intro hne
          refine ⟨by omega, by omega, fun hmem => ?_⟩
          have hgreater := hk _ hmem
          omega
      -- the predecessor of a later item lies behind `previous`
      have hrest : ks.countP (fun x => decide (x - 1 ∉ previous :: k :: ks)) =
          ks.countP fun x => decide (x - 1 ∉ k :: ks) := by
        refine List.countP_congr fun x hx => ?_
        have hgreater := hk x hx
        have hne : x - 1 ≠ previous := by omega
        simp [hne]
      rw [countJumps, ih htail, List.countP_cons, hrest, Nat.add_comm]
      congr 1
      by_cases hnext : k = previous + 1
      · rw [if_pos hnext, if_neg]
        simpa using fun hnot => hhead.mp hnot hnext
      · rw [if_neg hnext, if_pos]
        exact decide_eq_true (hhead.mpr hnext)

theorem countRuns_eq_countP {ks : List ℕ} (h : ks.Pairwise (· < ·)) :
    countRuns ks = ks.countP fun k => decide (k = 0 ∨ k - 1 ∉ ks) := by
  cases ks with
  | nil => rfl
  | cons k ks =>
      have hk := (List.pairwise_cons.mp h).1
      have hhead : k = 0 ∨ k - 1 ∉ k :: ks := by
        rcases Nat.eq_zero_or_pos k with hzero | hpos
        · exact .inl hzero
        · refine .inr fun hmem => ?_
          rcases List.mem_cons.mp hmem with heq | hmem
          · omega
          · have hgreater := hk _ hmem
            omega
      have hrest : ks.countP (fun x => decide (x = 0 ∨ x - 1 ∉ k :: ks)) =
          ks.countP fun x => decide (x - 1 ∉ k :: ks) := by
        refine List.countP_congr fun x hx => ?_
        have hne : x ≠ 0 := (Nat.zero_le k).trans_lt (hk x hx) |>.ne'
        simp [hne]
      rw [countRuns, countJumps_eq_countP h, List.countP_cons, hrest, if_pos (decide_eq_true hhead),
        Nat.add_comm]

/-- The scan over the numbers with `p` counts the maximal runs of `p`. -/
theorem countRuns_filter_range (p : ℕ → Bool) (n : ℕ) :
    countRuns ((List.range n).filter p) = {run | IsMaximalRun (fun k => p k = true) n run}.ncard := by
  have hincreasing : ((List.range n).filter p).Pairwise (· < ·) :=
    List.pairwise_lt_range.filter p
  have hstarts : {k | k < n ∧ StartsAt (fun k => p k = true) k} =
      (((List.range n).filter p).filter
        fun k => decide (k = 0 ∨ k - 1 ∉ (List.range n).filter p)).toFinset := by
    ext k
    simp only [Set.mem_ofPred_eq, StartsAt, List.coe_toFinset, List.mem_filter, List.mem_range,
      decide_eq_true_eq]
    constructor
    · rintro ⟨hk, hp, hleft⟩
      exact ⟨⟨hk, hp⟩, hleft.imp_right fun hnot hmem => hnot hmem.2⟩
    · rintro ⟨⟨hk, hp⟩, hleft⟩
      exact ⟨hk, hp, hleft.imp_right fun hnot hprevious => hnot ⟨by omega, hprevious⟩⟩
  rw [countRuns_eq_countP hincreasing, ncard_maximalRuns, hstarts, Set.ncard_coe_finset,
    List.toFinset_card_of_nodup ((hincreasing.imp (fun h => h.ne)).filter _),
    List.countP_eq_length_filter]

end TaModel.Library
