import TaModel.Training.ProbabilisticCandidate

/-!
# Moments of moderate labels

The mean and the variance of a sample are computed in the decimal context, where a sum or a square
can overflow. Labels up to `10 ^ 400000` are out of its reach, however many there are.
-/

set_option autoImplicit false

namespace TaModel.Training

open Contracts Datasets Library

/-- The mean of values up to `10 ^ k`. -/
theorem exists_mean {values : List Decimal} {k : ℤ} (hlow : leastPlace ≤ k)
    (hhigh : k + 30 ≤ maxExponent) (h : ∀ v ∈ values, |v| ≤ 10 ^ k) (count : Nat) :
    ∃ total mean, contextSum values = .ok total ∧ finalized (total / (count : Decimal)) = .ok mean ∧
      |mean| ≤ 10 ^ (k + 29) := by
  obtain ⟨total, htotal, hbound⟩ := contextSum_bounded hlow hhigh h
  obtain ⟨mean, hmean, hmean_le⟩ :=
    finalized_of_abs_le (by omega) (by omega) (abs_div_count_le hbound count)
  exact ⟨total, mean, htotal, hmean, hmean_le⟩

theorem exists_squaredDeviation {mean label : Decimal} {k : ℤ} (hlow : 0 ≤ k)
    (hhigh : k + 1 + (k + 1) ≤ maxExponent) (hmean : |mean| ≤ 10 ^ k) (hlabel : |label| ≤ 10 ^ k) :
    ∃ square, squaredDeviation mean label = .ok square ∧ |square| ≤ 10 ^ (k + 1 + (k + 1)) := by
  have hplace : leastPlace ≤ 0 := by decide
  obtain ⟨deviation, hdeviation, hdeviation_le⟩ :=
    finalized_of_abs_le (by omega) (by omega) (abs_sub_le_next hlabel hmean)
  have hproduct : |deviation * deviation| ≤ 10 ^ (k + 1 + (k + 1)) := by
    rw [abs_mul, zpow_add₀ (by norm_num)]
    exact mul_le_mul hdeviation_le hdeviation_le (abs_nonneg _) (zpow_pos (by norm_num) _).le
  obtain ⟨square, hsquare, hsquare_le⟩ := finalized_of_abs_le (by omega) hhigh hproduct
  exact ⟨square, by rw [squaredDeviation, hdeviation, ok_bind, hsquare], hsquare_le⟩

/-- Mean and variance of moderate labels are computed. -/
theorem exists_moments {labels : List Decimal} (h : ∀ label ∈ labels, Moderate label)
    (count : Nat) :
    ∃ total mean squares squareTotal variance, contextSum labels = .ok total ∧
      finalized (total / (count : Decimal)) = .ok mean ∧
      labels.mapM (squaredDeviation mean) = .ok squares ∧
      contextSum squares = .ok squareTotal ∧
      finalized (squareTotal / (count : Decimal)) = .ok variance := by
  obtain ⟨total, mean, htotal, hmean, hmean_le⟩ := exists_mean (by decide) (by decide) h count
  have hlabels : ∀ label ∈ labels, |label| ≤ 10 ^ (moderateExponent + 29) := by
    intro label hlabel
    exact (h label hlabel).trans (ten_zpow_le (by decide))
  obtain ⟨squares, hsquares⟩ := @exists_forall₂ _ _ (fun label square =>
      squaredDeviation mean label = .ok square ∧
        |square| ≤ 10 ^ (moderateExponent + 29 + 1 + (moderateExponent + 29 + 1))) labels (by
    intro label hlabel
    exact exists_squaredDeviation (by decide) (by decide) hmean_le (hlabels label hlabel))
  have hbounded : ∀ square ∈ squares,
      |square| ≤ 10 ^ (moderateExponent + 29 + 1 + (moderateExponent + 29 + 1)) := by
    intro square hsquare
    obtain ⟨label, -, hlabel⟩ := exists_of_mem_right hsquares hsquare
    exact hlabel.2
  obtain ⟨squareTotal, variance, hsquareTotal, hvariance, -⟩ :=
    exists_mean (by decide) (by decide) hbounded count
  exact ⟨total, mean, squares, squareTotal, variance, htotal, hmean,
    (mapM_eq_ok_iff _ _ _).mpr (hsquares.imp fun _ _ hsquare => hsquare.1), hsquareTotal,
    hvariance⟩

end TaModel.Training
