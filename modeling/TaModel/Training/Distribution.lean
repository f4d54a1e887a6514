import TaModel.Contracts.DecimalLaws
import TaModel.Training.FittedLabels

/-!
# Fitted distributions are valid

A forecast is refused when its probabilities do not sum to one or its quantiles decrease. The
distribution of any sample of moderate labels is computed without overflow and passes
(`fitted_distribution_valid`), although its shares, its complement and its ranks are all rounded to
28 digits.
-/

set_option autoImplicit false

namespace TaModel.Training

open Contracts Library

/-! ## Ranks -/

/-- The rank `_nearest_quantile` reads in a sample of the given size. -/
def quantileRank (count : Nat) (level : Decimal) : Nat :=
  ⌊rounded ((count - 1 : Nat) * level) + 1 / 2⌋₊

theorem quantileRank_mono (count : Nat) {level level' : Decimal} (h : level ≤ level') :
    quantileRank count level ≤ quantileRank count level' := by
  apply Nat.floor_le_floor
  have hmono := rounded_mono (mul_le_mul_of_nonneg_left h (Nat.cast_nonneg (count - 1)))
  linarith

/-- The rank is in the sample: at the levels used, rounding cannot carry it past the end. -/
theorem quantileRank_lt {count : Nat} (hcount : 0 < count) {level : Decimal} (hpos : 0 < level)
    (hlevel : level ≤ 9 / 10) : quantileRank count level < count := by
  obtain ⟨last, rfl⟩ : ∃ last, count = last + 1 := ⟨count - 1, by omega⟩
  have hlast : (0 : ℚ) ≤ (last : ℚ) := Nat.cast_nonneg last
  rw [quantileRank, Nat.add_sub_cancel, Nat.floor_lt (by
    linarith [rounded_nonneg (mul_nonneg hlast hpos.le)])]
  push_cast
  rcases hlast.lt_or_eq with hsome | hnone
  · have hproduct : 0 < (last : ℚ) * level := mul_pos hsome hpos
    have hbound : (last : ℚ) * level ≤ last * (9 / 10) := mul_le_mul_of_nonneg_left hlevel hlast
    have herror := (abs_le.mp (abs_rounded_sub_le ((last : ℚ) * level))).2
    have hunit := @ulp_le _ _ _ _ _ 10 28 ((last : ℚ) * level) (by norm_num) (by norm_num)
      hproduct.ne'
    rw [abs_of_pos hproduct] at hunit
    norm_num at hunit
    linarith
  · rw [← hnone, zero_mul, rounded_zero]
    norm_num

/-- The rank of the ordered sample. -/
theorem nearestQuantile_eq_ok {labels : List Decimal} (hne : labels ≠ []) {level : Decimal}
    (hpos : 0 < level) (hlevel : level ≤ 9 / 10) :
    ∃ value, nearestQuantile labels level = .ok value ∧
      (labels.insertionSort (· ≤ ·))[quantileRank labels.length level]? = some value := by
  have hlength : (labels.insertionSort (· ≤ ·)).length = labels.length :=
    List.length_insertionSort _ _
  have hrank : quantileRank labels.length level < (labels.insertionSort (· ≤ ·)).length := by
    rw [hlength]
    exact quantileRank_lt (List.length_pos_iff.mpr hne) hpos hlevel
  have hsome := List.getElem?_eq_getElem hrank
  refine ⟨_, ?_, hsome⟩
  unfold quantileRank at hsome
  unfold nearestQuantile
  dsimp only
  rw [hlength, hsome]
  rfl

/-- A higher level reads no lower value. -/
theorem value_mono {labels : List Decimal} {level level' value value' : Decimal}
    (h : level ≤ level')
    (hvalue : (labels.insertionSort (· ≤ ·))[quantileRank labels.length level]? = some value)
    (hvalue' : (labels.insertionSort (· ≤ ·))[quantileRank labels.length level']? = some value') :
    value ≤ value' := by
  obtain ⟨hrank, rfl⟩ := List.getElem?_eq_some_iff.mp hvalue
  obtain ⟨hrank', rfl⟩ := List.getElem?_eq_some_iff.mp hvalue'
  rcases (quantileRank_mono labels.length h).lt_or_eq with hlt | heq
  · exact List.pairwise_iff_getElem.mp (List.pairwise_insertionSort _ _) _ _ hrank hrank' hlt
  · simp only [heq, le_refl]

/-! ## Quantiles and probabilities -/

/-- The quantiles of a sample: at the three levels, in order. -/
theorem quantiles_of_sample {labels : List Decimal} (hne : labels ≠ []) :
    ∃ quantiles, (quantileLevels.mapM fun level => do
        let value ← nearestQuantile labels level.val
        return (⟨level, value⟩ : ForecastQuantile)) = .ok quantiles ∧
      quantiles.map ForecastQuantile.level = quantileLevels ∧
      Forecast.validateQuantiles quantiles = .ok () := by
  obtain ⟨low, hlow, hlowRank⟩ := @nearestQuantile_eq_ok labels hne (1 / 10) (by norm_num)
    (by norm_num)
  obtain ⟨middle, hmiddle, hmiddleRank⟩ := @nearestQuantile_eq_ok labels hne (1 / 2) (by norm_num)
    (by norm_num)
  obtain ⟨high, hhigh, hhighRank⟩ := @nearestQuantile_eq_ok labels hne (9 / 10) (by norm_num)
    (by norm_num)
  have hfirst : low ≤ middle := value_mono (by norm_num) hlowRank hmiddleRank
  have hsecond : middle ≤ high := value_mono (by norm_num) hmiddleRank hhighRank
  refine ⟨[⟨quantileLevels[0], low⟩, ⟨quantileLevels[1], middle⟩, ⟨quantileLevels[2], high⟩],
    ?_, rfl, ?_⟩
  · refine (mapM_eq_ok_iff _ _ _).mpr (.cons ?_ (.cons ?_ (.cons ?_ .nil)))
    · simp only [hlow, ok_bind]
      rfl
    · simp only [hmiddle, ok_bind]
      rfl
    · simp only [hhigh, ok_bind]
      rfl
  · simp only [Forecast.validateQuantiles, check_bind_eq_ok_iff, require_eq_ok_iff]
    refine ⟨?_, hfirst, ?_, hsecond, trivial⟩
    · norm_num [quantileLevels]
    · norm_num [quantileLevels]

/-- The two shares of a sample. -/
theorem shares_of_sample {labels : List Decimal} (hne : labels ≠ []) :
    let share := rounded ((labels.countP fun label => decide (0 ≤ label) : Nat) /
      (labels.length : Decimal))
    (0 ≤ share ∧ share ≤ 1) ∧ (0 ≤ rounded (1 - share) ∧ rounded (1 - share) ≤ 1) ∧
      decimalSum [rounded (1 - share), share] = 1 := by
  intro share
  have hlength : (0 : Decimal) < labels.length := by
    exact_mod_cast List.length_pos_iff.mpr hne
  have hcount : ((labels.countP fun label => decide (0 ≤ label) : Nat) : Decimal) ≤
      labels.length := by
    exact_mod_cast List.countP_le_length
  have hshare : 0 ≤ share ∧ share ≤ 1 := by
    constructor
    · exact rounded_nonneg (div_nonneg (Nat.cast_nonneg _) hlength.le)
    · exact rounded_le_one ((div_le_one hlength).mpr hcount)
  refine ⟨hshare, ⟨rounded_nonneg (by linarith [hshare.2]), rounded_le_one (by linarith [hshare.1])⟩,
    ?_⟩
  show rounded (rounded (0 + rounded (1 - share)) + share) = 1
  rw [zero_add, rounded_rounded]
  exact rounded_complement hshare.1 hshare.2

/-- What a validated forecast asks of its distribution. -/
structure ValidDistribution (stats : DistributionStats) : Prop where
  probabilities : ∀ f : Forecast, f.probabilities = stats.probabilities →
    f.validateProbabilities = .ok ()
  levels : stats.quantiles.map ForecastQuantile.level = quantileLevels
  quantiles : Forecast.validateQuantiles stats.quantiles = .ok ()
  classes : stats.probabilities.entries.map Prod.fst = ["negative", "non_negative"]

theorem ValidDistribution.quantiles_ne_nil {stats : DistributionStats} (h : ValidDistribution stats) :
    stats.quantiles ≠ [] := by
  intro hnil
  have hlevels := h.levels
  rw [hnil] at hlevels
  cases hlevels

/-- Every distribution that is computed is valid. -/
theorem validDistribution_of_ok {labels : List Decimal} {stats : DistributionStats}
    (h : distributionStats labels = .ok stats) : ValidDistribution stats := by
  simp only [distributionStats, bind_eq_ok_iff, require_eq_ok_iff] at h
  obtain ⟨-, hne, total, -, mean, -, squares, -, squareTotal, -, variance, -, quantiles, hquantiles,
    hstats⟩ := h
  obtain ⟨sampled, hsampled, hlevels, hmonotone⟩ := quantiles_of_sample hne
  cases hsampled.symm.trans hquantiles
  obtain ⟨hshare, hrest, hsum⟩ := shares_of_sample hne
  cases hstats
  refine ⟨?_, hlevels, hmonotone, rfl⟩
  intro f hf
  simp only [Forecast.validateProbabilities, hf, check_bind_eq_ok_iff, require_eq_ok_iff,
    forM_eq_ok_iff]
  refine ⟨le_refl 2, ?_, hsum⟩
  exact List.forall_mem_cons.mpr ⟨hrest, List.forall_mem_cons.mpr ⟨hshare, List.forall_mem_nil _⟩⟩

theorem validDistribution_of_sample {labels : List Decimal} (hne : labels ≠ [])
    (hmoderate : ∀ label ∈ labels, Moderate label) :
    ∃ stats, distributionStats labels = .ok stats ∧ ValidDistribution stats := by
  obtain ⟨quantiles, hquantiles, -⟩ := quantiles_of_sample hne
  obtain ⟨total, mean, squares, squareTotal, variance, htotal, hmean, hsquares, hsquareTotal,
    hvariance⟩ := exists_moments hmoderate labels.length
  obtain ⟨stats, hstats⟩ : ∃ stats, distributionStats labels = .ok stats := by
    rw [distributionStats, require_of hne, ok_bind]
    dsimp only
    rw [htotal, ok_bind, hmean, ok_bind, hsquares, ok_bind, hsquareTotal, ok_bind, hvariance,
      ok_bind, hquantiles, ok_bind]
    exact ⟨_, rfl⟩
  exact ⟨stats, hstats, validDistribution_of_ok hstats⟩

/-- The distribution of moderate labels is computed and makes a forecast that passes the checks of
its probabilities and quantiles: every share is a probability, the two sum to exactly one, and
quantiles do not decrease. -/
theorem fitted_distribution_valid {labels : List Decimal} (hne : labels ≠ [])
    (hmoderate : ∀ label ∈ labels, Moderate label) :
    ∃ stats, distributionStats labels = .ok stats ∧ ∀ f : Forecast, Predicts stats f →
      f.validateProbabilities = .ok () ∧ f.quantiles ≠ [] ∧
        Forecast.validateQuantiles f.quantiles = .ok () := by
  obtain ⟨stats, hstats, hvalid⟩ := validDistribution_of_sample hne hmoderate
  refine ⟨stats, hstats, fun f hf => ⟨hvalid.probabilities f hf.probabilities, ?_, ?_⟩⟩
  · rw [hf.quantiles]
    exact hvalid.quantiles_ne_nil
  · rw [hf.quantiles]
    exact hvalid.quantiles

/-- Three labels, a third of them not negative: shares that no decimal states exactly. -/
theorem fitted_distribution_valid_thirds :
    ∃ stats, distributionStats [-1, 1, -2] = .ok stats ∧ ∀ f : Forecast, Predicts stats f →
      f.validateProbabilities = .ok () ∧ f.quantiles ≠ [] ∧
        Forecast.validateQuantiles f.quantiles = .ok () := by
  refine fitted_distribution_valid (List.cons_ne_nil _ _) fun label hlabel => ?_
  apply moderate_of_abs_le_ten
  simp only [List.mem_cons, List.not_mem_nil, or_false] at hlabel
  rcases hlabel with rfl | rfl | rfl <;> norm_num

end TaModel.Training
