import TaModel.Contracts.DecimalContext
import TaModel.Library.SignificantDigits

/-!
# Laws of the decimal context

Rounding to 28 digits is monotone, keeps counts and what was rounded before, and keeps a value
between the bounds it had. A sum of amounts is zero only if all of them are, and the complement of a
rounded probability adds up to one with it.
-/

set_option autoImplicit false

namespace TaModel.Contracts

open Library

theorem abs_roundHalfEven_sub_le (q : ℚ) : |(roundHalfEven q : ℚ) - q| ≤ 1 / 2 := by
  have hlow := Int.floor_le q
  have hhigh := Int.lt_floor_add_one q
  unfold roundHalfEven
  dsimp only
  rw [abs_le]
  split_ifs with hless hmore
  · constructor <;> linarith
  · push_cast
    constructor <;> linarith
  · constructor <;> linarith
  · push_cast
    constructor <;> linarith

theorem isRounding_roundHalfEven : IsRounding roundHalfEven :=
  isRounding_of_nearest abs_roundHalfEven_sub_le

theorem rounded_eq (q : ℚ) : rounded q = roundTo roundHalfEven 10 28 q := rfl

theorem rounded_mono {x y : ℚ} (h : x ≤ y) : rounded x ≤ rounded y :=
  roundTo_mono isRounding_roundHalfEven (by norm_num) (Nat.succ_pos 27) h

theorem rounded_rounded (q : ℚ) : rounded (rounded q) = rounded q :=
  roundTo_roundTo isRounding_roundHalfEven (by norm_num) (Nat.succ_pos 27) q

@[simp] theorem rounded_zero : rounded 0 = 0 := if_pos rfl

theorem rounded_natCast {n : ℕ} (h : n ≤ 10 ^ 28) : rounded (n : ℚ) = n :=
  roundTo_natCast isRounding_roundHalfEven (by norm_num) (Nat.succ_pos 27) h

@[simp] theorem rounded_one : rounded 1 = 1 := by
  have h := @rounded_natCast 1 (by norm_num)
  simpa using h

theorem rounded_nonneg {q : ℚ} (h : 0 ≤ q) : 0 ≤ rounded q := by
  have hmono := rounded_mono h
  rwa [rounded_zero] at hmono

theorem rounded_le_one {q : ℚ} (h : q ≤ 1) : rounded q ≤ 1 := by
  have hmono := rounded_mono h
  rwa [rounded_one] at hmono

/-- Rounding keeps the sign. -/
theorem rounded_pos_iff {q : ℚ} : 0 < rounded q ↔ 0 < q := by
  constructor
  · intro h
    by_contra hnot
    have hmono := rounded_mono (not_lt.mp hnot)
    rw [rounded_zero] at hmono
    exact absurd h (not_lt.mpr hmono)
  · intro h
    exact roundTo_pos isRounding_roundHalfEven (by norm_num) (Nat.succ_pos 27) h

theorem rounded_eq_zero_iff_of_nonneg {q : ℚ} (h : 0 ≤ q) : rounded q = 0 ↔ q = 0 := by
  constructor
  · intro hzero
    by_contra hne
    have hpos := rounded_pos_iff.mpr (lt_of_le_of_ne h (Ne.symm hne))
    exact absurd hzero hpos.ne'
  · rintro rfl
    exact rounded_zero

theorem abs_rounded_sub_le (q : ℚ) : |rounded q - q| ≤ ulp 10 28 q / 2 :=
  abs_roundTo_sub_le abs_roundHalfEven_sub_le (by norm_num) q

/-! ## Sums of amounts -/

theorem foldl_rounded_nonneg {values : List Decimal} (h : ∀ v ∈ values, 0 ≤ v) {total : Decimal}
    (htotal : 0 ≤ total) :
    0 ≤ values.foldl (fun total value => rounded (total + value)) total := by
  induction values generalizing total with
  | nil => exact htotal
  | cons v values ih =>
      have hv : 0 ≤ v := h v List.mem_cons_self
      apply ih
      · intro w hw
        exact h w (List.mem_cons_of_mem v hw)
      · exact rounded_nonneg (by linarith)

theorem decimalSum_nonneg {values : List Decimal} (h : ∀ v ∈ values, 0 ≤ v) :
    0 ≤ decimalSum values :=
  foldl_rounded_nonneg h le_rfl

theorem foldl_rounded_eq_zero_iff {values : List Decimal} (h : ∀ v ∈ values, 0 ≤ v)
    {total : Decimal} (htotal : 0 ≤ total) :
    values.foldl (fun total value => rounded (total + value)) total = 0 ↔
      total = 0 ∧ ∀ v ∈ values, v = 0 := by
  induction values generalizing total with
  | nil => simp
  | cons v values ih =>
      have hv : 0 ≤ v := h v List.mem_cons_self
      have hrest : ∀ w ∈ values, 0 ≤ w := fun w hw => h w (List.mem_cons_of_mem v hw)
      have hsum : 0 ≤ total + v := by linarith
      rw [List.foldl_cons, ih hrest (rounded_nonneg hsum), rounded_eq_zero_iff_of_nonneg hsum,
        add_eq_zero_iff_of_nonneg htotal hv, List.forall_mem_cons, and_assoc]

/-- A sum of amounts is zero only if all of them are: rounding never swallows an amount. -/
theorem decimalSum_eq_zero_iff {values : List Decimal} (h : ∀ v ∈ values, 0 ≤ v) :
    decimalSum values = 0 ↔ ∀ v ∈ values, v = 0 := by
  rw [decimalSum, foldl_rounded_eq_zero_iff h le_rfl]
  exact and_iff_right rfl

/-- Every partial sum has at most 28 digits. -/
def SumsExactly (values : List Decimal) : Prop :=
  ∀ n, rounded (values.take n).sum = (values.take n).sum

theorem foldl_rounded_eq_sum {values : List Decimal} {total : Decimal}
    (h : ∀ n, rounded (total + (values.take n).sum) = total + (values.take n).sum) :
    values.foldl (fun total value => rounded (total + value)) total = total + values.sum := by
  induction values generalizing total with
  | nil => rw [List.foldl_nil, List.sum_nil, add_zero]
  | cons v values ih =>
      have hfirst := h 1
      rw [List.take_succ_cons, List.take_zero, List.sum_singleton] at hfirst
      rw [List.foldl_cons, hfirst, List.sum_cons, ← add_assoc]
      apply ih
      intro n
      have hnext := h (n + 1)
      rwa [List.take_succ_cons, List.sum_cons, ← add_assoc] at hnext

/-- Where no partial sum needs rounding, the rounded sum is the sum. -/
theorem decimalSum_eq_sum {values : List Decimal} (h : SumsExactly values) :
    decimalSum values = values.sum := by
  rw [decimalSum, foldl_rounded_eq_sum, zero_add]
  intro n
  rw [zero_add]
  exact h n

/-! ## Complements -/

theorem rounded_half_unit_below_one : rounded (1 - 1 / (2 * 10 ^ 28)) = 1 := by decide +kernel

theorem rounded_half_unit_above_one : rounded (1 + 1 / (2 * 10 ^ 28)) = 1 := by decide +kernel

/-- A value at most half a unit off one is rounded to one: the tie below is broken upwards. -/
theorem rounded_near_one {q : ℚ} (h : |q - 1| ≤ 1 / (2 * 10 ^ 28)) : rounded q = 1 := by
  obtain ⟨hlow, hhigh⟩ := abs_le.mp h
  apply le_antisymm
  · rw [← rounded_half_unit_above_one]
    exact rounded_mono (by linarith)
  · rw [← rounded_half_unit_below_one]
    exact rounded_mono (by linarith)

theorem ulp_le_of_lt_one {q : ℚ} (hpos : 0 < q) (hless : q < 1) : ulp 10 28 q ≤ 1 / 10 ^ 28 := by
  have hlog : Int.log 10 |q| < 0 := by
    rw [abs_of_pos hpos, ← Int.lt_zpow_iff_log_lt (by norm_num) hpos, zpow_zero]
    exact hless
  have hexponent : Int.log 10 |q| - (((28 : ℕ) : ℤ) - 1) ≤ -28 := by
    push_cast
    omega
  calc ulp 10 28 q ≤ ((10 : ℕ) : ℚ) ^ (-28 : ℤ) :=
        zpow_le_zpow_right₀ (by norm_num) hexponent
    _ = 1 / 10 ^ 28 := by norm_num

/-- The rounded complement of a value between zero and one adds up to one with it. -/
theorem rounded_complement {x : ℚ} (hnonneg : 0 ≤ x) (hle : x ≤ 1) :
    rounded (rounded (1 - x) + x) = 1 := by
  rcases hle.lt_or_eq with hless | rfl
  · rcases hnonneg.lt_or_eq with hpos | rfl
    · apply rounded_near_one
      have hsub : rounded (1 - x) + x - 1 = rounded (1 - x) - (1 - x) := by ring
      rw [hsub]
      calc |rounded (1 - x) - (1 - x)| ≤ ulp 10 28 (1 - x) / 2 := abs_rounded_sub_le _
        _ ≤ 1 / 10 ^ 28 / 2 := by
            apply div_le_div_of_nonneg_right _ (by norm_num)
            exact ulp_le_of_lt_one (by linarith) (by linarith)
        _ = 1 / (2 * 10 ^ 28) := by ring
    · rw [sub_zero, rounded_one, add_zero, rounded_one]
  · rw [sub_self, rounded_zero, zero_add, rounded_one]

end TaModel.Contracts
