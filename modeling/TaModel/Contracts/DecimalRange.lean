import TaModel.Contracts.DecimalLaws
import TaModel.Library.ExponentRange
import TaModel.Library.StateFold

/-!
# The exponent range of the decimal context

An operation of the default context also has an exponent range: a result of magnitude
`10 ^ 1000000` or more raises `decimal.Overflow`, and no digit below `10 ^ -1000026` is kept.
`finalized` is what every operation does with its exact result. The signals are `ArithmeticError`s,
not `ValueError`s.
-/

set_option autoImplicit false

namespace TaModel.Contracts

open Library

/-- `getcontext().Emax`. -/
def maxExponent : ℤ := 999999

/-- `getcontext().Etiny()`. -/
def leastPlace : ℤ := -1000026

/-- An exact result rounded to the digits of the context. -/
def contextRounded (q : ℚ) : Decimal := roundAbove roundHalfEven 10 decimalPrecision leastPlace q

/-- The rounded result has an exponent of the context. -/
def InRange (q : ℚ) : Prop := Int.log 10 |contextRounded q| ≤ maxExponent

instance (q : ℚ) : Decidable (InRange q) := by
  unfold InRange
  infer_instance

/-- `str(decimal.Overflow(...))`. -/
def overflowText : String := "[<class 'decimal.Overflow'>]"

/-- What an operation returns for its exact result. -/
def finalized (q : ℚ) : Raises Decimal :=
  if InRange q then .ok (contextRounded q) else .error overflowText

/-- `sum(values, Decimal("0"))`. -/
def contextSum (values : List Decimal) : Raises Decimal :=
  values.foldlM (fun total value => finalized (total + value)) 0

/-- The value of such a sum where it does not overflow. -/
def contextTotal (values : List Decimal) : Decimal :=
  values.foldl (fun total value => contextRounded (total + value)) 0

/-- The sum as a check: it raises where an addition overflows. -/
def requireSum (values : List Decimal) : Raises Unit := do
  let _ ← contextSum values
  .ok ()

theorem requireSum_eq_ok_iff {values : List Decimal} :
    requireSum values = .ok () ↔ ∃ total, contextSum values = .ok total := by
  unfold requireSum
  rw [bind_eq_ok_iff]
  exact ⟨fun ⟨total, htotal, _⟩ => ⟨total, htotal⟩, fun ⟨total, htotal⟩ => ⟨total, htotal, rfl⟩⟩

theorem finalized_eq_ok_iff {q : ℚ} {v : Decimal} :
    finalized q = .ok v ↔ InRange q ∧ v = contextRounded q := by
  unfold finalized
  split
  · next h => simp [h, eq_comm]
  · next h => simp [h]

theorem finalized_of_inRange {q : ℚ} (h : InRange q) : finalized q = .ok (contextRounded q) :=
  if_pos h

theorem exists_finalized_iff {q : ℚ} : (∃ v, finalized q = .ok v) ↔ InRange q := by
  constructor
  · rintro ⟨v, hv⟩
    exact (finalized_eq_ok_iff.mp hv).1
  · intro h
    exact ⟨_, finalized_of_inRange h⟩

/-! ## Rounding in the context -/

@[simp] theorem contextRounded_zero : contextRounded 0 = 0 := roundAbove_zero _ _ _ _

theorem contextRounded_mono {x y : ℚ} (h : x ≤ y) : contextRounded x ≤ contextRounded y :=
  roundAbove_mono isRounding_roundHalfEven (by norm_num) (Nat.succ_pos 27) h

theorem contextRounded_nonneg {q : ℚ} (h : 0 ≤ q) : 0 ≤ contextRounded q :=
  roundAbove_nonneg isRounding_roundHalfEven (by norm_num) h

theorem contextRounded_contextRounded (q : ℚ) :
    contextRounded (contextRounded q) = contextRounded q :=
  roundAbove_roundAbove isRounding_roundHalfEven (by norm_num) (Nat.succ_pos 27) q

theorem contextRounded_zpow {k : ℤ} (h : leastPlace ≤ k) : contextRounded (10 ^ k) = 10 ^ k := by
  have hround := @roundAbove_zpow ℚ _ _ _ _ roundHalfEven 10 28 leastPlace
    isRounding_roundHalfEven (by norm_num) (Nat.succ_pos 27) k h
  exact_mod_cast hround

/-- Away from zero only the 28 digits count. -/
theorem contextRounded_eq_rounded {q : ℚ} (h : -999999 ≤ Int.log 10 |q|) :
    contextRounded q = rounded q := by
  rw [rounded_eq]
  apply roundAbove_eq_roundTo
  show leastPlace ≤ Int.log 10 |q| - ((28 : ℕ) - 1 : ℤ)
  simp only [leastPlace]
  omega

/-- Ties go to the even integer on both sides of zero. -/
theorem roundHalfEven_neg (q : ℚ) : -roundHalfEven (-q) = roundHalfEven q := by
  rcases eq_or_ne (q - ⌊q⌋) 0 with hwhole | hpart
  · have hq : q = (⌊q⌋ : ℚ) := sub_eq_zero.mp hwhole
    have hneg : -q = ((-⌊q⌋ : ℤ) : ℚ) := by rw [Int.cast_neg, ← hq]
    rw [hneg, isRounding_roundHalfEven.intCast, neg_neg, hq, isRounding_roundHalfEven.intCast,
      Int.floor_intCast]
  · -- the floor of the negation is one further down
    have hlow := Int.floor_le q
    have hhigh := Int.lt_floor_add_one q
    have hpos : 0 < q - ⌊q⌋ := lt_of_le_of_ne (by linarith) (Ne.symm hpart)
    have hfloor : ⌊-q⌋ = -⌊q⌋ - 1 := by
      rw [Int.floor_eq_iff]
      push_cast
      constructor <;> linarith
    unfold roundHalfEven
    dsimp only
    rw [hfloor]
    push_cast
    split_ifs <;> first | omega | (exfalso; linarith)

theorem contextRounded_neg (q : ℚ) : contextRounded (-q) = -contextRounded q := by
  rw [contextRounded, roundAbove_neg]
  simp only [roundHalfEven_neg]
  rfl

/-! ## Bounds -/

theorem abs_contextRounded_le {q : ℚ} {k : ℤ} (hk : leastPlace ≤ k) (h : |q| ≤ 10 ^ k) :
    |contextRounded q| ≤ 10 ^ k := by
  obtain ⟨hlow, hhigh⟩ := abs_le.mp h
  rw [abs_le]
  constructor
  · have hmono := contextRounded_mono hlow
    rwa [contextRounded_neg, contextRounded_zpow hk] at hmono
  · have hmono := contextRounded_mono hhigh
    rwa [contextRounded_zpow hk] at hmono

theorem inRange_of_abs_le {q : ℚ} (h : |q| ≤ 10 ^ maxExponent) : InRange q := by
  have hbound := abs_contextRounded_le (by decide) h
  rcases eq_or_ne (contextRounded q) 0 with hzero | hne
  · rw [InRange, hzero, abs_zero, Int.log_zero_right]
    decide
  · have hmono := Int.log_mono_right (b := 10) (abs_pos.mpr hne) hbound
    have hlog : Int.log 10 ((10 : ℚ) ^ maxExponent) = maxExponent := by
      have := @Int.log_zpow ℚ _ _ _ _ 10 (by norm_num) maxExponent
      exact_mod_cast this
    rw [hlog] at hmono
    exact hmono

/-- A result past the largest power of ten overflows. -/
theorem not_inRange_of_le {q : ℚ} {k : ℤ} (hk : maxExponent < k) (h : 10 ^ k ≤ q) :
    ¬ InRange q := by
  have hplace : leastPlace ≤ k := le_trans (by decide) hk.le
  have hlow : 10 ^ k ≤ contextRounded q := by
    have hmono := contextRounded_mono h
    rwa [contextRounded_zpow hplace] at hmono
  have hpos : 0 < contextRounded q := lt_of_lt_of_le (zpow_pos (by norm_num) k) hlow
  intro hrange
  rw [InRange, abs_of_pos hpos] at hrange
  have hlog : k ≤ Int.log 10 (contextRounded q) := by
    rw [← Int.zpow_le_iff_le_log (by norm_num) hpos]
    push_cast
    exact hlow
  exact absurd (hk.trans_le hlog) hrange.not_gt

theorem ten_zpow_le {k l : ℤ} (h : k ≤ l) : (10 : ℚ) ^ k ≤ 10 ^ l :=
  zpow_le_zpow_right₀ (by norm_num) h

/-- An operation on amounts below a power of ten that is in the range succeeds and stays below. -/
theorem finalized_of_abs_le {q : ℚ} {k : ℤ} (hlow : leastPlace ≤ k) (hhigh : k ≤ maxExponent)
    (h : |q| ≤ 10 ^ k) : ∃ v, finalized q = .ok v ∧ |v| ≤ 10 ^ k :=
  ⟨_, finalized_of_inRange (inRange_of_abs_le (h.trans (ten_zpow_le hhigh))),
    abs_contextRounded_le hlow h⟩

theorem abs_div_count_le {q : ℚ} {k : ℤ} (h : |q| ≤ 10 ^ k) (count : Nat) :
    |q / (count : ℚ)| ≤ 10 ^ k := by
  rcases Nat.eq_zero_or_pos count with rfl | hpos
  · rw [Nat.cast_zero, div_zero, abs_zero]
    exact (zpow_pos (by norm_num) _).le
  · have hone : (1 : ℚ) ≤ count := by exact_mod_cast hpos
    rw [abs_div, abs_of_nonneg (Nat.cast_nonneg count : (0 : ℚ) ≤ count)]
    exact (div_le_self (abs_nonneg q) hone).trans h

theorem abs_sub_le_next {x y : ℚ} {k : ℤ} (hx : |x| ≤ 10 ^ k) (hy : |y| ≤ 10 ^ k) :
    |x - y| ≤ 10 ^ (k + 1) := by
  have hpos : (0 : ℚ) < 10 ^ k := zpow_pos (by norm_num) k
  calc |x - y| ≤ |x| + |y| := abs_sub x y
    _ ≤ 10 * 10 ^ k := by linarith
    _ = 10 ^ (k + 1) := by rw [zpow_add_one₀ (by norm_num), mul_comm]

/-- An addend 29 places below is absorbed: it cannot carry a result past a power of ten. -/
theorem contextRounded_absorb {x : ℚ} {m : ℤ} (hm : leastPlace + 27 ≤ m)
    (h : x ≤ 10 ^ m + 10 ^ (m - 29)) : contextRounded x ≤ 10 ^ m := by
  rcases le_or_gt x (10 ^ m) with hle | hgt
  · have hmono := contextRounded_mono hle
    rwa [contextRounded_zpow (by omega)] at hmono
  · have hpow : (0 : ℚ) < 10 ^ m := zpow_pos (by norm_num) m
    have hpos : 0 < x := hpow.trans hgt
    have hsmall : (10 : ℚ) ^ (m - 29) ≤ 10 ^ m :=
      zpow_le_zpow_right₀ (by norm_num) (by omega)
    have hnext : (10 : ℚ) ^ (m + 1) = 10 * 10 ^ m := by
      rw [zpow_add_one₀ (by norm_num), mul_comm]
    have hlog : Int.log 10 |x| = m := by
      rw [abs_of_pos hpos]
      apply le_antisymm
      · rw [← Int.lt_add_one_iff, ← Int.lt_zpow_iff_log_lt (by norm_num) hpos]
        push_cast
        rw [hnext]
        linarith
      · rw [← Int.zpow_le_iff_le_log (by norm_num) hpos]
        push_cast
        exact hgt.le
    have hlast : lastExponent 10 decimalPrecision leastPlace x = m - 27 := by
      rw [lastExponent, hlog]
      simp only [decimalPrecision]
      push_cast
      omega
    rw [contextRounded, roundAbove, if_neg hpos.ne', hlast, roundAt]
    push_cast
    -- counted in units of the last place, the value exceeds the power by a hundredth
    have hunit : (0 : ℚ) < 10 ^ (m - 27) := zpow_pos (by norm_num) _
    have hpower : (10 : ℚ) ^ m = 10 ^ 27 * 10 ^ (m - 27) := by
      rw [← zpow_natCast, ← zpow_add₀ (by norm_num)]
      congr 1
      push_cast
      ring
    have hhundredth : (10 : ℚ) ^ (m - 29) = 1 / 100 * 10 ^ (m - 27) := by
      have hsplit : (10 : ℚ) ^ (m - 29) = 10 ^ (-2 : ℤ) * 10 ^ (m - 27) := by
        rw [← zpow_add₀ (by norm_num)]
        congr 1
        ring
      rw [hsplit]
      norm_num
    have hscaled : x / 10 ^ (m - 27) ≤ 10 ^ 27 + 1 / 100 := by
      rw [div_le_iff₀ hunit, add_mul, ← hpower, ← hhundredth]
      exact h
    have herror := (abs_le.mp (abs_roundHalfEven_sub_le (x / 10 ^ (m - 27)))).2
    have hcount : roundHalfEven (x / 10 ^ (m - 27)) ≤ 10 ^ 27 := by
      have hlt : (roundHalfEven (x / 10 ^ (m - 27)) : ℚ) < ((10 ^ 27 + 1 : ℤ) : ℚ) := by
        push_cast
        linarith
      exact Int.lt_add_one_iff.mp (by exact_mod_cast hlt)
    rw [hpower]
    apply mul_le_mul_of_nonneg_right _ hunit.le
    exact_mod_cast hcount

theorem abs_contextRounded_absorb {x : ℚ} {m : ℤ} (hm : leastPlace + 27 ≤ m)
    (h : |x| ≤ 10 ^ m + 10 ^ (m - 29)) : |contextRounded x| ≤ 10 ^ m := by
  rcases le_total 0 x with hx | hx
  · rw [abs_of_nonneg hx] at h
    rw [abs_of_nonneg (contextRounded_nonneg hx)]
    exact contextRounded_absorb hm h
  · rw [abs_of_nonpos hx] at h
    have hneg := contextRounded_absorb hm h
    rw [contextRounded_neg] at hneg
    have hnonneg := contextRounded_nonneg (neg_nonneg.mpr hx)
    rw [contextRounded_neg] at hnonneg
    rwa [abs_of_nonpos (neg_nonneg.mp hnonneg)]

/-! ## Sums -/

theorem foldl_of_contextSum {values : List Decimal} {start total : Decimal}
    (h : values.foldlM (fun total value => finalized (total + value)) start = .ok total) :
    total = values.foldl (fun total value => contextRounded (total + value)) start := by
  induction values generalizing start with
  | nil =>
      cases h
      rfl
  | cons v values ih =>
      rw [List.foldlM_cons] at h
      obtain ⟨next, hnext, hrest⟩ := (bind_eq_ok_iff _ _ _).mp h
      obtain ⟨-, rfl⟩ := finalized_eq_ok_iff.mp hnext
      exact ih hrest

/-- A sum that is returned is the rounded total. -/
theorem contextTotal_of_sum {values : List Decimal} {total : Decimal}
    (h : contextSum values = .ok total) : total = contextTotal values :=
  foldl_of_contextSum h

theorem contextTotal_nonneg {values : List Decimal} (h : ∀ v ∈ values, 0 ≤ v) :
    0 ≤ contextTotal values := by
  suffices hfold : ∀ start : Decimal, 0 ≤ start →
      0 ≤ values.foldl (fun total value => contextRounded (total + value)) start from
    hfold 0 le_rfl
  induction values with
  | nil => exact fun start hstart => hstart
  | cons v values ih =>
      intro start hstart
      apply ih
      · exact fun w hw => h w (List.mem_cons_of_mem v hw)
      · exact contextRounded_nonneg (add_nonneg hstart (h v List.mem_cons_self))

/-- Every partial sum has at most 28 digits. -/
def SumsInContext (values : List Decimal) : Prop :=
  ∀ n, contextRounded (values.take n).sum = (values.take n).sum

/-- Where no partial sum needs rounding, the rounded total is the sum. -/
theorem contextTotal_eq_sum {values : List Decimal} (h : SumsInContext values) :
    contextTotal values = values.sum := by
  suffices hfold : ∀ start : Decimal,
      (∀ n, contextRounded (start + (values.take n).sum) = start + (values.take n).sum) →
      values.foldl (fun total value => contextRounded (total + value)) start =
        start + values.sum by
    rw [contextTotal, hfold 0 (fun n => by rw [zero_add]; exact h n), zero_add]
  clear h
  induction values with
  | nil =>
      intro start _
      rw [List.foldl_nil, List.sum_nil, add_zero]
  | cons v values ih =>
      intro start hpartial
      have hfirst := hpartial 1
      rw [List.take_succ_cons, List.take_zero, List.sum_singleton] at hfirst
      rw [List.foldl_cons, hfirst, List.sum_cons, ← add_assoc]
      apply ih
      intro n
      have hnext := hpartial (n + 1)
      rwa [List.take_succ_cons, List.sum_cons, ← add_assoc] at hnext

/-- However many values are added, the sum stays 29 places above the largest of them. -/
theorem contextSum_bounded {values : List Decimal} {k : ℤ} (hlow : leastPlace ≤ k)
    (hhigh : k + 30 ≤ maxExponent) (h : ∀ v ∈ values, |v| ≤ 10 ^ k) :
    ∃ total, contextSum values = .ok total ∧ |total| ≤ 10 ^ (k + 29) := by
  suffices hfold : ∀ start : Decimal, |start| ≤ 10 ^ (k + 29) →
      ∃ total, values.foldlM (fun total value => finalized (total + value)) start = .ok total ∧
        |total| ≤ 10 ^ (k + 29) by
    apply hfold
    rw [abs_zero]
    exact (zpow_pos (by norm_num) _).le
  induction values with
  | nil => exact fun start hstart => ⟨start, rfl, hstart⟩
  | cons v values ih =>
      intro start hstart
      have hv : |v| ≤ 10 ^ k := h v List.mem_cons_self
      have hsum : |start + v| ≤ 10 ^ (k + 29) + 10 ^ (k + 29 - 29) := by
        rw [show k + 29 - 29 = k by ring]
        exact (abs_add_le start v).trans (add_le_add hstart hv)
      have hrange : InRange (start + v) := by
        apply inRange_of_abs_le
        refine hsum.trans ?_
        have hstep : (10 : ℚ) ^ (k + 29 - 29) ≤ 10 ^ (k + 29) :=
          zpow_le_zpow_right₀ (by norm_num) (by omega)
        calc (10 : ℚ) ^ (k + 29) + 10 ^ (k + 29 - 29) ≤ 10 * 10 ^ (k + 29) := by
              linarith [zpow_pos (by norm_num : (0 : ℚ) < 10) (k + 29)]
          _ = 10 ^ (k + 30) := by
              rw [show k + 30 = k + 29 + 1 by ring, zpow_add_one₀ (by norm_num), mul_comm]
          _ ≤ 10 ^ maxExponent := zpow_le_zpow_right₀ (by norm_num) hhigh
      rw [List.foldlM_cons, finalized_of_inRange hrange, ok_bind]
      apply ih
      · exact fun w hw => h w (List.mem_cons_of_mem v hw)
      · exact abs_contextRounded_absorb (by omega) hsum

/-! ## Moderate amounts -/

/-- The largest exponent of a moderate amount. -/
def moderateExponent : ℤ := 400000

/-- A product of two such amounts, and any sum of such products, stays in the exponent range. -/
def Moderate (q : Decimal) : Prop := |q| ≤ 10 ^ moderateExponent

theorem moderate_of_abs_le_ten {q : Decimal} (h : |q| ≤ 10) : Moderate q := by
  have hpow : (10 : ℚ) ^ (1 : ℤ) ≤ 10 ^ moderateExponent := ten_zpow_le (by decide)
  rw [zpow_one] at hpow
  exact h.trans hpow

end TaModel.Contracts
