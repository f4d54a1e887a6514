import TaModel.Library.SignificantDigits

/-!
# Rounding within an exponent range

A floating-point context keeps `p` digits of a result and no digit below a least exponent, so small
results lose digits and very small ones become zero (`roundAbove`). Rounding still follows the order
(`roundAbove_mono`), keeps what the context can represent (`roundAbove_of_digits`) and agrees with
rounding to `p` digits away from zero (`roundAbove_eq_roundTo`).
-/

set_option autoImplicit false

namespace TaModel.Library

variable {α : Type} [Field α] [LinearOrder α] [IsStrictOrderedRing α] [FloorRing α]

omit [IsStrictOrderedRing α] [FloorRing α] [LinearOrder α] in
/-- A value rounded to a multiple of `b ^ e`. -/
def roundAt (nearest : α → ℤ) (b : ℕ) (e : ℤ) (q : α) : α := nearest (q / (b : α) ^ e) * (b : α) ^ e

/-- The exponent of the last digit kept: `p` digits, and none below the least exponent. -/
def lastExponent (b p : ℕ) (least : ℤ) (q : α) : ℤ := max (Int.log b |q| - (p - 1 : ℤ)) least

/-- A value rounded to `p` digits, none of them below the least exponent. -/
def roundAbove (nearest : α → ℤ) (b p : ℕ) (least : ℤ) (q : α) : α :=
  if q = 0 then 0 else roundAt nearest b (lastExponent b p least q) q

omit [IsStrictOrderedRing α] in
@[simp] theorem roundAbove_zero (nearest : α → ℤ) (b p : ℕ) (least : ℤ) :
    roundAbove nearest b p least (0 : α) = 0 :=
  if_pos rfl

omit [IsStrictOrderedRing α] in
@[simp] theorem lastExponent_neg (b p : ℕ) (least : ℤ) (q : α) :
    lastExponent b p least (-q) = lastExponent b p least q := by
  rw [lastExponent, lastExponent, abs_neg]

omit [IsStrictOrderedRing α] in
theorem roundAbove_neg (nearest : α → ℤ) (b p : ℕ) (least : ℤ) (q : α) :
    roundAbove nearest b p least (-q) = -roundAbove (fun q => -nearest (-q)) b p least q := by
  unfold roundAbove roundAt
  by_cases hq : q = 0
  · simp [hq]
  · rw [if_neg hq, if_neg (neg_ne_zero.mpr hq), lastExponent_neg, neg_div]
    push_cast
    ring

omit [IsStrictOrderedRing α] in
/-- Where `p` digits end above the least exponent, only the digits count. -/
theorem roundAbove_eq_roundTo (nearest : α → ℤ) {b p : ℕ} {least : ℤ} {q : α}
    (h : least ≤ Int.log b |q| - (p - 1 : ℤ)) :
    roundAbove nearest b p least q = roundTo nearest b p q := by
  rw [roundAbove, roundTo, roundAt, lastExponent, max_eq_left h, ulp]

section Base

variable {nearest : α → ℤ} {b p : ℕ} {least e : ℤ} {q x y : α}

theorem roundAt_mono (hround : IsRounding nearest) (hb : 1 < b) (h : x ≤ y) :
    roundAt nearest b e x ≤ roundAt nearest b e y := by
  have hpos : (0 : α) < (b : α) ^ e := zpow_pos (by exact_mod_cast zero_lt_one.trans hb) e
  apply mul_le_mul_of_nonneg_right _ hpos.le
  exact_mod_cast hround.mono (div_le_div_of_nonneg_right h hpos.le)

/-- Multiples of the unit are kept. -/
theorem roundAt_of_multiple (hround : IsRounding nearest) (hb : 1 < b) {m k : ℤ} (hk : e ≤ k) :
    roundAt nearest b e ((m : α) * (b : α) ^ k) = m * (b : α) ^ k := by
  have hne : (b : α) ≠ 0 := base_ne_zero hb
  obtain ⟨d, hd⟩ := Int.eq_ofNat_of_zero_le (sub_nonneg.mpr hk)
  have hquotient : (m : α) * (b : α) ^ k / (b : α) ^ e = ((m * (b : ℤ) ^ d : ℤ) : α) := by
    rw [mul_div_assoc, ← zpow_sub₀ hne, hd, zpow_natCast]
    push_cast
    rfl
  rw [roundAt, hquotient, hround.intCast, ← hquotient]
  exact div_mul_cancel₀ _ (zpow_ne_zero e hne)

theorem roundAt_zpow (hround : IsRounding nearest) (hb : 1 < b) {k : ℤ} (hk : e ≤ k) :
    roundAt nearest b e ((b : α) ^ k) = (b : α) ^ k := by
  have h := @roundAt_of_multiple _ _ _ _ _ nearest b e hround hb 1 k hk
  rwa [Int.cast_one, one_mul] at h

/-- Rounding follows the order on positive values. -/
theorem roundAbove_mono_of_pos (hround : IsRounding nearest) (hb : 1 < b) (hp : 0 < p) (hx : 0 < x)
    (hxy : x ≤ y) : roundAbove nearest b p least x ≤ roundAbove nearest b p least y := by
  have hy : 0 < y := lt_of_lt_of_le hx hxy
  have hlog : Int.log b x ≤ Int.log b y := Int.log_mono_right hx hxy
  rw [roundAbove, roundAbove, if_neg hx.ne', if_neg hy.ne']
  have hex : lastExponent b p least x = max (Int.log b x - (p - 1 : ℤ)) least := by
    rw [lastExponent, abs_of_pos hx]
  have hey : lastExponent b p least y = max (Int.log b y - (p - 1 : ℤ)) least := by
    rw [lastExponent, abs_of_pos hy]
  rcases eq_or_ne (lastExponent b p least x) (lastExponent b p least y) with heq | hne
  · rw [heq]
    exact roundAt_mono hround hb hxy
  · -- the power of the base below `y` separates the two and is kept at both exponents
    have hsmaller : Int.log b x < Int.log b y := by omega
    have hbase : (1 : α) ≤ b := by exact_mod_cast hb.le
    have hbelow : x ≤ (b : α) ^ Int.log b y := by
      calc x ≤ (b : α) ^ (Int.log b x + 1) := (Int.lt_zpow_succ_log_self hb x).le
        _ ≤ (b : α) ^ Int.log b y := zpow_le_zpow_right₀ hbase hsmaller
    have habove : (b : α) ^ Int.log b y ≤ y := Int.zpow_log_le_self hb hy
    calc roundAt nearest b (lastExponent b p least x) x
        ≤ roundAt nearest b (lastExponent b p least x) ((b : α) ^ Int.log b y) :=
          roundAt_mono hround hb hbelow
      _ = (b : α) ^ Int.log b y := roundAt_zpow hround hb (by omega)
      _ = roundAt nearest b (lastExponent b p least y) ((b : α) ^ Int.log b y) :=
          (roundAt_zpow hround hb (by omega)).symm
      _ ≤ roundAt nearest b (lastExponent b p least y) y := roundAt_mono hround hb habove

theorem roundAbove_nonneg (hround : IsRounding nearest) (hb : 1 < b) (hq : 0 ≤ q) :
    0 ≤ roundAbove nearest b p least q := by
  rw [roundAbove]
  split
  · exact le_refl 0
  · have h := @roundAt_mono _ _ _ _ _ nearest b (lastExponent b p least q) 0 q hround hb hq
    have hzero : roundAt nearest b (lastExponent b p least q) (0 : α) = 0 := by
      have hint := hround.intCast 0
      rw [Int.cast_zero] at hint
      rw [roundAt, zero_div, hint, Int.cast_zero, zero_mul]
    rwa [hzero] at h

theorem roundAbove_nonpos (hround : IsRounding nearest) (hb : 1 < b) (hq : q ≤ 0) :
    roundAbove nearest b p least q ≤ 0 := by
  have hneg := roundAbove_neg nearest b p least (-q)
  rw [neg_neg] at hneg
  rw [hneg]
  exact neg_nonpos.mpr (roundAbove_nonneg hround.neg hb (neg_nonneg.mpr hq))

/-- Rounding follows the order. -/
theorem roundAbove_mono (hround : IsRounding nearest) (hb : 1 < b) (hp : 0 < p) (hxy : x ≤ y) :
    roundAbove nearest b p least x ≤ roundAbove nearest b p least y := by
  rcases le_or_gt x 0 with hx | hx
  · rcases le_or_gt 0 y with hy | hy
    · exact (roundAbove_nonpos hround hb hx).trans (roundAbove_nonneg hround hb hy)
    · -- both are negative: the same on the other side
      have hneg : roundAbove (fun q => -nearest (-q)) b p least (-y) ≤
          roundAbove (fun q => -nearest (-q)) b p least (-x) :=
        roundAbove_mono_of_pos hround.neg hb hp (neg_pos.mpr hy) (neg_le_neg hxy)
      have hxneg := roundAbove_neg nearest b p least (-x)
      have hyneg := roundAbove_neg nearest b p least (-y)
      rw [neg_neg] at hxneg hyneg
      rw [hxneg, hyneg]
      exact neg_le_neg hneg
  · exact roundAbove_mono_of_pos hround hb hp hx hxy

/-- Rounding keeps a value of at most `p` digits above the least exponent. -/
theorem roundAbove_of_digits (hround : IsRounding nearest) (hb : 1 < b) (hp : 0 < p) {m k : ℤ}
    (hm : |m| ≤ b ^ p) (hk : least ≤ k) (hq : q = m * (b : α) ^ k) :
    roundAbove nearest b p least q = q := by
  rcases le_or_gt (Int.log b |q| - (p - 1 : ℤ)) least with hlow | hhigh
  · rcases eq_or_ne q 0 with rfl | hne
    · exact roundAbove_zero _ _ _ _
    · rw [roundAbove, if_neg hne, lastExponent, max_eq_right hlow, hq]
      exact roundAt_of_multiple hround hb hk
  · rw [roundAbove_eq_roundTo nearest hhigh.le]
    exact roundTo_of_digits hround hb hp hm hq

theorem roundAbove_zpow (hround : IsRounding nearest) (hb : 1 < b) (hp : 0 < p) {k : ℤ}
    (hk : least ≤ k) : roundAbove nearest b p least ((b : α) ^ k) = (b : α) ^ k := by
  have hone : |(1 : ℤ)| ≤ (b : ℤ) ^ p := by
    rw [abs_one]
    exact one_le_pow₀ (by exact_mod_cast hb.le)
  exact roundAbove_of_digits hround hb hp hone hk (by rw [Int.cast_one, one_mul])

/-- A rounded value has at most `p` digits, none of them below the least exponent. -/
theorem exists_digits_above (hround : IsRounding nearest) (hb : 1 < b) (q : α) :
    ∃ m k : ℤ, |m| ≤ b ^ p ∧ least ≤ k ∧ roundAbove nearest b p least q = m * (b : α) ^ k := by
  rcases eq_or_ne q 0 with rfl | hne
  · exact ⟨0, least, by simp, le_refl _, by simp⟩
  · refine ⟨nearest (q / (b : α) ^ lastExponent b p least q), lastExponent b p least q, ?_,
      le_max_right _ _, if_neg hne⟩
    have hpos : (0 : α) < (b : α) ^ lastExponent b p least q :=
      zpow_pos (by exact_mod_cast zero_lt_one.trans hb) _
    have hbase : (1 : α) ≤ b := by exact_mod_cast hb.le
    have hlast : Int.log b |q| - (p - 1 : ℤ) ≤ lastExponent b p least q := le_max_left _ _
    have hscaled : |q / (b : α) ^ lastExponent b p least q| ≤ ((b ^ p : ℕ) : α) := by
      rw [abs_div, abs_of_pos hpos, div_le_iff₀ hpos, Nat.cast_pow, ← zpow_natCast,
        ← zpow_add₀ (base_ne_zero hb)]
      calc |q| ≤ (b : α) ^ (Int.log b |q| + 1) := (Int.lt_zpow_succ_log_self hb |q|).le
        _ ≤ (b : α) ^ ((p : ℤ) + lastExponent b p least q) :=
            zpow_le_zpow_right₀ hbase (by omega)
    obtain ⟨hlow, hhigh⟩ := abs_le.mp hscaled
    have hup := hround.mono hhigh
    have hdown := hround.mono hlow
    have hint := hround.intCast ((b ^ p : ℕ) : ℤ)
    have hnegint := hround.intCast (-((b ^ p : ℕ) : ℤ))
    rw [Int.cast_natCast] at hint
    rw [Int.cast_neg, Int.cast_natCast] at hnegint
    rw [hint] at hup
    rw [hnegint] at hdown
    rw [abs_le]
    exact ⟨by exact_mod_cast hdown, by exact_mod_cast hup⟩

/-- Rounding twice is rounding once. -/
theorem roundAbove_roundAbove (hround : IsRounding nearest) (hb : 1 < b) (hp : 0 < p) (q : α) :
    roundAbove nearest b p least (roundAbove nearest b p least q) =
      roundAbove nearest b p least q := by
  obtain ⟨m, k, hm, hk, hvalue⟩ := @exists_digits_above _ _ _ _ _ nearest b p least hround hb q
  exact roundAbove_of_digits hround hb hp hm hk hvalue

end Base

end TaModel.Library
