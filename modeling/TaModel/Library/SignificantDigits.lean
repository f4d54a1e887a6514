import Mathlib.Algebra.Order.Field.Basic
import Mathlib.Algebra.Order.Ring.Abs
import Mathlib.Data.Int.Log
import Mathlib.Tactic.Linarith
import Mathlib.Tactic.Ring

/-!
# Rounding to significant digits

A value is rounded to `p` digits in base `b` by rounding its quotient by the unit in its last place
to an integer. The unit jumps where the value passes a power of the base, and yet rounding follows
the order (`roundTo_mono`), keeps what has no more than `p` digits (`roundTo_of_digits`) and is off
by a bounded part of the value (`abs_roundTo_sub_le`).
-/

set_option autoImplicit false

namespace TaModel.Library

variable {α : Type} [Field α] [LinearOrder α] [IsStrictOrderedRing α] [FloorRing α]

omit [FloorRing α] in
/-- A choice of an integer for each value: it follows the order and keeps integers. -/
structure IsRounding (nearest : α → ℤ) : Prop where
  mono : ∀ ⦃x y : α⦄, x ≤ y → nearest x ≤ nearest y
  intCast : ∀ n : ℤ, nearest n = n

omit [FloorRing α] in
/-- Whatever is done with ties, the nearest integer is a rounding. -/
theorem isRounding_of_nearest {nearest : α → ℤ} (h : ∀ q : α, |(nearest q : α) - q| ≤ 1 / 2) :
    IsRounding nearest := by
  constructor
  · intro x y hxy
    by_contra hlt
    have hstep : (nearest y : α) + 1 ≤ nearest x := by exact_mod_cast not_le.mp hlt
    have hx := (abs_le.mp (h x)).2
    have hy := (abs_le.mp (h y)).1
    -- the integers differ by one or more and are half off at most, so the values agree
    obtain rfl : x = y := by linarith
    exact hlt (le_refl _)
  · intro n
    have hn := abs_le.mp (h n)
    have hup : nearest (n : α) < n + 1 := by
      have : (nearest (n : α) : α) < ((n + 1 : ℤ) : α) := by push_cast; linarith
      exact_mod_cast this
    have hdown : n < nearest (n : α) + 1 := by
      have : (n : α) < ((nearest (n : α) + 1 : ℤ) : α) := by push_cast; linarith
      exact_mod_cast this
    omega

omit [FloorRing α] in
/-- Rounding seen from the negative side. -/
theorem IsRounding.neg {nearest : α → ℤ} (h : IsRounding nearest) :
    IsRounding fun q => -nearest (-q) := by
  constructor
  · intro x y hxy
    exact neg_le_neg (h.mono (neg_le_neg hxy))
  · intro n
    have hcast : (-(n : α)) = ((-n : ℤ) : α) := by push_cast; ring
    show -nearest (-(n : α)) = n
    rw [hcast, h.intCast, neg_neg]

/-- The unit in the last of `p` digits of a value. -/
def ulp (b p : ℕ) (q : α) : α := (b : α) ^ (Int.log b |q| - (p - 1 : ℤ))

/-- A value rounded to `p` digits. -/
def roundTo (nearest : α → ℤ) (b p : ℕ) (q : α) : α :=
  if q = 0 then 0 else nearest (q / ulp b p q) * ulp b p q

omit [IsStrictOrderedRing α] in
@[simp] theorem roundTo_zero (nearest : α → ℤ) (b p : ℕ) : roundTo nearest b p (0 : α) = 0 :=
  if_pos rfl

omit [IsStrictOrderedRing α] in
@[simp] theorem ulp_neg (b p : ℕ) (q : α) : ulp b p (-q) = ulp b p q := by
  rw [ulp, ulp, abs_neg]

omit [IsStrictOrderedRing α] in
theorem roundTo_neg (nearest : α → ℤ) (b p : ℕ) (q : α) :
    roundTo nearest b p (-q) = -roundTo (fun q => -nearest (-q)) b p q := by
  unfold roundTo
  by_cases hq : q = 0
  · simp [hq]
  · rw [if_neg hq, if_neg (neg_ne_zero.mpr hq), ulp_neg, neg_div]
    push_cast
    ring

section Base

variable {nearest : α → ℤ} {b p : ℕ} {q x y : α}

theorem ulp_pos (hb : 1 < b) : 0 < ulp b p q :=
  zpow_pos (by exact_mod_cast (zero_lt_one.trans hb)) _

theorem base_ne_zero (hb : 1 < b) : (b : α) ≠ 0 := by
  have hpos : (0 : α) < b := by exact_mod_cast zero_lt_one.trans hb
  exact hpos.ne'

/-- A power of the base is a whole number of units of a value that is not smaller. -/
theorem pow_mul_ulp (hb : 1 < b) (n : ℕ) :
    ((b ^ n : ℕ) : α) * ulp b p q = (b : α) ^ (Int.log b |q| + (n - (p - 1 : ℤ))) := by
  rw [ulp, Nat.cast_pow, ← zpow_natCast, ← zpow_add₀ (base_ne_zero hb)]
  congr 1
  ring

/-- A positive value lies between its power of the base and the next; so does its rounding. -/
theorem roundTo_bounds (hround : IsRounding nearest) (hb : 1 < b) (hp : 0 < p) (hq : 0 < q) :
    (b : α) ^ Int.log b q ≤ roundTo nearest b p q ∧
      roundTo nearest b p q ≤ (b : α) ^ (Int.log b q + 1) := by
  have hulp : 0 < ulp b p q := ulp_pos hb
  have hlow : ((b ^ (p - 1) : ℕ) : α) * ulp b p q = (b : α) ^ Int.log b q := by
    rw [pow_mul_ulp hb, abs_of_pos hq]
    congr 1
    have : ((p - 1 : ℕ) : ℤ) = p - 1 := by omega
    rw [this]
    ring
  have hhigh : ((b ^ p : ℕ) : α) * ulp b p q = (b : α) ^ (Int.log b q + 1) := by
    rw [pow_mul_ulp hb, abs_of_pos hq]
    congr 1
    ring
  rw [roundTo, if_neg hq.ne', ← hlow, ← hhigh]
  constructor
  · apply mul_le_mul_of_nonneg_right _ hulp.le
    have hle : ((b ^ (p - 1) : ℕ) : α) ≤ q / ulp b p q := by
      rw [le_div_iff₀ hulp, hlow]
      exact Int.zpow_log_le_self hb hq
    have hnearest := hround.mono hle
    have hint := hround.intCast ((b ^ (p - 1) : ℕ) : ℤ)
    rw [Int.cast_natCast] at hint
    rw [hint] at hnearest
    exact_mod_cast hnearest
  · apply mul_le_mul_of_nonneg_right _ hulp.le
    have hle : q / ulp b p q ≤ ((b ^ p : ℕ) : α) := by
      rw [div_le_iff₀ hulp, hhigh]
      exact (Int.lt_zpow_succ_log_self hb q).le
    have hnearest := hround.mono hle
    have hint := hround.intCast ((b ^ p : ℕ) : ℤ)
    rw [Int.cast_natCast] at hint
    rw [hint] at hnearest
    exact_mod_cast hnearest

theorem roundTo_pos (hround : IsRounding nearest) (hb : 1 < b) (hp : 0 < p) (hq : 0 < q) :
    0 < roundTo nearest b p q :=
  lt_of_lt_of_le (zpow_pos (by exact_mod_cast (zero_lt_one.trans hb)) _)
    (roundTo_bounds hround hb hp hq).1

theorem roundTo_neg_of_neg (hround : IsRounding nearest) (hb : 1 < b) (hp : 0 < p) (hq : q < 0) :
    roundTo nearest b p q < 0 := by
  have hpos := roundTo_pos hround.neg hb hp (neg_pos.mpr hq)
  have hneg := roundTo_neg nearest b p (-q)
  rw [neg_neg] at hneg
  rw [hneg]
  exact neg_lt_zero.mpr hpos

/-- Rounding follows the order on positive values. -/
theorem roundTo_mono_of_pos (hround : IsRounding nearest) (hb : 1 < b) (hp : 0 < p) (hx : 0 < x)
    (hxy : x ≤ y) : roundTo nearest b p x ≤ roundTo nearest b p y := by
  have hy : 0 < y := lt_of_lt_of_le hx hxy
  rcases (Int.log_mono_right hx hxy : Int.log b x ≤ Int.log b y).lt_or_eq with hlog | hlog
  · -- the next power of the base lies between the two
    calc roundTo nearest b p x ≤ (b : α) ^ (Int.log b x + 1) := (roundTo_bounds hround hb hp hx).2
      _ ≤ (b : α) ^ Int.log b y := zpow_le_zpow_right₀ (by exact_mod_cast hb.le) hlog
      _ ≤ roundTo nearest b p y := (roundTo_bounds hround hb hp hy).1
  · have hulp : ulp b p x = ulp b p y := by rw [ulp, ulp, abs_of_pos hx, abs_of_pos hy, hlog]
    rw [roundTo, roundTo, if_neg hx.ne', if_neg hy.ne', hulp]
    have hpos : (0 : α) < ulp b p y := ulp_pos hb
    apply mul_le_mul_of_nonneg_right _ hpos.le
    exact_mod_cast hround.mono (div_le_div_of_nonneg_right hxy hpos.le)

/-- Rounding follows the order. -/
theorem roundTo_mono (hround : IsRounding nearest) (hb : 1 < b) (hp : 0 < p) (hxy : x ≤ y) :
    roundTo nearest b p x ≤ roundTo nearest b p y := by
  rcases lt_trichotomy x 0 with hx | rfl | hx
  · rcases lt_trichotomy y 0 with hy | rfl | hy
    · -- both are negative: the same on the other side
      have hneg := roundTo_mono_of_pos hround.neg hb hp (neg_pos.mpr hy) (neg_le_neg hxy)
      have hxneg := roundTo_neg nearest b p (-x)
      have hyneg := roundTo_neg nearest b p (-y)
      rw [neg_neg] at hxneg hyneg
      rw [hxneg, hyneg]
      exact neg_le_neg hneg
    · rw [roundTo_zero]
      exact (roundTo_neg_of_neg hround hb hp hx).le
    · exact ((roundTo_neg_of_neg hround hb hp hx).trans (roundTo_pos hround hb hp hy)).le
  · rcases hxy.lt_or_eq with hy | rfl
    · rw [roundTo_zero]
      exact (roundTo_pos hround hb hp hy).le
    · exact le_refl _
  · exact roundTo_mono_of_pos hround hb hp hx hxy

/-- Rounding keeps a value of at most `p` digits. -/
theorem roundTo_of_digits (hround : IsRounding nearest) (hb : 1 < b) (hp : 0 < p) {m k : ℤ}
    (hm : |m| ≤ b ^ p) (hq : q = m * (b : α) ^ k) : roundTo nearest b p q = q := by
  rcases eq_or_ne q 0 with rfl | hne
  · exact roundTo_zero _ _ _
  have hbpos : (0 : α) < b := by exact_mod_cast (zero_lt_one.trans hb)
  have habs : |q| = |(m : α)| * (b : α) ^ k := by rw [hq, abs_mul, abs_of_pos (zpow_pos hbpos k)]
  have hmcast : |(m : α)| ≤ (b : α) ^ p := by exact_mod_cast hm
  -- the quotient by the unit is an integer
  obtain ⟨n, hn⟩ : ∃ n : ℤ, q / ulp b p q = n := by
    have hunit : ∀ j : ℤ, 0 ≤ k - (j - (p - 1 : ℤ)) → Int.log b |q| = j →
        ∃ n : ℤ, q / ulp b p q = n := by
      intro j hj hlog
      obtain ⟨d, hd⟩ := Int.eq_ofNat_of_zero_le hj
      refine ⟨m * b ^ d, ?_⟩
      rw [ulp, hlog, div_eq_iff (zpow_ne_zero _ hbpos.ne')]
      push_cast
      have hk : k = d + (j - (p - 1 : ℤ)) := by omega
      rw [hq, mul_assoc, ← zpow_natCast, ← zpow_add₀ hbpos.ne', ← hk]
    rcases hmcast.lt_or_eq with hlt | heq
    · apply hunit (Int.log b |q|) _ rfl
      have hlog : Int.log b |q| < p + k := by
        rw [← Int.lt_zpow_iff_log_lt hb (abs_pos.mpr hne), habs, zpow_add₀ hbpos.ne', zpow_natCast]
        exact mul_lt_mul_of_pos_right hlt (zpow_pos hbpos k)
      omega
    · -- the value is a power of the base
      have hlog : Int.log b |q| = p + k := by
        rw [habs, heq, ← zpow_natCast, ← zpow_add₀ hbpos.ne']
        exact Int.log_zpow hb _
      obtain ⟨r, rfl⟩ : ∃ r : ℕ, p = r + 1 := ⟨p - 1, by omega⟩
      have hmabs : |m| = (b : ℤ) ^ (r + 1) := by exact_mod_cast heq
      obtain ⟨s, hms⟩ : ∃ s : ℤ, m = s * (b : ℤ) ^ (r + 1) := by
        rcases abs_choice m with hsign | hsign
        · exact ⟨1, by rw [← hmabs, hsign, one_mul]⟩
        · exact ⟨-1, by rw [← hmabs, hsign]; ring⟩
      refine ⟨s * b ^ r, ?_⟩
      rw [ulp, hlog, div_eq_iff (zpow_ne_zero _ hbpos.ne'), hq, hms]
      push_cast
      rw [show ((r : ℤ) + 1 + k - (r + 1 - 1)) = 1 + k by ring, zpow_add₀ hbpos.ne', zpow_one]
      ring
  rw [roundTo, if_neg hne, hn, hround.intCast, ← hn]
  exact div_mul_cancel₀ q (ulp_pos hb).ne'

theorem roundTo_natCast (hround : IsRounding nearest) (hb : 1 < b) (hp : 0 < p) {n : ℕ}
    (hn : n ≤ b ^ p) : roundTo nearest b p (n : α) = n := by
  apply @roundTo_of_digits _ _ _ _ _ nearest b p n hround hb hp n 0
  · rw [abs_of_nonneg (Int.natCast_nonneg n)]
    exact_mod_cast hn
  · simp

/-- A rounded value has at most `p` digits. -/
theorem exists_digits (hround : IsRounding nearest) (hb : 1 < b) (q : α) :
    ∃ m k : ℤ, |m| ≤ b ^ p ∧ roundTo nearest b p q = m * (b : α) ^ k := by
  rcases eq_or_ne q 0 with rfl | hne
  · exact ⟨0, 0, by simp, by simp⟩
  refine ⟨nearest (q / ulp b p q), Int.log b |q| - (p - 1 : ℤ), ?_, if_neg hne⟩
  have hulp : (0 : α) < ulp b p q := ulp_pos hb
  have hscaled : |q / ulp b p q| ≤ ((b ^ p : ℕ) : α) := by
    rw [abs_div, abs_of_pos hulp, div_le_iff₀ hulp, pow_mul_ulp hb]
    have hsucc := (Int.lt_zpow_succ_log_self hb |q|).le
    rwa [show Int.log b |q| + ((p : ℤ) - (p - 1 : ℤ)) = Int.log b |q| + 1 by ring]
  obtain ⟨hlow, hhigh⟩ := abs_le.mp hscaled
  have hup := hround.mono hhigh
  have hdown := hround.mono hlow
  have hint := hround.intCast ((b ^ p : ℕ) : ℤ)
  have hnegint := hround.intCast (-((b ^ p : ℕ) : ℤ))
  rw [Int.cast_natCast] at hint
  rw [Int.cast_neg, Int.cast_natCast] at hnegint
  rw [hint] at hup
  rw [hnegint] at hdown
  rw [abs_le]
  exact ⟨by exact_mod_cast hdown, by exact_mod_cast hup⟩

/-- Rounding twice is rounding once. -/
theorem roundTo_roundTo (hround : IsRounding nearest) (hb : 1 < b) (hp : 0 < p) (q : α) :
    roundTo nearest b p (roundTo nearest b p q) = roundTo nearest b p q := by
  obtain ⟨m, k, hm, hvalue⟩ := exists_digits hround hb q
  exact roundTo_of_digits hround hb hp hm hvalue

/-- Rounding to the nearest integer is off by half a unit at most. -/
theorem abs_roundTo_sub_le (hnearest : ∀ q : α, |(nearest q : α) - q| ≤ 1 / 2) (hb : 1 < b)
    (q : α) : |roundTo nearest b p q - q| ≤ ulp b p q / 2 := by
  have hulp : (0 : α) < ulp b p q := ulp_pos hb
  rcases eq_or_ne q 0 with rfl | hne
  · rw [roundTo_zero, sub_zero, abs_zero]
    exact (half_pos hulp).le
  · have hsplit : roundTo nearest b p q - q =
        ((nearest (q / ulp b p q) : α) - q / ulp b p q) * ulp b p q := by
      rw [roundTo, if_neg hne, sub_mul, div_mul_cancel₀ q hulp.ne']
    rw [hsplit, abs_mul, abs_of_pos hulp]
    calc |(nearest (q / ulp b p q) : α) - q / ulp b p q| * ulp b p q
        ≤ 1 / 2 * ulp b p q := mul_le_mul_of_nonneg_right (hnearest _) hulp.le
      _ = ulp b p q / 2 := by ring

/-- The unit is a `b ^ (p - 1)`-th part of the value at most. -/
theorem ulp_le (hb : 1 < b) (hp : 0 < p) (hq : q ≠ 0) :
    ulp b p q * (b : α) ^ (p - 1) ≤ |q| := by
  have hbne : (b : α) ≠ 0 := base_ne_zero hb
  have hlog := Int.zpow_log_le_self hb (abs_pos.mpr hq)
  have heq : ulp b p q * (b : α) ^ (p - 1) = (b : α) ^ Int.log b |q| := by
    rw [ulp, ← zpow_natCast, ← zpow_add₀ hbne]
    congr 1
    have : ((p - 1 : ℕ) : ℤ) = p - 1 := by omega
    omega
  rw [heq]
  exact hlog

end Base

end TaModel.Library
