import TaModel.Contracts.DecimalRange

/-!
# Decimal arithmetic

An operation on decimals takes the exact result and rounds it, or raises a signal of the context.
`Arithmetic` is what such operations have in common: `Arithmetic.context` is the default context of
the `decimal` module, `Arithmetic.exact` keeps every digit. The signals are `ArithmeticError`s.
-/

set_option autoImplicit false

namespace TaModel.Contracts

/-- Rounding and range of the operations on decimals. -/
structure Arithmetic where
  round : ℚ → Decimal
  inRange : ℚ → Bool
  quotientInRange : ℤ → Bool
  round_zero : round 0 = 0
  round_mono : ∀ {x y : ℚ}, x ≤ y → round x ≤ round y
  inRange_zero : inRange 0 = true

/-- `str(decimal.InvalidOperation(...))`. -/
def invalidOperationText : String := "[<class 'decimal.InvalidOperation'>]"

/-- The quotient of `//`, which `%` has to fit into the digits of the context. -/
def truncatedQuotient (p q : ℚ) : ℤ := if 0 ≤ p / q then ⌊p / q⌋ else ⌈p / q⌉

namespace Arithmetic

/-- Exact rational arithmetic. -/
def exact : Arithmetic where
  round q := q
  inRange _ := true
  quotientInRange _ := true
  round_zero := rfl
  round_mono h := h
  inRange_zero := rfl

theorem decide_inRange_zero : decide (InRange 0) = true := by
  rw [decide_eq_true_eq]
  apply inRange_of_abs_le
  rw [abs_zero]
  exact (zpow_pos (by norm_num) _).le

/-- The default decimal context. -/
def context : Arithmetic where
  round := contextRounded
  inRange q := decide (InRange q)
  quotientInRange n := decide (n.natAbs < 10 ^ decimalPrecision)
  round_zero := contextRounded_zero
  round_mono := contextRounded_mono
  inRange_zero := decide_inRange_zero

variable (a : Arithmetic)

/-- What an operation returns for its exact result. -/
def finalize (q : ℚ) : Raises Decimal :=
  if a.inRange q then .ok (a.round q) else .error overflowText

/-- `p % q`. -/
def remainder (p q : ℚ) : Raises Decimal :=
  if q ≠ 0 ∧ a.quotientInRange (truncatedQuotient p q) = true then
    a.finalize (p - q * truncatedQuotient p q)
  else .error invalidOperationText

variable {a}

theorem finalize_eq_ok_iff {q : ℚ} {v : Decimal} :
    a.finalize q = .ok v ↔ a.inRange q = true ∧ v = a.round q := by
  unfold finalize
  split
  · next h => simp [h, eq_comm]
  · next h => simp [h]

theorem finalize_of_inRange {q : ℚ} (h : a.inRange q = true) : a.finalize q = .ok (a.round q) :=
  if_pos h

@[simp] theorem finalize_exact (q : ℚ) : exact.finalize q = .ok q := rfl

theorem finalize_zero : a.finalize 0 = .ok 0 := by
  rw [finalize_of_inRange a.inRange_zero, a.round_zero]

theorem round_nonneg {q : ℚ} (h : 0 ≤ q) : 0 ≤ a.round q := by
  have hmono := a.round_mono h
  rwa [a.round_zero] at hmono

/-! ## Bounded operands -/

/-- A result below a power of ten of the context is rounded. -/
theorem finalize_of_abs_le {q : ℚ} {k : ℤ} (hk : k ≤ maxExponent) (h : |q| ≤ 10 ^ k) :
    context.finalize q = .ok (contextRounded q) :=
  finalize_of_inRange (decide_eq_true (inRange_of_abs_le (h.trans (ten_zpow_le hk))))

theorem abs_add_le_next {x y : ℚ} {k : ℤ} (hx : |x| ≤ 10 ^ k) (hy : |y| ≤ 10 ^ k) :
    |x + y| ≤ 10 ^ (k + 1) := by
  have hneg : |-y| ≤ 10 ^ k := by rwa [abs_neg]
  have hsub := abs_sub_le_next hx hneg
  rwa [sub_neg_eq_add] at hsub

theorem abs_mul_le_add {x y : ℚ} {k l : ℤ} (hx : |x| ≤ 10 ^ k) (hy : |y| ≤ 10 ^ l) :
    |x * y| ≤ 10 ^ (k + l) := by
  rw [abs_mul, zpow_add₀ (by norm_num)]
  exact mul_le_mul hx hy (abs_nonneg y) (zpow_pos (by norm_num) k).le

end Arithmetic

end TaModel.Contracts
