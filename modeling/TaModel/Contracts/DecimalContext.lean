import TaModel.Contracts.Canonical
import Mathlib.Data.Rat.Floor
import Mathlib.Data.Int.Log
import Mathlib.Data.Nat.Sqrt

/-!
# The default decimal context

Python's `decimal` rounds the result of an operation to 28 significant digits, half to even. The
feature engines divide and take square roots, so their results depend on it. The exponent range of
the context is left out.
-/

set_option autoImplicit false

namespace TaModel.Contracts

/-- The nearest integer, the even one of two. -/
def roundHalfEven (q : ℚ) : Int :=
  let below := ⌊q⌋
  let rest := q - below
  if rest < 1 / 2 then below
  else if 1 / 2 < rest then below + 1
  else if below % 2 = 0 then below else below + 1

/-- `getcontext().prec`. -/
def decimalPrecision : Nat := 28

/-- The unit in the last place of a result of magnitude `10 ^ exponent`. -/
def lastPlace (exponent : Int) : ℚ := (10 : ℚ) ^ (exponent - (decimalPrecision - 1 : Int))

/-- An exact result rounded to the precision of the context. -/
def rounded (q : ℚ) : Decimal :=
  if q = 0 then 0
  else
    let place := lastPlace (Int.log 10 |q|)
    roundHalfEven (q / place) * place

/-- `Decimal.sqrt()` of a value that is not negative. -/
def decimalSqrt (q : Decimal) : Decimal :=
  if q ≤ 0 then 0
  else
    let place := lastPlace (Int.log 10 q / 2)
    let scaled := q / place ^ 2
    let below := Nat.sqrt ⌊scaled⌋₊
    let halfway : ℚ := (below + 1 / 2) ^ 2
    let root :=
      if scaled < halfway then below
      else if halfway < scaled then below + 1
      else if below % 2 = 0 then below else below + 1
    root * place

/-- `sum(values, Decimal("0"))`. -/
def decimalSum (values : List Decimal) : Decimal :=
  values.foldl (fun total value => rounded (total + value)) 0

end TaModel.Contracts
