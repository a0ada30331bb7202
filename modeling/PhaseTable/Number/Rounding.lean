/-
# PhaseTable.Number.Rounding -- the binary64 value nearest to a fraction

A decimal text, an integer or a product of two numbers seldom is a binary64 value
itself.  `Binary64.nearest` rounds the exact fraction `num / den` once: to the
nearest value, and half way between two to the one with the even significand.
What lies beyond the largest finite value by half a step or more is infinite.
-/
import PhaseTable.Number.Binary64

namespace PhaseTable.Binary64

set_option autoImplicit false

/-- The integer nearest to `num / den`, the even one of two that are equally near. -/
def roundHalfEven (num den : Nat) : Nat :=
  let floor := num / den
  let rest := num % den
  if 2 * rest < den ∨ (2 * rest = den ∧ floor % 2 = 0) then floor else floor + 1

/-- The fraction `num / den` divided by `2 ^ exponent`, as a fraction. -/
def scaled (num den : Nat) (exponent : Int) : Nat × Nat :=
  (num * twoPow (-exponent).toNat, den * twoPow exponent.toNat)

/-- The exponent at which the fraction has a significand of 53 bits, or the least one. -/
def exponentOf (num den : Nat) : Int :=
  let low := max (-1074) ((num.log2 : Int) - den.log2 - 53)
  let (n, d) := scaled num den low
  if twoPow 53 ≤ n / d then low + 1 else low

/-- The value nearest to `± num / den`; a positive `den` is assumed. -/
def nearest (negative : Bool) (num den : Nat) : Binary64 :=
  if num = 0 then zero negative
  else
    let exponent := exponentOf num den
    let (n, d) := scaled num den exponent
    let significand := roundHalfEven n d
    if significand = twoPow 53 then ofParts negative (twoPow 52) (exponent + 1)
    else ofParts negative significand exponent

/-- The value nearest to an integer. -/
def ofInt (i : Int) : Binary64 :=
  nearest (i < 0) i.natAbs 1

/-- The value nearest to `± digits · 10 ^ exponent`.
Powers of ten that decide the answer by their size alone are not computed. -/
def ofDecimal (negative : Bool) (digits : Nat) (exponent : Int) : Binary64 :=
  if digits = 0 then zero negative
  else if 400 < exponent then .infinite negative
  else if exponent < -(digits.log2 + 400 : Int) then zero negative
  else nearest negative (digits * tenPow exponent.toNat) (tenPow (-exponent).toNat)

/-- The product of two magnitudes, rounded once. -/
def mulMagnitude (x y : Finite) : Binary64 :=
  let exponent := x.exponent + y.exponent
  nearest false (x.significand * y.significand * twoPow exponent.toNat) (twoPow (-exponent).toNat)

/-- The quotient of two magnitudes, rounded once; a divisor other than zero is assumed. -/
def divMagnitude (x y : Finite) : Binary64 :=
  let exponent := x.exponent - y.exponent
  nearest false (x.significand * twoPow exponent.toNat) (y.significand * twoPow (-exponent).toNat)

end PhaseTable.Binary64
