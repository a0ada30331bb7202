/-
# PhaseTable.Number.Binary64 -- the numbers of the table

Weights, lengths and phase numbers are held as IEEE 754 binary64 values.  A
finite one is `± significand · 2 ^ exponent` with its two parts in canonical
form, so equal numbers are equal terms and 0 has one term for each sign.

Every finite value is a whole multiple of `2 ^ (-1074)`.  `Finite.units` is that
multiple, an exact integer: order, equality and the test for a whole number are
statements about it, and no rounding occurs in them.
-/

namespace PhaseTable

set_option autoImplicit false

def twoPow (n : Nat) : Nat :=
  Nat.pow 2 n

def tenPow (n : Nat) : Nat :=
  Nat.pow 10 n

namespace Binary64

/-- The two parts of a binary64 value: 53 bits, all of them used unless the exponent is least. -/
def Canonical (significand : Nat) (exponent : Int) : Prop :=
  significand < twoPow 53 ∧ -1074 ≤ exponent ∧ exponent ≤ 971 ∧
    (twoPow 52 ≤ significand ∨ exponent = -1074)

instance (significand : Nat) (exponent : Int) : Decidable (Canonical significand exponent) :=
  inferInstanceAs (Decidable (_ ∧ _))

/-- A finite number `± significand · 2 ^ exponent`. -/
structure Finite where
  negative : Bool
  significand : Nat
  exponent : Int
  canonical : Canonical significand exponent
deriving DecidableEq

/-- How many times `2 ^ (-1074)` the magnitude is. -/
def Finite.magnitude (x : Finite) : Nat :=
  x.significand * twoPow (x.exponent + 1074).toNat

/-- How many times `2 ^ (-1074)` the number is. -/
def Finite.units (x : Finite) : Int :=
  if x.negative then -x.magnitude else x.magnitude

end Binary64

/-- A binary64 value; the value that is not a number has one representation. -/
inductive Binary64 where
  | nan
  | infinite (negative : Bool)
  | finite (number : Binary64.Finite)
deriving DecidableEq

namespace Binary64

def zero (negative : Bool) : Binary64 :=
  .finite ⟨negative, 0, -1074, by decide⟩

instance : Inhabited Binary64 := ⟨zero false⟩

def isFinite : Binary64 → Bool
  | .finite _ => true
  | _ => false

def isZero : Binary64 → Bool
  | .finite x => x.significand == 0
  | _ => false

/-- The parts as a number, infinite when they are not canonical: the exponent was too large. -/
def ofParts (negative : Bool) (significand : Nat) (exponent : Int) : Binary64 :=
  if h : Canonical significand exponent then .finite ⟨negative, significand, exponent, h⟩
  else .infinite negative

/-- Strictly smaller; nothing is smaller or larger than what is not a number. -/
def lt : Binary64 → Binary64 → Bool
  | .nan, _ => false
  | _, .nan => false
  | .infinite true, .infinite true => false
  | .infinite true, _ => true
  | .infinite false, _ => false
  | .finite _, .infinite negative => !negative
  | .finite x, .finite y => x.units < y.units

/-- Equal as numbers: the two zeros are, and what is not a number is not even equal to itself. -/
def same : Binary64 → Binary64 → Bool
  | .infinite s, .infinite t => s == t
  | .finite x, .finite y => x.units == y.units
  | _, _ => false

/-- The smaller of two numbers, the first of equal ones; a number counts more than none. -/
def least (x y : Binary64) : Binary64 :=
  if x = .nan then y else if lt y x then y else x

/-- The larger of two numbers, the first of equal ones; a number counts more than none. -/
def greatest (x y : Binary64) : Binary64 :=
  if x = .nan then y else if lt x y then y else x

/-- The magnitude exceeds `2 ^ (-52)`, the distance from 1 to the next number. -/
def exceedsEpsilon : Binary64 → Bool
  | .nan => false
  | .infinite _ => true
  | .finite x => twoPow 1022 < x.magnitude

/-- The integer that the number is, when it is one. -/
def toInt? : Binary64 → Option Int
  | .finite x =>
      let one : Int := twoPow 1074
      if x.units % one = 0 then some (x.units / one) else none
  | _ => none

end Binary64

end PhaseTable
