/-
# PhaseTable.Number.Shortest -- the fewest digits that read back

A number is written with as few decimal digits as lead back to it.  The real
numbers that round to a value form an interval around it, ends included when its
significand is even.  The grids of the multiples of `10 ^ p` are tried from coarse
to fine: of the two neighbours of the value on a grid, the one inside the interval
is taken; of two inside, the nearer.  Which one it is half way, a `Tie` says.
-/
import PhaseTable.Number.Binary64

namespace PhaseTable.Binary64

set_option autoImplicit false

/-- A decimal `digits · 10 ^ exponent`. -/
structure Scientific where
  digits : Nat
  exponent : Int
deriving DecidableEq

/-- Which of two neighbours is taken half way between them. -/
inductive Tie where
  /-- The upper one. -/
  | upper
  /-- The one whose last digit is even. -/
  | even
deriving DecidableEq

/-- The upper neighbour of a value is taken: `below` is the count of the lower one, and the value
lies `part` of `unit` above it. -/
def Tie.goesUp (tie : Tie) (below part unit : Nat) : Bool :=
  if 2 * part = unit then
    match tie with
    | .upper => true
    | .even => below % 2 = 1
  else unit < 2 * part

/-- The interval of the reals that round to a value, in multiples of `2 ^ (exponent - 2)`. -/
structure Interval where
  low : Nat
  value : Nat
  high : Nat
  exponent : Int
  closed : Bool

/-- The interval of a finite magnitude; below a power of two the values lie closer. -/
def Finite.interval (x : Finite) : Interval where
  low := 4 * x.significand - (if x.significand = twoPow 52 ∧ -1074 < x.exponent then 1 else 2)
  value := 4 * x.significand
  high := 4 * x.significand + 2
  exponent := x.exponent
  closed := x.significand % 2 = 0

/-- A count of `2 ^ (exponent - 2)` as a count of `10 ^ p`, as a fraction. -/
def Interval.onGrid (i : Interval) (p : Int) (count : Nat) : Nat × Nat :=
  (count * twoPow (i.exponent - 2).toNat * tenPow (-p).toNat,
    twoPow (2 - i.exponent).toNat * tenPow p.toNat)

/-- The grid point `digits · 10 ^ p` lies in the interval. -/
def Interval.holds (i : Interval) (p : Int) (digits : Nat) : Bool :=
  let (low, unit) := i.onGrid p i.low
  let (high, _) := i.onGrid p i.high
  if i.closed then low ≤ digits * unit && digits * unit ≤ high
  else low < digits * unit && digits * unit < high

/-- The neighbour of the value on the grid of `10 ^ p` that reads back, if there is one. -/
def Interval.pointOn? (tie : Tie) (i : Interval) (p : Int) : Option Nat :=
  let (value, unit) := i.onGrid p i.value
  let below := value / unit
  match i.holds p below && below != 0, i.holds p (below + 1) with
  | false, false => none
  | true, false => some below
  | false, true => some (below + 1)
  | true, true => some (if tie.goesUp below (value % unit) unit then below + 1 else below)

/-- The first point on one of `grids` grids, from `10 ^ p` downwards. -/
def Interval.firstPoint (tie : Tie) (i : Interval) : (grids : Nat) → (p : Int) → Scientific
  | 0, p => ⟨0, p⟩
  | grids + 1, p =>
      match i.pointOn? tie p with
      | some digits => ⟨digits, p⟩
      | none => i.firstPoint tie grids (p - 1)

/-- A power of ten above a magnitude: 30103 / 100000 is just above the logarithm of two. -/
def Finite.tenPowerAbove (x : Finite) : Int :=
  ((x.significand.log2 : Int) + x.exponent + 1) * 30103 / 100000 + 1

/-- The shortest decimal that reads back as the magnitude; 17 digits always do. -/
def Finite.shortest (tie : Tie) (x : Finite) : Scientific :=
  if x.significand = 0 then ⟨0, 0⟩ else x.interval.firstPoint tie 24 x.tenPowerAbove

end PhaseTable.Binary64
