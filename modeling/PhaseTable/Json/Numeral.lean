/-
# PhaseTable.Json.Numeral -- JSON numbers

A JSON number is an optional minus, digits without a superfluous zero in front, and
optionally a fraction and an exponent.  Without the last two it is an integer if it
fits 64 bits, signed or unsigned; `-0` is not an integer.

The digits of any other number are gathered into a significand of 64 bits; what no
longer fits is dropped, digits before the point being made up for by the exponent.
The significand is then scaled by a power of ten in one step, or in several when no
power of that size is finite.  A number whose scaling overflows is out of range.
-/
import PhaseTable.Json.Value
import PhaseTable.Number.Numeral

namespace PhaseTable.Json

set_option autoImplicit false

/-- Why characters are not a number. -/
inductive NumeralFault where
  /-- The first of these characters is out of place. -/
  | invalid (rest : List Char)
  /-- The text ends inside the number. -/
  | unfinished
deriving DecidableEq

/-- The fault of a number that ends before `rest` and lacks a digit there. -/
def NumeralFault.before (rest : List Char) : NumeralFault :=
  if rest = [] then .unfinished else .invalid rest

structure Exponent where
  negative : Bool
  digits : List Char

def Exponent.value (e : Exponent) : Int :=
  let n := Nat.ofDigitChars 10 e.digits 0
  if e.negative then -n else n

/-- How many of some digits come after the one that takes a count, so far `n`, beyond 31 bits. -/
def digitsBeyond (n : Nat) : List Char → Nat
  | [] => 0
  | c :: cs =>
      let next := 10 * n + (c.toNat - '0'.toNat)
      if next < twoPow 31 then digitsBeyond next cs else cs.length

/-- A JSON number taken apart; `fraction` and `exponent` are absent when nothing stands for them. -/
structure NumberParts where
  negative : Bool
  whole : List Char
  fraction : Option (List Char)
  exponent : Option Exponent

/-- How many digits at the end of a number that is out of range need not be read to tell that. -/
def NumberParts.excess (parts : NumberParts) : Nat :=
  (parts.exponent.map fun e => digitsBeyond 0 e.digits).getD 0

/-- The digits before the point, which have no zero in front of another digit. -/
def scanWhole (cs : List Char) : Except NumeralFault (List Char × List Char) :=
  let (digits, rest) := Numeral.spanDigits cs
  match digits with
  | [] => .error (.before cs)
  | '0' :: _ :: _ => .error (.invalid (cs.drop 1))
  | _ => .ok (digits, rest)

/-- The digits after the point, if there is one; a point without digits is no number. -/
def scanFraction : List Char → Except NumeralFault (Option (List Char) × List Char)
  | '.' :: cs =>
      let (digits, rest) := Numeral.spanDigits cs
      if digits = [] then .error (.before cs) else .ok (some digits, rest)
  | cs => .ok (none, cs)

/-- The exponent, if there is one; an exponent without digits is no number. -/
def scanExponent : List Char → Except NumeralFault (Option Exponent × List Char)
  | [] => .ok (none, [])
  | c :: cs =>
      if c = 'e' ∨ c = 'E' then
        let (negative, cs) := readSign cs
        let (digits, rest) := Numeral.spanDigits cs
        if digits = [] then .error (.before cs) else .ok (some ⟨negative, digits⟩, rest)
      else .ok (none, c :: cs)

/-- The number at the start of a text, which begins with a digit or a minus, and the rest. -/
def scanNumber (cs : List Char) : Except NumeralFault (NumberParts × List Char) := do
  let (negative, cs) := if cs.head? = some '-' then (true, cs.drop 1) else (false, cs)
  let (whole, cs) ← scanWhole cs
  let (fraction, cs) ← scanFraction cs
  let (exponent, cs) ← scanExponent cs
  return (⟨negative, whole, fraction, exponent⟩, cs)

/-- Digits appended to a significand while 64 bits hold it, and how many did not fit. -/
def gather (significand : Nat) : List Char → Nat × Nat
  | [] => (significand, 0)
  | c :: cs =>
      let next := 10 * significand + (c.toNat - '0'.toNat)
      if next < twoPow 64 then gather next cs else (significand, cs.length + 1)

/-- A magnitude times or divided by a power of ten whose exponent is at most 308. -/
def scaleOnce (x : Binary64) (exponent : Int) : Binary64 :=
  match x, Binary64.ofDecimal false 1 exponent.natAbs with
  | .finite x, .finite power =>
      if 0 ≤ exponent then .mulMagnitude x power else .divMagnitude x power
  | _, _ => x

/-- A magnitude times a power of ten; what overflows is out of range. -/
def scale (x : Binary64) (exponent : Int) : Option Binary64 :=
  if -308 ≤ exponent ∧ exponent ≤ 308 then
    (some (scaleOnce x exponent)).filter Binary64.isFinite
  else if x.isZero then some x
  else if h : 0 ≤ exponent then none
  else scale (scaleOnce x (-308)) (exponent + 308)
termination_by (-exponent).toNat
decreasing_by omega

def signed (negative : Bool) : Binary64 → Binary64
  | .finite x => .finite { x with negative }
  | x => x

/-- The value of a number, unless it is out of range. -/
def NumberParts.value (parts : NumberParts) : Option JsonNumber :=
  let whole := Nat.ofDigitChars 10 parts.whole 0
  let fits := if parts.negative then 0 < whole && whole ≤ twoPow 63 else whole < twoPow 64
  if parts.fraction = none ∧ parts.exponent = none ∧ fits then
    some (.int (if parts.negative then -whole else whole))
  else
    let fraction := parts.fraction.getD []
    let (significand, dropped) := gather 0 parts.whole
    let (significand, left) := gather significand fraction
    let places : Int := fraction.length - left
    let exponent := (parts.exponent.map Exponent.value).getD 0
    (scale (.ofInt significand) (dropped - places + exponent)).map fun x =>
      .float (signed parts.negative x)

end PhaseTable.Json
