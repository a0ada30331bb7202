/-
# PhaseTable.Number.Positional -- numbers as texts without an exponent

Cells, messages and predicates show a number by its shortest digits in positional
notation, however long: `1.5`, `0.0000001`, `1000000000000000000000`.  A whole
number has no point, and half way between two texts the upper one is taken.
`Binary64.text` keeps the sign of zero, `formatNumber` drops it.
-/
import PhaseTable.Number.Shortest

namespace PhaseTable

set_option autoImplicit false

def decimalDigits (n : Nat) : List Char :=
  Nat.toDigits 10 n

def intText (i : Int) : String :=
  String.ofList (if i < 0 then '-' :: decimalDigits i.natAbs else decimalDigits i.natAbs)

namespace Binary64

/-- Digits that stand for `digits · 10 ^ exponent`, with zeros and a point where they are needed. -/
def positional (digits : List Char) (exponent : Int) : List Char :=
  if 0 ≤ exponent then digits ++ List.replicate exponent.toNat '0'
  else
    let places := (-exponent).toNat
    if places < digits.length then
      digits.take (digits.length - places) ++ '.' :: digits.drop (digits.length - places)
    else '0' :: '.' :: List.replicate (places - digits.length) '0' ++ digits

/-- The shortest digits of a magnitude in positional notation. -/
def Finite.magnitudeText (x : Finite) : List Char :=
  let s := x.shortest .upper
  positional (decimalDigits s.digits) s.exponent

def text : Binary64 → String
  | .nan => "NaN"
  | .infinite negative => if negative then "-inf" else "inf"
  | .finite x => String.ofList (if x.negative then '-' :: x.magnitudeText else x.magnitudeText)

end Binary64

/-- The number as cells and messages show it: as `Binary64.text`, but zero has no sign. -/
def formatNumber (x : Binary64) : String :=
  if x.isZero then "0" else x.text

end PhaseTable
