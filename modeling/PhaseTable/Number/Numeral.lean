/-
# PhaseTable.Number.Numeral -- texts as numbers

A numeral is an optional sign, digits with an optional point among or around them,
and an optional exponent: `5`, `-.5`, `5.`, `1e-3`.  `Numeral.read?` reads exactly
these, and `Numeral.value` is the binary64 value nearest to what they denote.
The words `inf`, `infinity` and `nan`, in any case and with any sign, are numbers
too, but a cell takes finite ones only (`parseNumber`).

An integer is an optional sign and at least one digit, within a range of words.
-/
import PhaseTable.Number.Rounding
import PhaseTable.Text.Blank
import PhaseTable.Text.LowerCase

namespace PhaseTable

set_option autoImplicit false

open Text

/-- An optional sign and what follows it; the flag tells a minus. -/
def readSign : List Char → Bool × List Char
  | '-' :: cs => (true, cs)
  | '+' :: cs => (false, cs)
  | cs => (false, cs)

/-- The integer that a text of an optional sign and at least one digit denotes. -/
def readInt? (s : String) : Option Int :=
  let (negative, digits) := readSign s.toList
  if digits ≠ [] ∧ digits.all Char.isDigit then
    let n := Nat.ofDigitChars 10 digits 0
    some (if negative then -n else n)
  else none

def int32? (i : Int) : Option Int32 :=
  if -2147483648 ≤ i ∧ i < 2147483648 then some (Int32.ofInt i) else none

def int64? (i : Int) : Option Int64 :=
  if -9223372036854775808 ≤ i ∧ i < 9223372036854775808 then some (Int64.ofInt i) else none

def uint64? (i : Int) : Option UInt64 :=
  if 0 ≤ i ∧ i < 18446744073709551616 then some (UInt64.ofNat i.toNat) else none

def parseInt64 (s : String) : Option Int64 :=
  (readInt? s).bind int64?

/-- A decimal numeral, taken apart: the digits before and after the point, and the exponent. -/
structure Numeral where
  negative : Bool
  whole : List Char
  fraction : List Char
  exponent : Int
deriving DecidableEq

namespace Numeral

def spanDigits (cs : List Char) : List Char × List Char :=
  (cs.takeWhile Char.isDigit, cs.dropWhile Char.isDigit)

def readFraction : List Char → List Char × List Char
  | '.' :: cs => spanDigits cs
  | cs => ([], cs)

/-- An exponent that ends the text; without one it is 0. -/
def readExponent? : List Char → Option Int
  | [] => some 0
  | c :: cs => if c = 'e' ∨ c = 'E' then readInt? (String.ofList cs) else none

def read? (s : String) : Option Numeral :=
  let (negative, cs) := readSign s.toList
  let (whole, cs) := spanDigits cs
  let (fraction, cs) := readFraction cs
  if whole = [] ∧ fraction = [] then none
  else (readExponent? cs).map fun exponent => ⟨negative, whole, fraction, exponent⟩

/-- The value nearest to what the numeral denotes. -/
def value (n : Numeral) : Binary64 :=
  .ofDecimal n.negative (Nat.ofDigitChars 10 (n.whole ++ n.fraction) 0)
    (n.exponent - n.fraction.length)

end Numeral

/-- The number that a text denotes: a numeral, or one of the words for infinity and no number. -/
def readBinary64? (s : String) : Option Binary64 :=
  let (negative, word) := readSign s.toList
  let word := String.ofList word
  if sameIgnoringAsciiCase word "inf" || sameIgnoringAsciiCase word "infinity" then
    some (.infinite negative)
  else if sameIgnoringAsciiCase word "nan" then some .nan
  else (Numeral.read? s).map Numeral.value

/-- The finite number that a text denotes when its blank ends are cut off. -/
def parseNumber (s : String) : Option Binary64 :=
  (readBinary64? (trim s)).filter Binary64.isFinite

def Binary64.wholeNumber? (x : Binary64) : Option Int64 :=
  x.toInt?.bind int64?

end PhaseTable
