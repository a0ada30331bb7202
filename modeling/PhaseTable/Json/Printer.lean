/-
# PhaseTable.Json.Printer -- JSON values as compact text

A clause whose literal is an array or an object compares against its compact text:
no blanks, members in the order of their keys, control characters escaped and
everything else as it is.

A floating point number is written in its shortest digits, half way between two of
them the even ones.  It always has a point or an exponent, so it cannot be taken for
an integer: from `0.00001` up to `9999999999999998.0` a point and no exponent, and
outside of that an exponent with its sign, as in `1e-6` and `1.5e+16`.
-/
import PhaseTable.Json.Value
import PhaseTable.Number.Positional

namespace PhaseTable.Json

set_option autoImplicit false

/-- One of the sixteen digits of `\u00xx`. -/
def hexDigit (n : Nat) : Char :=
  Nat.digitChar (n % 16)

def escapeChar (c : Char) : List Char :=
  if c = '"' then ['\\', '"']
  else if c = '\\' then ['\\', '\\']
  else if c = '\n' then ['\\', 'n']
  else if c = '\r' then ['\\', 'r']
  else if c = '\t' then ['\\', 't']
  else if c.toNat = 8 then ['\\', 'b']
  else if c.toNat = 12 then ['\\', 'f']
  else if c.toNat < 32 then
    ['\\', 'u', '0', '0', hexDigit (c.toNat / 16), hexDigit c.toNat]
  else [c]

def quote (s : String) : List Char :=
  '"' :: s.toList.flatMap escapeChar ++ ['"']

/-- Digits that stand for `digits · 10 ^ exponent`, with a point or an exponent in every case. -/
def floatDigits (digits : List Char) (exponent : Int) : List Char :=
  let point := digits.length + exponent
  if 0 ≤ exponent ∧ point ≤ 16 then Binary64.positional digits exponent ++ ['.', '0']
  else if -5 < point ∧ point ≤ 16 then Binary64.positional digits exponent
  else
    let mantissa :=
      match digits with
      | first :: rest => if rest = [] then [first] else first :: '.' :: rest
      | [] => []
    let power := point - 1
    mantissa ++ 'e' :: (if power < 0 then '-' else '+') :: decimalDigits power.natAbs

/-- A number; what JSON cannot write, being infinite or no number, is `null`. -/
def numberText : JsonNumber → List Char
  | .int i => (intText i).toList
  | .float (.finite x) =>
      let s := x.shortest .even
      let digits := floatDigits (decimalDigits s.digits) s.exponent
      if x.negative then '-' :: digits else digits
  | .float _ => "null".toList

mutual

def compactChars : Json → List Char
  | .null => "null".toList
  | .bool b => (if b then "true" else "false").toList
  | .number n => numberText n
  | .str s => quote s
  | .arr items => '[' :: compactItems items ++ [']']
  | .obj members => '{' :: compactMembers members ++ ['}']

def compactItems : List Json → List Char
  | [] => []
  | [item] => compactChars item
  | item :: next :: rest => compactChars item ++ ',' :: compactItems (next :: rest)

def compactMembers : List (String × Json) → List Char
  | [] => []
  | [(key, value)] => quote key ++ ':' :: compactChars value
  | (key, value) :: next :: rest =>
      quote key ++ ':' :: compactChars value ++ ',' :: compactMembers (next :: rest)

end

/-- The compact text of a value. -/
def compact (j : Json) : String :=
  String.ofList j.compactChars

end PhaseTable.Json
