/-
# PhaseTable.Json.Mismatch -- what is wrong with a document, in words

Decoding ends at the first thing that is wrong: a place where the text breaks off
(`Fault`), or a value that does not fit (`Mismatch`).  A mismatch tells what was found
and what was expected.  A number that is the key of a member has faults of its own
(`KeyError`), with the place in the key up to which it has been read.
-/
import PhaseTable.Json.Document
import PhaseTable.Json.Printer
import PhaseTable.Text.Quoted

namespace PhaseTable

set_option autoImplicit false

/-! ## Mismatches -/

/-- What a document is at its top, as a message names it. -/
inductive Found where
  | null
  | bool (value : Bool)
  | number (value : JsonNumber)
  | text (value : String)
  | array
  | object
deriving DecidableEq

def Found.words : Found → String
  | .null => "null"
  | .bool b => "boolean `" ++ (if b then "true" else "false") ++ "`"
  | .number (.int i) => "integer `" ++ intText i ++ "`"
  | .number n => "floating point `" ++ String.ofList (Json.numberText n) ++ "`"
  | .text s => "string " ++ Text.quoted s
  | .array => "sequence"
  | .object => "map"

/-- How a value fails to fit. -/
inductive Mismatch where
  | wrongType (found : Found) (expected : String)
  | wrongValue (found : Found) (expected : String)
  | wrongLength (length : Nat) (expected : String)
  | missingField (key : String)
  | duplicateField (key : String)
  | unknownVariant (found : String) (names : List String)
deriving DecidableEq

/-- A list of names between backquotes, with commas. -/
def nameList (names : List String) : String :=
  String.intercalate ", " (names.map fun name => "`" ++ name ++ "`")

def Mismatch.message : Mismatch → String
  | .wrongType found expected => "invalid type: " ++ found.words ++ ", expected " ++ expected
  | .wrongValue found expected => "invalid value: " ++ found.words ++ ", expected " ++ expected
  | .wrongLength length expected =>
      "invalid length " ++ intText length ++ ", expected " ++ expected
  | .missingField key => "missing field `" ++ key ++ "`"
  | .duplicateField key => "duplicate field `" ++ key ++ "`"
  | .unknownVariant found names =>
      "unknown variant `" ++ found ++ "`, expected one of " ++ nameList names

/-! ## Numbers as keys -/

/-- What is wrong with the number that a key is. -/
inductive KeyFault where
  | invalid
  | unfinished
  | outOfRange
  | unfit (mismatch : Mismatch)
deriving DecidableEq

def KeyFault.message : KeyFault → String
  | .invalid => "invalid number"
  | .unfinished => "EOF while parsing a value"
  | .outOfRange => "number out of range"
  | .unfit m => m.message

/-- A place in a key: its line, from one, and the bytes of the line before it. -/
structure Place where
  line : Nat
  column : Nat
deriving DecidableEq

def Place.afterBytes (count : Nat) : Place :=
  ⟨1, count⟩

/-- The place after the first byte of `rest`, with `count` bytes of the first line before it. -/
def Place.into (count : Nat) (rest : List Char) : Place :=
  if rest.head? = some '\n' then ⟨2, 0⟩ else ⟨1, count + 1⟩

def Place.words (p : Place) : String :=
  "at line " ++ intText p.line ++ " column " ++ intText p.column

/-- What is wrong with a key, and the place up to which it has been read. -/
structure KeyError where
  fault : KeyFault
  place : Place
deriving DecidableEq

/-! ## Errors -/

/-- The first thing that is wrong with a document. -/
inductive DecodeError where
  | fault (fault : Fault)
  | mismatch (mismatch : Mismatch)
  /-- A key does not begin like a number, or does not end with it. -/
  | noNumber
  /-- A key begins like a number and is none that fits. -/
  | badKey (error : KeyError)
deriving DecidableEq

/-- The wording of a decoding error; faults of a text are named by their kind alone. -/
def DecodeError.message : DecodeError → String
  | .fault .malformed => "syntax"
  | .fault .truncated => "eof"
  | .mismatch m => m.message
  | .noNumber => "invalid value: expected key to be a number in quotes"
  | .badKey error => error.fault.message ++ " " ++ error.place.words

end PhaseTable
