/-
# PhaseTable.Json.Decoding -- documents as values of a type

A decoder walks a document in reading order and stops at the first thing that is
wrong: a value that does not fit (`Mismatch`) or the place where the text breaks off
(`Fault`).  `DecodeError.message` words both.

Records are described by a `Shape`: the keys in their order, the value when no key is
given, and what a key changes.  A record is written as an object, whose unknown keys
are passed over, or as an array of the values in the order of the keys, of which the
last ones may be missing.  A key of an object that comes twice is refused.

`Origin` tells a text that is being read from a value that is already there.  The
two differ where something is left over: in a text the reader stands in front of it
and calls it malformed, in a value its length is known.  They also differ in a number
that is the key of a member: in a value it is a text to be read by itself, so what is
wrong with it has a place in that text.
-/
import PhaseTable.Json.Mismatch
import PhaseTable.Json.Reader

namespace PhaseTable

set_option autoImplicit false

/-- A decoded value, or the first thing that is wrong. -/
abbrev Decoded := Except DecodeError

/-- A text that is being read, or a value that is already there. -/
inductive Origin where
  | text
  | value
deriving DecidableEq

namespace Decode

/-- What a document is at its top.  A text or number must be readable for that; the inside of a
bracket need not be. -/
def found : Document → Decoded Found
  | .null => .ok .null
  | .bool b => .ok (.bool b)
  | .number (some n) => .ok (.number n)
  | .number none => .error (.fault .malformed)
  | .text (some s) => .ok (.text s)
  | .text none => .error (.fault .malformed)
  | .array _ _ => .ok .array
  | .object _ _ => .ok .object
  | .tooDeep (.object _ _) => .ok .object
  | .tooDeep _ => .ok .array
  | .broken b => .error (.fault b.read)

def refuse {α : Type} (d : Document) (expected : String) : Decoded α := do
  throw (.mismatch (.wrongType (← found d) expected))

/-- The end of a bracket is reached, unless the text breaks off before it. -/
def atEnd : Option Break → Decoded Unit
  | none => .ok ()
  | some b => .error (.fault b.read)

/-- A document is passed over, unless the text breaks off in it. -/
def passOver (d : Document) : Decoded Unit :=
  match d.skipFault? with
  | none => .ok ()
  | some fault => .error (.fault fault)

/-! ## Plain values -/

def text : Document → Decoded String
  | .text (some s) => .ok s
  | d => refuse d "a string"

def bool : Document → Decoded Bool
  | .bool b => .ok b
  | d => refuse d "a boolean"

/-- A number as an integer that `convert` takes, whose type a message calls `expected`. -/
def wholeNumber {α : Type} (convert : Int → Option α) (expected : String) :
    JsonNumber → Except Mismatch α
  | .int i =>
      match convert i with
      | some a => .ok a
      | none => .error (.wrongValue (.number (.int i)) expected)
  | .float x => .error (.wrongType (.number (.float x)) expected)

/-- An integer that `convert` takes, whose type a message calls `expected`. -/
def integer {α : Type} (convert : Int → Option α) (expected : String) : Document → Decoded α
  | .number (some n) => (wholeNumber convert expected n).mapError .mismatch
  | d => refuse d expected

def int32 : Document → Decoded Int32 :=
  integer int32? "i32"

def int64 : Document → Decoded Int64 :=
  integer int64? "i64"

def count : Document → Decoded UInt64 :=
  integer uint64? "usize"

/-- A number; an integer is rounded. -/
def number : Document → Decoded Binary64
  | .number (some (.int i)) => .ok (.ofInt i)
  | .number (some (.float x)) => .ok x
  | d => refuse d "f64"

def anyValue (d : Document) : Decoded Json :=
  d.toJson.mapError .fault

def optional {α : Type} (decode : Document → Decoded α) : Document → Decoded (Option α)
  | .null => .ok none
  | d => some <$> decode d

def orNull {α : Type} (default : α) (decode : Document → Decoded α) (d : Document) : Decoded α :=
  (·.getD default) <$> optional decode d

def variant {α : Type} (names : List String) (parse : String → Option α) (d : Document) :
    Decoded α := do
  let name ← text d
  match parse name with
  | some a => return a
  | none => throw (.mismatch (.unknownVariant name names))

def list {α : Type} (decode : Document → Decoded α) : Document → Decoded (List α)
  | .array items ending => do
      let values ← items.mapM decode
      atEnd ending
      return values
  | .tooDeep (.array _ _) => .error (.fault .malformed)
  | d => refuse d "a sequence"

/-! ## Maps -/

def keyText (key : Key) : Decoded String :=
  key.content.mapError .fault

/-- The 32-bit integer at the start of some characters, and the rest. -/
def scanInt32 (cs : List Char) : Except KeyError (Int32 × List Char) :=
  match Json.scanNumber cs with
  | .error (.invalid rest) => .error ⟨.invalid, .into (cs.length - rest.length) rest⟩
  | .error .unfinished => .error ⟨.unfinished, .afterBytes cs.length⟩
  | .ok (parts, rest) =>
      let taken := cs.length - rest.length
      match parts.value with
      | none => .error ⟨.outOfRange, .afterBytes (taken - parts.excess)⟩
      | some n =>
          match wholeNumber int32? "i32" n with
          | .ok i => .ok (i, rest)
          | .error m => .error ⟨.unfit m, .afterBytes taken⟩

/-- The error of a key.  In a text what is no number is a fault of the text. -/
def keyError (origin : Origin) (error : KeyError) : DecodeError :=
  match origin, error.fault with
  | .value, _ => .badKey error
  | .text, .unfit m => .mismatch m
  | .text, .unfinished => .fault .truncated
  | .text, _ => .fault .malformed

/-- A key as the 32-bit integer that stands between its quotes. -/
def keyInt32 (origin : Origin) (key : Key) : Decoded Int32 := do
  unless key.source.head?.any fun c => c == '-' || c.isDigit do
    throw .noNumber
  let (i, rest) ← (scanInt32 key.source).mapError (keyError origin)
  match origin, rest with
  | .text, '"' :: _ => return i
  | .text, _ => throw (.fault .malformed)
  | .value, [] => return i
  | .value, _ => throw .noNumber

/-- A map; of equal keys the last one counts. -/
def map {κ α : Type} [LT κ] [DecidableLT κ] [DecidableEq κ] [KeyOrder κ]
    (key : Key → Decoded κ) (decode : Document → Decoded α) :
    Document → Decoded (OrderedMap κ α)
  | .object members ending => do
      let entries ← members.mapM fun member => do
        let k ← key member.1
        return (k, ← decode member.2)
      atEnd ending
      return .ofList entries
  | .tooDeep (.object _ _) => .error (.fault .malformed)
  | d => refuse d "a map"

end Decode

/-! ## Records -/

/-- How a record is written. -/
structure Shape (α : Type) where
  /-- The name of the record in messages. -/
  name : String
  /-- The keys in the order of the array form. -/
  keys : List String
  /-- The keys that have no default. -/
  required : List String
  /-- The record when no key is given. -/
  start : α
  /-- The record with the value of one of its keys. -/
  set : α → String → Document → Decoded α

namespace Shape

variable {α : Type} (shape : Shape α)

def words : String :=
  "struct " ++ shape.name

/-- The words for a record whose array form is too short. -/
def wordsWithLength : String :=
  shape.words ++ " with " ++ intText shape.keys.length ++
    (if shape.keys.length = 1 then " element" else " elements")

/-- The record with the members of an object, `seen` being the keys that came before. -/
def setMembers (record : α) (seen : List String) :
    List (Key × Document) → Decoded (α × List String)
  | [] => .ok (record, seen)
  | (key, document) :: rest => do
      let key ← Decode.keyText key
      if key ∈ shape.keys then
        if key ∈ seen then throw (.mismatch (.duplicateField key))
        setMembers (← shape.set record key document) (key :: seen) rest
      else
        Decode.passOver document
        setMembers record seen rest

/-- The record with the items of an array at the keys, and the keys and items that are left. -/
def setItems (record : α) :
    List String → List Document → Decoded (α × List String × List Document)
  | [], items => .ok (record, [], items)
  | keys, [] => .ok (record, keys, [])
  | key :: keys, item :: items => do
      setItems (← shape.set record key item) keys items

def decode (origin : Origin) : Document → Decoded α
  | .object members ending => do
      let (record, seen) ← shape.setMembers shape.start [] members
      Decode.atEnd ending
      match shape.required.find? (· ∉ seen) with
      | some key => throw (.mismatch (.missingField key))
      | none => return record
  | .array items ending => do
      let (record, missing, left) ← shape.setItems shape.start shape.keys items
      match origin, left with
      | .text, _ :: _ => throw (.fault .malformed)
      | .value, _ :: _ =>
          throw (.mismatch (.wrongLength items.length "fewer elements in array"))
      | _, [] => Decode.atEnd ending
      match missing.find? (· ∈ shape.required) with
      | some key =>
          throw (.mismatch (.wrongLength (shape.keys.idxOf key) shape.wordsWithLength))
      | none => return record
  | .tooDeep _ => .error (.fault .malformed)
  | d => Decode.refuse d shape.words

end Shape

/-! ## Whole texts -/

/-- A text as a value of a type; something other than blanks after it is malformed. -/
def Decode.wholeText {α : Type} (decode : Document → Decoded α) (s : String) : Decoded α := do
  let (document, trailing) := Json.read s
  let value ← decode document
  if trailing then throw (.fault .malformed)
  return value

end PhaseTable
