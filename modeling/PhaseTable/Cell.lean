/-
# PhaseTable.Cell -- typed values

Attributes of model objects and cells of the table are typed values.  A column
converts what it shows to its own type; a conversion that makes no sense leaves the
cell empty, and one to the type that a cell has leaves the cell as it is.

Text comes in through `Cell.text`, which trims it and has no blank text cells.
Cells that are decoded keep their text as it is.
-/
import PhaseTable.Number.Numeral
import PhaseTable.Number.Positional
import PhaseTable.Setting

namespace PhaseTable

set_option autoImplicit false

open Text

def trueWords : List String :=
  ["true", "1", "yes", "y", "on"]

def falseWords : List String :=
  ["false", "0", "no", "n", "off"]

/-- The truth value that a text names, whatever its case. -/
def parseBool (s : String) : Option Bool :=
  let word := trim s
  if trueWords.any (sameIgnoringAsciiCase word) then some true
  else if falseWords.any (sameIgnoringAsciiCase word) then some false
  else none

/-- A typed value, or none. -/
inductive Cell where
  | empty
  | string (value : String)
  | number (value : Binary64)
  | integer (value : Int64)
  | boolean (value : Bool)
deriving DecidableEq

namespace Cell

instance : Inhabited Cell := ⟨.empty⟩

/-- The cell of a text: the trimmed text, or empty when nothing is left. -/
def text (s : String) : Cell :=
  (nonBlank? s).elim .empty .string

def ofInt32 (i : Int32) : Cell :=
  .integer i.toInt64

/-- The cell of a number; what is not finite has none. -/
def ofNumber (x : Binary64) : Cell :=
  if x.isFinite then .number x else .empty

def valueType? : Cell → Option ValueType
  | .empty => none
  | .string _ => some .string
  | .number _ => some .number
  | .integer _ => some .integer
  | .boolean _ => some .boolean

def hasValue (c : Cell) : Bool :=
  c.valueType?.isSome

/-- The text by which values are shown, compared and told apart. -/
def display : Cell → String
  | .empty => ""
  | .string s => s
  | .number x => formatNumber x
  | .integer i => intText i.toInt
  | .boolean b => if b then "true" else "false"

/-- The value as a number, where it can be read as one. -/
def asNumber : Cell → Option Binary64
  | .empty => none
  | .string s => parseNumber s
  | .number x => some x
  | .integer i => some (.ofInt i.toInt)
  | .boolean b => some (.ofInt (if b then 1 else 0))

/-- The value as an integer, where it is a whole number of 64 bits. -/
def asInteger : Cell → Option Int64
  | .empty => none
  | .string s => (parseInt64 (trim s)).or ((parseNumber s).bind Binary64.wholeNumber?)
  | .number x => x.wholeNumber?
  | .integer i => some i
  | .boolean b => some (if b then 1 else 0)

/-- The value as a truth value: numbers by whether they are zero, texts by their word. -/
def asBool : Cell → Option Bool
  | .empty => none
  | .string s => parseBool s
  | .number x => some x.exceedsEpsilon
  | .integer i => some (i ≠ 0)
  | .boolean b => some b

def convert (c : Cell) (target : ValueType) : Cell :=
  if c.valueType? = some target then c
  else
    match target with
    | .string => text c.display
    | .number => c.asNumber.elim .empty .number
    | .integer => c.asInteger.elim .empty .integer
    | .boolean => c.asBool.elim .empty .boolean

/-- Equality of cells as values; a cell that is not a number differs from itself. -/
def same : Cell → Cell → Bool
  | .number x, .number y => x.same y
  | c, d => c = d

/-- A text in the cell is trimmed and not blank. -/
def Tidy : Cell → Prop
  | .string s => Trimmed s
  | _ => True

instance : (c : Cell) → Decidable c.Tidy
  | .string s => inferInstanceAs (Decidable (Trimmed s))
  | .empty | .number _ | .integer _ | .boolean _ => .isTrue trivial

/-! ## JSON form -/

def kind : Cell → String
  | .empty => "Empty"
  | .string _ => "String"
  | .number _ => "Number"
  | .integer _ => "Integer"
  | .boolean _ => "Boolean"

def kinds : List String :=
  ["Empty", "String", "Number", "Integer", "Boolean"]

def payload? : Cell → Option Json
  | .empty => none
  | .string s => some (.str s)
  | .number x => some (.number (.float x))
  | .integer i => some (.int i.toInt)
  | .boolean b => some (.bool b)

/-- The JSON form: the kind, and the value if there is one. -/
def toJson (c : Cell) : Json :=
  .ofMembers [some ("type", .str c.kind), c.payload?.map ("value", ·)]

def words : String :=
  "adjacently tagged enum TypedCell"

def knownKind (s : String) : Decoded String :=
  if s ∈ kinds then .ok s else .error (.mismatch (.unknownVariant s kinds))

/-- The kind that an item names, as a text. -/
def decodeKindItem : Document → Decoded String
  | .text (some s) => knownKind s
  | d => Decode.refuse d "variant identifier"

/-- The kind that a member names, as a text or as the only key of an object of null. -/
def decodeKind (origin : Origin) : Document → Decoded String
  | .text (some s) => knownKind s
  | .object ((key, value) :: rest) ending =>
      match origin with
      | .text => do
          let name ← Decode.keyText key >>= knownKind
          nothing value
          if rest ≠ [] then throw (.fault .malformed)
          closed ending
          return name
      | .value => do
          if rest ≠ [] then throw (.mismatch (.wrongValue .object "map with a single key"))
          let name ← Decode.keyText key >>= knownKind
          nothing value
          return name
  | .object [] ending =>
      match origin with
      | .text => do
          closed ending
          throw (.fault .malformed)
      | .value => .error (.mismatch (.wrongValue .object "map with a single key"))
  | d =>
      match origin, d with
      | .text, .broken b => .error (.fault b.enter)
      | .text, _ => .error (.fault .malformed)
      | .value, d => Decode.refuse d "string or map"
where
  /-- Null. -/
  nothing : Document → Decoded Unit
    | .null => .ok ()
    | d => Decode.refuse d "unit"
  /-- The end of the object, which takes nothing but its brace. -/
  closed : Option Break → Decoded Unit
    | none => .ok ()
    | some b => .error (.fault b.enter)

def decodePayload (kind : String) (d : Document) : Decoded Cell :=
  match kind with
  | "String" => .string <$> Decode.text d
  | "Number" => .number <$> Decode.number d
  | "Integer" => .integer <$> Decode.int64 d
  | "Boolean" => .boolean <$> Decode.bool d
  | _ =>
      match d with
      | .null => .ok .empty
      | .tooDeep _ => .error (.fault .malformed)
      | d => Decode.refuse d "unit variant TypedCell::Empty"

/-- The part of a cell that the members of an object have given so far.  A value that comes before
the kind is kept as it is until the kind is known. -/
inductive Draft where
  | nothing
  | kind (name : String)
  | value (payload : Json)
  | done (cell : Cell)

def Draft.add (origin : Origin) (draft : Draft) (key : String) (d : Document) : Decoded Draft :=
  match key, draft with
  | "type", .nothing => .kind <$> decodeKind origin d
  | "type", .value payload => do
      let name ← decodeKind origin d
      .done <$> decodePayload name (.ofJson payload)
  | "type", _ => .error (.mismatch (.duplicateField "type"))
  | "value", .nothing => .value <$> Decode.anyValue d
  | "value", .kind name => .done <$> decodePayload name d
  | "value", _ => .error (.mismatch (.duplicateField "value"))
  | _, _ => do
      Decode.passOver d
      return draft

def Draft.addMembers (origin : Origin) (draft : Draft) :
    List (Key × Document) → Decoded Draft
  | [] => .ok draft
  | (key, d) :: rest => do
      let draft ← draft.add origin (← Decode.keyText key) d
      draft.addMembers origin rest

/-- The cell of a finished draft; only an empty cell may lack its value. -/
def Draft.finish : Draft → Decoded Cell
  | .done cell => .ok cell
  | .kind "Empty" => .ok .empty
  | .kind _ => .error (.mismatch (.missingField "value"))
  | _ => .error (.mismatch (.missingField "type"))

/-- The cell that a document describes: its kind and value as members of an object, in either
order, or as the two items of an array. -/
def decode (origin : Origin) : Document → Decoded Cell
  | .object members ending => do
      let draft ← Draft.nothing.addMembers origin members
      Decode.atEnd ending
      draft.finish
  | .array items ending =>
      match items with
      | [] => do
          Decode.atEnd ending
          throw (.mismatch (.wrongLength 0 words))
      | [kind] => do
          let _ ← decodeKindItem kind
          Decode.atEnd ending
          throw (.mismatch (.wrongLength 1 words))
      | kind :: payload :: rest => do
          let cell ← decodePayload (← decodeKindItem kind) payload
          match origin, rest with
          | .text, _ :: _ => throw (.fault .malformed)
          | .value, _ :: _ =>
              throw (.mismatch (.wrongLength items.length "fewer elements in array"))
          | _, [] => Decode.atEnd ending
          return cell
  | .tooDeep _ => .error (.fault .malformed)
  | d => Decode.refuse d words

end Cell

end PhaseTable
