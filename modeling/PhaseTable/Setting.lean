/-
# PhaseTable.Setting -- the settings of a column that name a variant

The type of a column's values, the kind of model object that it is bound to and the
way in which the values of a phase are reduced to one cell.  Each is written by name;
blank ends and the case of ASCII letters do not count.
-/
import PhaseTable.Json.Decoding
import PhaseTable.Text.Blank
import PhaseTable.Text.LowerCase

namespace PhaseTable

set_option autoImplicit false

/-- The form in which the names of variants are compared. -/
def settingToken (s : String) : String :=
  Text.asciiLower (Text.trim s)

inductive ValueType where
  | string
  | number
  | integer
  | boolean
deriving DecidableEq

namespace ValueType

def all : List ValueType :=
  [.string, .number, .integer, .boolean]

def name : ValueType → String
  | .string => "String"
  | .number => "Number"
  | .integer => "Integer"
  | .boolean => "Boolean"

/-- The type with a name; two of them have a short name too. -/
def parse (s : String) : Option ValueType :=
  match settingToken s with
  | "string" => some .string
  | "number" => some .number
  | "integer" | "int" => some .integer
  | "boolean" | "bool" => some .boolean
  | _ => none

def isNumeric : ValueType → Bool
  | .number | .integer => true
  | _ => false

def toJson (t : ValueType) : Json :=
  .str t.name

def decode : Document → Decoded ValueType :=
  Decode.variant (all.map name) parse

end ValueType

/-- The kind of model object that a column reads from or that its filter selects. -/
inductive ObjectType where
  | phase
  | part
  | assembly
  | bolt
deriving DecidableEq

namespace ObjectType

def all : List ObjectType :=
  [.phase, .part, .assembly, .bolt]

def name : ObjectType → String
  | .phase => "Phase"
  | .part => "Part"
  | .assembly => "Assembly"
  | .bolt => "Bolt"

def parse (s : String) : Option ObjectType :=
  match settingToken s with
  | "phase" => some .phase
  | "part" => some .part
  | "assembly" => some .assembly
  | "bolt" => some .bolt
  | _ => none

def toJson (t : ObjectType) : Json :=
  .str t.name

def decode : Document → Decoded ObjectType :=
  Decode.variant (all.map name) parse

end ObjectType

/-- How the values of the objects of a phase become one cell. -/
inductive Aggregate where
  /-- The value of the first object that has one. -/
  | first
  /-- The different values, up to case, in one text. -/
  | distinct
  /-- The number of objects. -/
  | count
  /-- The least number. -/
  | min
  /-- The greatest number. -/
  | max
deriving DecidableEq

namespace Aggregate

def all : List Aggregate :=
  [.first, .distinct, .count, .min, .max]

def name : Aggregate → String
  | .first => "First"
  | .distinct => "Distinct"
  | .count => "Count"
  | .min => "Min"
  | .max => "Max"

def parse (s : String) : Option Aggregate :=
  match settingToken s with
  | "first" => some .first
  | "distinct" => some .distinct
  | "count" => some .count
  | "min" => some .min
  | "max" => some .max
  | _ => none

def toJson (a : Aggregate) : Json :=
  .str a.name

def decode : Document → Decoded Aggregate :=
  Decode.variant (all.map name) parse

end Aggregate

end PhaseTable
