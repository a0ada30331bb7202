/-
# PhaseTable.Predicate -- trees of comparisons

What is selected becomes a tree of comparisons that any query engine can walk: groups
of which all or one must hold, and leaves that compare a field with a number or a text.

`Predicate.text` is the tree as one line: groups in parentheses with `AND` or `OR`
between their members, texts between quotes, numbers as in cells.
-/
import PhaseTable.Json.Value
import PhaseTable.Number.Positional
import PhaseTable.Text.Quoted

namespace PhaseTable

set_option autoImplicit false

/-- What a comparison is about: the number of the phase, or a field of the query language. -/
inductive Field where
  | phaseNumber
  | custom (name : String)
deriving DecidableEq

inductive NumberOp where
  | eq
  | neq
  | gt
  | gte
  | lt
  | lte
deriving DecidableEq

inductive TextOp where
  | equals
  | notEquals
  | contains
  | notContains
  | startsWith
  | notStartsWith
  | endsWith
  | notEndsWith
deriving DecidableEq

inductive Test where
  | number (op : NumberOp) (value : Binary64)
  | text (op : TextOp) (value : String)
deriving DecidableEq

structure Comparison where
  field : Field
  test : Test
deriving DecidableEq

/-- A tree of comparisons. -/
inductive Predicate where
  /-- All members hold. -/
  | and (items : List Predicate)
  /-- One member holds. -/
  | or (items : List Predicate)
  | leaf (comparison : Comparison)

namespace Predicate

instance : Inhabited Predicate := ⟨.or []⟩

mutual

def decideEq : (p q : Predicate) → Decidable (p = q)
  | .leaf c, .leaf d => decidable_of_iff (c = d) (by simp)
  | .and items, .and others =>
      have := decideItemsEq items others
      decidable_of_iff (items = others) (by simp)
  | .or items, .or others =>
      have := decideItemsEq items others
      decidable_of_iff (items = others) (by simp)
  | .leaf _, .and _ | .leaf _, .or _ | .and _, .leaf _ | .and _, .or _ | .or _, .leaf _
  | .or _, .and _ => .isFalse nofun

def decideItemsEq : (items others : List Predicate) → Decidable (items = others)
  | [], [] => .isTrue rfl
  | [], _ :: _ => .isFalse nofun
  | _ :: _, [] => .isFalse nofun
  | item :: items, other :: others =>
      have := decideEq item other
      have := decideItemsEq items others
      decidable_of_iff (item = other ∧ items = others) (by simp)

end

instance : DecidableEq Predicate := decideEq

def compareNumber (field : Field) (op : NumberOp) (value : Binary64) : Predicate :=
  .leaf ⟨field, .number op value⟩

def compareText (field : Field) (op : TextOp) (value : String) : Predicate :=
  .leaf ⟨field, .text op value⟩

/-- One of the members holds; a single member needs no group. -/
def anyOf : List Predicate → Predicate
  | [item] => item
  | items => .or items

/-- All members hold; a single member needs no group. -/
def allOf : List Predicate → Predicate
  | [item] => item
  | items => .and items

mutual

def leafCount : Predicate → Nat
  | .leaf _ => 1
  | .and items => leafCounts items
  | .or items => leafCounts items

def leafCounts : List Predicate → Nat
  | [] => 0
  | item :: rest => item.leafCount + leafCounts rest

end

/-- There is no comparison in the tree. -/
def isEmpty (p : Predicate) : Bool :=
  p.leafCount == 0

/-- The members of a group; a comparison has none. -/
def children : Predicate → List Predicate
  | .and items | .or items => items
  | .leaf _ => []

mutual

def comparisons : Predicate → List Comparison
  | .leaf c => [c]
  | .and items => comparisonsOf items
  | .or items => comparisonsOf items

def comparisonsOf : List Predicate → List Comparison
  | [] => []
  | item :: rest => item.comparisons ++ comparisonsOf rest

end

mutual

/-- The truth of a tree when `holds` tells the truth of its comparisons. -/
def eval (holds : Comparison → Bool) : Predicate → Bool
  | .leaf c => holds c
  | .and items => evalAll holds items
  | .or items => evalAny holds items

def evalAll (holds : Comparison → Bool) : List Predicate → Bool
  | [] => true
  | item :: rest => item.eval holds && evalAll holds rest

def evalAny (holds : Comparison → Bool) : List Predicate → Bool
  | [] => false
  | item :: rest => item.eval holds || evalAny holds rest

end

end Predicate

/-! ## Text -/

def Field.name : Field → String
  | .phaseNumber => "PHASE"
  | .custom name => name

def NumberOp.sign : NumberOp → String
  | .eq => "="
  | .neq => "!="
  | .gt => ">"
  | .gte => ">="
  | .lt => "<"
  | .lte => "<="

def TextOp.sign : TextOp → String
  | .equals => "="
  | .notEquals => "!="
  | .contains => "contains"
  | .notContains => "notContains"
  | .startsWith => "startsWith"
  | .notStartsWith => "notStartsWith"
  | .endsWith => "endsWith"
  | .notEndsWith => "notEndsWith"

def Comparison.text (c : Comparison) : String :=
  match c.test with
  | .number op value => c.field.name ++ " " ++ op.sign ++ " " ++ formatNumber value
  | .text op value => c.field.name ++ " " ++ op.sign ++ " '" ++ Text.doubleQuotes value ++ "'"

namespace Predicate

mutual

def text : Predicate → String
  | .leaf c => c.text
  | .and items => "(" ++ textsWith " AND " items ++ ")"
  | .or items => "(" ++ textsWith " OR " items ++ ")"

/-- The members of a group as texts, with a word between them. -/
def textsWith (joint : String) : List Predicate → String
  | [] => ""
  | [item] => item.text
  | item :: next :: rest => item.text ++ joint ++ textsWith joint (next :: rest)

end

end Predicate

/-! ## JSON form -/

def NumberOp.label : NumberOp → String
  | .eq => "Eq"
  | .neq => "Neq"
  | .gt => "Gt"
  | .gte => "Gte"
  | .lt => "Lt"
  | .lte => "Lte"

def TextOp.label : TextOp → String
  | .equals => "Equals"
  | .notEquals => "NotEquals"
  | .contains => "Contains"
  | .notContains => "NotContains"
  | .startsWith => "StartsWith"
  | .notStartsWith => "NotStartsWith"
  | .endsWith => "EndsWith"
  | .notEndsWith => "NotEndsWith"

def Field.toJson : Field → Json
  | .phaseNumber => .str "phaseNumber"
  | .custom name => .obj [("custom", .str name)]

/-- The JSON form of a test; a number that is not finite is null. -/
def Test.toJson : Test → Json
  | .number op value =>
      .obj [("number", .obj [("op", .str op.label),
        ("value", if value.isFinite then .number (.float value) else .null)])]
  | .text op value => .obj [("text", .obj [("op", .str op.label), ("value", .str value)])]

namespace Predicate

mutual

def toJson : Predicate → Json
  | .leaf c => .obj [("leaf", .obj [("field", c.field.toJson), ("test", c.test.toJson)])]
  | .and items => .obj [("and", .arr (toJsons items))]
  | .or items => .obj [("or", .arr (toJsons items))]

def toJsons : List Predicate → List Json
  | [] => []
  | item :: rest => item.toJson :: toJsons rest

end

end Predicate

end PhaseTable
