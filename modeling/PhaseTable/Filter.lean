/-
# PhaseTable.Filter -- one input applied to a phase

A filter carries the value that a user gave an editable column, together with what the
column says about it: its target, mode, rule and type.  Filters of one phase that
agree in everything up to case are one filter; `Filter.signature` is what they are
compared by.
-/
import PhaseTable.Config

namespace PhaseTable

set_option autoImplicit false

open Text

/-- The value of an editable column, with what the column says about it. -/
structure Filter where
  targetType : Option ObjectType
  targetAttr : String
  booleanMode : String
  rule : Option Rule
  valueType : ValueType
  value : String
deriving DecidableEq

namespace Filter

def blank : Filter :=
  ⟨none, "", "", none, .string, ""⟩

def ofColumn (c : Column) (value : String) : Filter :=
  ⟨c.targetType, c.targetAttr, c.booleanMode, c.rule, c.valueType, value⟩

def isPositiveNumber (f : Filter) : Bool :=
  isPositiveNumberMode f.booleanMode

/-- The filter has a target and a value. -/
def isUsable (f : Filter) : Bool :=
  !Text.blank f.targetAttr && !Text.blank f.value

/-- What is compared of a clause: its field, operator and literals. -/
def clauseSignature : Option Clause → String
  | none => ""
  | some c => c.field ++ ":" ++ c.op ++ ":" ++ String.intercalate "," c.value.literals

/-- What is compared of a rule: its three clauses. -/
def ruleSignature : Option Rule → String
  | none => ""
  | some r =>
      clauseSignature r.onTrue ++ "|" ++ clauseSignature r.onFalse ++ "|" ++
        clauseSignature r.onValue

/-- What is compared of a filter: all of its parts, in lower case. -/
def signature (f : Filter) : String :=
  lowerCase <|
    (f.targetType.map ObjectType.name).getD "" ++ ":" ++ f.targetAttr ++ ":" ++ f.booleanMode ++
      ":" ++ f.valueType.name ++ ":" ++ f.value ++ ":" ++ ruleSignature f.rule

/-! ## JSON form -/

def toJson (f : Filter) : Json :=
  .ofMembers [
    f.rule.map (("applyRule", ·.toJson)),
    some ("booleanMode", .str f.booleanMode),
    some ("targetAttribute", .str f.targetAttr),
    f.targetType.map (("targetObjectType", ·.toJson)),
    some ("value", .str f.value),
    some ("valueType", f.valueType.toJson)]

def shape (origin : Origin) : Shape Filter where
  name := "AttributeFilter"
  keys := ["targetObjectType", "targetAttribute", "booleanMode", "applyRule", "valueType", "value"]
  required := []
  start := blank
  set f key d :=
    match key with
    | "targetObjectType" => do
        return { f with targetType := ← Decode.optional ObjectType.decode d }
    | "targetAttribute" => do return { f with targetAttr := ← Decode.text d }
    | "booleanMode" => do return { f with booleanMode := ← Decode.text d }
    | "applyRule" => do
        return { f with rule := ← Decode.optional ((Rule.shape origin).decode origin) d }
    | "valueType" => do return { f with valueType := ← ValueType.decode d }
    | _ => do return { f with value := ← Decode.text d }

def decode (origin : Origin) : Document → Decoded Filter :=
  (shape origin).decode origin

end Filter

end PhaseTable
