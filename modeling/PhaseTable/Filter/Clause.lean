/-
# PhaseTable.Filter.Clause -- the clause that a filter adds to the query

A filter with a rule takes the clause of the branch that its value selects
(`Filter.compile`); there may be none for the value, and the clause may be of no use
(`ClauseError`).  A filter without a rule may still be one of those that predate rules
(`Filter.legacy`): the mode of positive numbers and the two old targets.
-/
import PhaseTable.Filter

namespace PhaseTable

set_option autoImplicit false

open Text

/-- What a clause compares with: the value of the filter, or fixed texts. -/
inductive Operand where
  | input
  | literals (values : List String)
deriving DecidableEq

/-- What a clause compares: its field, or the profile of the parts and the main parts of assemblies
that an object type names (of both when it names none). -/
inductive Scope where
  | field
  | profiles (objectType : Option ObjectType)
deriving DecidableEq

/-- A clause that is ready for the query. -/
structure ReadyClause where
  field : String
  op : RuleOp
  operand : Operand
  scope : Scope
deriving DecidableEq

namespace ReadyClause

def toJson (c : ReadyClause) : Json :=
  .obj [
    ("field", .str c.field),
    ("literalValues",
      match c.operand with
      | .input => .arr []
      | .literals values => .texts values),
    ("operation", .str c.op.label),
    ("profileScopeObjectType",
      match c.scope with
      | .profiles (some type) => type.toJson
      | _ => .null),
    ("useProfileScope", .bool (c.scope ≠ .field)),
    ("usesInputValue", .bool (c.operand = .input))]

end ReadyClause

/-- The value means true: `true` or `1`, whatever its blank ends and case. -/
def isTruthy (value : String) : Bool :=
  let value := trim value
  sameIgnoringAsciiCase value "true" || value = "1"

/-- What a value is to a rule. -/
inductive InputClass where
  | truthy
  | falsy
  | hasValue
  | empty
deriving DecidableEq

namespace InputClass

def of (type : ValueType) (value : String) : InputClass :=
  if type = .boolean then
    if isTruthy value then .truthy else .falsy
  else if Text.blank value then .empty
  else .hasValue

def name : InputClass → String
  | .truthy => "Truthy"
  | .falsy => "Falsy"
  | .hasValue => "HasValue"
  | .empty => "Empty"

end InputClass

def Rule.clauseFor (r : Rule) : InputClass → Option Clause
  | .truthy => r.onTrue
  | .falsy => r.onFalse
  | .hasValue => r.onValue
  | .empty => none

/-- Why the clause of a rule cannot be used. -/
inductive ClauseError where
  | unsupportedOp (op target : String)
  | missingField (target : String)
  | emptyLiteral (field : String)
deriving DecidableEq

namespace ClauseError

def message : ClauseError → String
  | .unsupportedOp op target => "unsupported applyRule op '" ++ op ++ "' for '" ++ target ++ "'."
  | .missingField target =>
      "applyRule has no field and targetAttribute is empty for '" ++ target ++ "'."
  | .emptyLiteral field => "applyRule for '" ++ field ++ "' has empty literal value."

def name : ClauseError → String
  | .unsupportedOp _ _ => "UnsupportedOp"
  | .missingField _ => "MissingField"
  | .emptyLiteral _ => "EmptyLiteral"

end ClauseError

/-- A clause made ready for a filter with the given target. -/
def Clause.ready (c : Clause) (targetAttr : String) : Except ClauseError ReadyClause :=
  match RuleOp.parse c.op with
  | none => .error (.unsupportedOp c.op targetAttr)
  | some op =>
      match (nonBlank? c.field).or (nonBlank? targetAttr) with
      | none => .error (.missingField targetAttr)
      | some field =>
          if c.value = .null then .ok ⟨field, op, .input, .field⟩
          else
            match c.value.literals with
            | [] => .error (.emptyLiteral field)
            | values => .ok ⟨field, op, .literals values, .field⟩

/-- The clause that the filter's rule has for its value, ready for the query. -/
def Filter.compile (f : Filter) : Except ClauseError (Option ReadyClause) :=
  match f.rule.bind (·.clauseFor (.of f.valueType f.value)) with
  | none => .ok none
  | some c => some <$> c.ready f.targetAttr

/-! ## Filters that predate rules -/

def existingStockField : String := "PT_INFO_BESTAND"

def profileField : String := "PROFILE"

def gratingProfile : String := "GIRO"

/-- What a filter without a rule is among those that predate rules. -/
inductive Legacy where
  | notRecognized
  /-- The value adds nothing to the query. -/
  | noClause
  | clause (c : ReadyClause)
deriving DecidableEq

/-- The clause of a filter that predates rules. -/
def Filter.legacy (f : Filter) : Legacy :=
  match nonBlank? f.targetAttr with
  | none => .notRecognized
  | some target =>
      if f.valueType = .boolean && f.isPositiveNumber then
        .clause ⟨target, if isTruthy f.value then .gt else .eq, .literals ["0"], .field⟩
      else if sameIgnoringAsciiCase target excludeExisting then
        if isTruthy f.value then .clause ⟨existingStockField, .neq, .literals ["1"], .field⟩
        else .noClause
      else if sameIgnoringAsciiCase target excludeGratings then
        if isTruthy f.value then
          .clause ⟨profileField, .notStartsWith, .literals [gratingProfile],
            .profiles f.targetType⟩
        else .noClause
      else .notRecognized

end PhaseTable
