/-
# PhaseTable.Filter.Condition -- what a filter asks of the objects of its phase

A filter takes one of three ways to a condition, and never a second one: its rule; one
of the clauses that predate rules; or else equality of its target with one of the
values listed in it.  It may ask for nothing, and it may fail to ask for anything, which
is a `FilterNotice`.

A clause compares with values (`ReadyClause.values`).  As numbers they are compared by
the operators that order, which need every value to be one, and by equality on a column
that is not of texts, if every value is one.  Any other comparison is one of texts.  Only
`in` looks at more than the first value.
-/
import PhaseTable.Filter.Clause
import PhaseTable.Predicate
import PhaseTable.Source

namespace PhaseTable

set_option autoImplicit false

open Text

/-- Why a filter that asks for something adds nothing to the query. -/
inductive FilterNotice where
  | clause (reason : ClauseError)
  | targetTypeMissing (targetAttr : String)
  | noUsableValue (field : String)
  | orderingInScope (field : String) (op : RuleOp)
  | notNumeric (field : String) (values : List String)
deriving DecidableEq

def FilterNotice.message : FilterNotice → String
  | .clause reason => reason.message
  | .targetTypeMissing targetAttr =>
      "targetObjectType is required for '" ++ targetAttr ++ "', filter ignored."
  | .noUsableValue field => "applyRule for field '" ++ field ++ "' has no usable value."
  | .orderingInScope field op =>
      "profile-scoped rule for field '" ++ field ++ "' cannot use op '" ++ op.name ++ "'."
  | .notNumeric field values =>
      "applyRule for field '" ++ field ++ "' expects numeric value(s), got '" ++
        String.intercalate ", " values ++ "'."

/-! ## Comparisons -/

def RuleOp.numberOp : RuleOp → NumberOp
  | .neq => .neq
  | .gt => .gt
  | .gte => .gte
  | .lt => .lt
  | .lte => .lte
  | _ => .eq

def RuleOp.textOp : RuleOp → TextOp
  | .neq => .notEquals
  | .contains => .contains
  | .notContains => .notContains
  | .startsWith => .startsWith
  | .notStartsWith => .notStartsWith
  | .endsWith => .endsWith
  | .notEndsWith => .notEndsWith
  | _ => .equals

/-- A comparison with the first of some values, or with any of them for a list. -/
def RuleOp.compare {α : Type} (op : RuleOp) (leaf : α → Predicate) (first : α) (others : List α) :
    Predicate :=
  if op = .in_ then .anyOf ((first :: others).map leaf) else leaf first

def RuleOp.compareNumbers (op : RuleOp) (field : String) : Binary64 → List Binary64 → Predicate :=
  op.compare (.compareNumber (.custom field) op.numberOp)

def RuleOp.compareTexts (op : RuleOp) (field : String) : String → List String → Predicate :=
  op.compare (.compareText (.custom field) op.textOp)

/-- The number that a value of a clause is; the words for true and false are 1 and 0. -/
def valueNumber? (value : String) : Option Binary64 :=
  (parseNumber value).or <|
    if sameIgnoringAsciiCase value "true" then some (.ofInt 1)
    else if sameIgnoringAsciiCase value "false" then some (.ofInt 0)
    else none

/-! ## Profiles -/

def mainPartProfileField : String := "ASSEMBLY.MAINPART.PROFILE"

/-- The fields of the profiles that an object type names. -/
def profileFields : Option ObjectType → List String
  | some .part => [profileField]
  | some .assembly => [mainPartProfileField]
  | _ => [profileField, mainPartProfileField]

/-- A comparison of all profiles in a scope.  The denial of an operator must hold of each of them,
any other operator of one. -/
def RuleOp.compareProfiles (op : RuleOp) (objectType : Option ObjectType) (first : String)
    (others : List String) : Predicate :=
  let items := (profileFields objectType).map (op.compareTexts · first others)
  if op.isNegated then .allOf items else .anyOf items

/-! ## Clauses -/

namespace ReadyClause

def values (c : ReadyClause) (input : String) : List String :=
  match c.operand, c.op with
  | .literals [literal], .in_ => splitValues literal
  | .literals literals, _ => distinctNonBlank literals
  | .input, .in_ => splitValues input
  | .input, _ => (nonBlank? input).toList

/-- The comparison of the clause's field with values, on a column of the given type. -/
def compareField (c : ReadyClause) (type : ValueType) (first : String) (others : List String) :
    Except FilterNotice Predicate :=
  match (first :: others).mapM valueNumber? with
  | some (x :: xs) =>
      if c.op.isOrdering || (c.op.prefersNumeric && type ≠ .string) then
        .ok (c.op.compareNumbers c.field x xs)
      else .ok (c.op.compareTexts c.field first others)
  | _ =>
      if c.op.isOrdering then .error (.notNumeric c.field (first :: others))
      else .ok (c.op.compareTexts c.field first others)

def condition (c : ReadyClause) (type : ValueType) (input : String) :
    Except FilterNotice Predicate :=
  match c.values input with
  | [] => .error (.noUsableValue c.field)
  | first :: others =>
      match c.scope with
      | .field => c.compareField type first others
      | .profiles objectType =>
          if c.op.isOrdering then .error (.orderingInScope c.field c.op)
          else .ok (c.op.compareProfiles objectType first others)

end ReadyClause

/-! ## Filters -/

namespace Filter

/-- The condition of a filter that no rule describes: its target equals one of its values.  A target
that the query language does not know is taken for one of its fields. -/
def targetCondition (f : Filter) : Except FilterNotice (Option Predicate) :=
  match f.targetType with
  | none => .error (.targetTypeMissing f.targetAttr)
  | some type =>
      let target := trim f.targetAttr
      match splitValues f.value with
      | [] => .ok none
      | first :: others =>
          let field := (templateField? type target).getD target
          .ok (some (RuleOp.in_.compareTexts field first others))

/-- The condition of a filter: none when it asks for nothing. -/
def condition (f : Filter) : Except FilterNotice (Option Predicate) :=
  if Text.blank f.targetAttr then .ok none
  else if f.rule.isSome then
    match f.compile with
    | .error reason => .error (.clause reason)
    | .ok none => .ok none
    | .ok (some c) => some <$> c.condition f.valueType f.value
  else
    match f.legacy with
    | .clause c => some <$> c.condition f.valueType f.value
    | .noClause => .ok none
    | .notRecognized => f.targetCondition

def condition? (f : Filter) : Option Predicate :=
  match f.condition with
  | .ok p => p
  | .error _ => none

/-- Why a filter has no condition, if it should have one. -/
def notice? (f : Filter) : Option FilterNotice :=
  match f.condition with
  | .ok _ => none
  | .error notice => some notice

end Filter

end PhaseTable
