/-
# PhaseTable.Query.Building -- a selection normalized and its query built, step by step

`Query.ofSelection` says what the query for a selection is.  Here it is built in one pass
over the filters, with one list of messages that every step may add to.  A clause hands its
values over as a list, and a comparison with one value reads the first place of the list;
a place that a list does not have breaks the building off (`Building.first`).

`normalizeSelection` says what a normal selection is, and `invalidPhaseNotices` what is told about
the phases that it leaves out.  Here both come from one pass: the filters are gathered under their
phases, and then each group, ascending, is kept with the filters that count or refused with a
message.
-/
import PhaseTable.Query

namespace PhaseTable

set_option autoImplicit false

/-- A step of building a query.  It goes on from the messages so far, and it may break off. -/
abbrev Building (α : Type) := StateT (List String) Option α

namespace Building

def say (message : String) : Building Unit :=
  modify (· ++ [message])

/-- The value at the first place of a list. -/
def first {α : Type} (values : List α) : Building α :=
  match values[0]? with
  | some value => return value
  | none => failure

/-- Adds the notice on a filter of a phase, which then has no condition. -/
def refuse (phase : Int32) (notice : FilterNotice) : Building (Option Predicate) := do
  say (QueryNotice.filter phase notice).message
  return none

end Building

/-! ## Comparisons -/

namespace RuleOp

/-- A comparison with the first of some values, or with any of them for a list. -/
def build {α : Type} (op : RuleOp) (leaf : α → Predicate) (values : List α) :
    Building Predicate := do
  if op = .in_ then return .anyOf (values.map leaf)
  return leaf (← Building.first values)

def buildNumbers (op : RuleOp) (field : String) (numbers : List Binary64) : Building Predicate :=
  op.build (.compareNumber (.custom field) op.numberOp) numbers

def buildTexts (op : RuleOp) (field : String) (values : List String) : Building Predicate :=
  op.build (.compareText (.custom field) op.textOp) values

def buildProfiles (op : RuleOp) (objectType : Option ObjectType) (values : List String) :
    Building Predicate := do
  let items ← (profileFields objectType).mapM (op.buildTexts · values)
  return if op.isNegated then .allOf items else .anyOf items

end RuleOp

/-- The numbers that values are, if there are values and each of them is a number. -/
def valueNumbers? (values : List String) : Option (List Binary64) :=
  (values.mapM valueNumber?).filter (!·.isEmpty)

/-! ## Filters -/

namespace ReadyClause

/-- Builds the comparison of the clause's field with values, on a column of the given type. -/
def buildField (c : ReadyClause) (type : ValueType) (phase : Int32) (values : List String) :
    Building (Option Predicate) := do
  let numbers? := valueNumbers? values
  if c.op.isOrdering then
    match numbers? with
    | none => Building.refuse phase (.notNumeric c.field values)
    | some numbers => some <$> c.op.buildNumbers c.field numbers
  else
    match numbers? with
    | some numbers =>
        if c.op.prefersNumeric && type ≠ .string then some <$> c.op.buildNumbers c.field numbers
        else some <$> c.op.buildTexts c.field values
    | none => some <$> c.op.buildTexts c.field values

def build (c : ReadyClause) (type : ValueType) (input : String) (phase : Int32) :
    Building (Option Predicate) := do
  let values := c.values input
  if values.isEmpty then Building.refuse phase (.noUsableValue c.field)
  else
    match c.scope with
    | .field => c.buildField type phase values
    | .profiles objectType =>
        if c.op.isOrdering then Building.refuse phase (.orderingInScope c.field c.op)
        else some <$> c.op.buildProfiles objectType values

end ReadyClause

namespace Filter

/-- Builds the condition of a filter that no rule describes. -/
def buildTarget (f : Filter) (phase : Int32) : Building (Option Predicate) := do
  match f.targetType with
  | none => Building.refuse phase (.targetTypeMissing f.targetAttr)
  | some type =>
      let target := Text.trim f.targetAttr
      let field := (templateField? type target).getD target
      let values := Text.splitValues f.value
      if values.isEmpty then return none
      some <$> RuleOp.in_.buildTexts field values

/-- Builds the condition of a filter of a phase: none when it asks for nothing or is refused. -/
def build (f : Filter) (phase : Int32) : Building (Option Predicate) := do
  if Text.blank f.targetAttr then return none
  if f.rule.isSome then
    match f.compile with
    | .ok (some c) => c.build f.valueType f.value phase
    | .ok none => return none
    | .error reason => Building.refuse phase (.clause reason)
  else
    match f.legacy with
    | .clause c => c.build f.valueType f.value phase
    | .noClause => return none
    | .notRecognized => f.buildTarget phase

end Filter

/-! ## Selections -/

def groupFilters (selection : List Criteria) : OrderedMap Int32 (List Filter) :=
  OrderedMap.gather Criteria.phase Criteria.filters selection

/-- The criteria that a group of filters becomes; a phase that is no phase number is refused. -/
def normalizeGroup (phase : Int32) (filters : List Filter) : Building (Option Criteria) := do
  if phase ≤ 0 then
    Building.say (QueryNotice.invalidPhase phase).message
    return none
  return some ⟨phase, countingFilters filters⟩

def normalize (selection : List Criteria) : Building (List Criteria) := do
  let groups ← (groupFilters selection).entries.mapM fun group => normalizeGroup group.1 group.2
  return groups.filterMap id

/-! ## Queries -/

def Criteria.build (c : Criteria) : Building Predicate := do
  let conditions ← c.filters.mapM (·.build c.phase)
  return .and (phaseTest c.phase :: conditions.filterMap id)

/-- Builds the query for a selection, of which refused phases are told first. -/
def Query.build (selection : List Criteria) : Building Predicate := do
  (invalidPhaseNotices selection).forM fun notice => Building.say notice.message
  let groups ← (normalizeSelection selection).mapM Criteria.build
  return .or groups

end PhaseTable
