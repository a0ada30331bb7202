/-
# PhaseTable.Query -- a selection as one condition

The query for a selection has one group for each of its phases, ascending; a group asks
for the number of its phase and for what each filter of the phase asks for.  A phase
whose filters all fail still asks for its number.

Phases that are no phase numbers and filters that fail are left out, each with a
notice; the notices on phases come first.
-/
import PhaseTable.Filter.Condition
import PhaseTable.Selection

namespace PhaseTable

set_option autoImplicit false

/-- What is left out of a query. -/
inductive QueryNotice where
  | invalidPhase (phase : Int32)
  | filter (phase : Int32) (notice : FilterNotice)
deriving DecidableEq

def phaseWords (phase : Int32) : String :=
  "Phase " ++ intText phase.toInt ++ ": "

def QueryNotice.message : QueryNotice → String
  | .invalidPhase phase => phaseWords phase ++ "invalid phase number, criteria ignored."
  | .filter phase notice => phaseWords phase ++ notice.message

namespace Criteria

def phaseTest (phase : Int32) : Predicate :=
  .compareNumber .phaseNumber .eq (.ofInt phase.toInt)

def group (c : Criteria) : Predicate :=
  .and (phaseTest c.phase :: c.filters.filterMap Filter.condition?)

def notices (c : Criteria) : List QueryNotice :=
  c.filters.filterMap fun f => f.notice?.map (.filter c.phase)

end Criteria

/-- The notices on the phases of a selection that are no phase numbers. -/
def invalidPhaseNotices (selection : List Criteria) : List QueryNotice :=
  (invalidPhases selection).map .invalidPhase

/-- What applying a query does to the view of the model. -/
inductive ApplyOutcome where
  /-- Phases are selected. -/
  | applied
  /-- Nothing is selected, and the view shows everything. -/
  | cleared
  /-- Something is selected, but no phase. -/
  | noValidCriteria
deriving DecidableEq

def ApplyOutcome.name : ApplyOutcome → String
  | .applied => "Applied"
  | .cleared => "Cleared"
  | .noValidCriteria => "NoValidCriteria"

/-- What applying a predicate does that was made for a selection. -/
def ApplyOutcome.of (selection : List Criteria) (predicate : Predicate) : ApplyOutcome :=
  if selection.isEmpty then .cleared
  else if predicate.children.isEmpty then .noValidCriteria
  else .applied

structure Query where
  predicate : Predicate
  notices : List QueryNotice
deriving DecidableEq

namespace Query

/-- The query for a selection. -/
def ofSelection (selection : List Criteria) : Query :=
  let phases := normalizeSelection selection
  { predicate := .or (phases.map Criteria.group)
    notices := invalidPhaseNotices selection ++ phases.flatMap Criteria.notices }

/-- The number of conditions in the groups, those on phases not counted. -/
def conditionCount (q : Query) : Nat :=
  (q.predicate.children.flatMap fun group => group.children.tail).length

end Query

end PhaseTable
