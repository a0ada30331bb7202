/-
# PhaseTable.Selection -- what is selected, phase by phase

A selection is a list of criteria, each for one phase with the filters that apply to
it.  `collectSelection` reads it off the rows of the table: the first selected row of a
phase counts, and every editable column with a target adds a filter if its cell holds
a value of the column's type.

`normalizeSelection` makes one criterion of each phase, ascending.  Filters without a
target or value and filters that repeat an earlier one are left out; phase numbers
below 1 are refused with a notice.
-/
import PhaseTable.Cell
import PhaseTable.Filter.Clause

namespace PhaseTable

set_option autoImplicit false

open Text

/-- The filters that apply to one phase. -/
structure Criteria where
  phase : Int32
  filters : List Filter
deriving DecidableEq

/-- A row of the table as the user left it. -/
structure EditedRow where
  selected : Bool
  phase : Option Int32
  values : OrderedMap String Cell
deriving DecidableEq

/-! ## Collecting -/

namespace Column

def selects (c : Column) : Bool :=
  c.editable && !Text.blank c.targetAttr

/-- The value that the cell of a Boolean column gives a filter.  False is a value only where the
column does something with it. -/
def boolValue? (c : Column) (cell : Cell) : Option String :=
  let onFalse := (c.rule.bind (·.onFalse)).isSome
  match cell with
  | .boolean true => some "true"
  | .boolean false => if c.isPositiveNumber || onFalse then some "false" else none
  | .string s =>
      let word := trim s
      let isFalse := sameIgnoringAsciiCase word "false"
      if isTruthy word then some "true"
      else if c.isPositiveNumber && (isFalse || word = "0") then some "false"
      else if onFalse && isFalse then some "false"
      else none
  | _ => none

def filterValue? (c : Column) (cell : Cell) : Option String :=
  match c.valueType, cell with
  | .boolean, cell => c.boolValue? cell
  | .integer, .boolean _ => none
  | .number, .boolean _ => none
  | .integer, cell =>
      match cell.convert .integer with
      | .integer i => some (intText i.toInt)
      | _ => none
  | .number, cell =>
      match cell.convert .number with
      | .number x => some (formatNumber x)
      | _ => none
  | .string, .string s => nonBlank? s
  | .string, _ => none

def filter? (c : Column) (row : EditedRow) : Option Filter :=
  if c.selects then
    (row.values.lookup c.key).bind fun cell => (c.filterValue? cell).map (.ofColumn c)
  else none

end Column

/-- The selected rows that have a phase, each phase once. -/
def selectedRows (rows : List EditedRow) : List (Int32 × EditedRow) :=
  distinctBy (·.1) <| rows.filterMap fun row =>
    if row.selected then row.phase.map (·, row) else none

/-- The selection that rows make in a table with the given columns. -/
def collectSelection (rows : List EditedRow) (columns : List Column) : List Criteria :=
  (selectedRows rows).map fun (phase, row) => ⟨phase, columns.filterMap (·.filter? row)⟩

/-! ## Normalizing -/

def selectionPhases (selection : List Criteria) : List Int32 :=
  OrderedMap.keysOf (selection.map Criteria.phase)

/-- All filters for a phase, in the order of the selection. -/
def filtersOf (selection : List Criteria) (phase : Int32) : List Filter :=
  (selection.filter (·.phase = phase)).flatMap Criteria.filters

/-- The filters that count: usable, and none that repeats an earlier one. -/
def countingFilters (filters : List Filter) : List Filter :=
  distinctBy Filter.signature (filters.filter Filter.isUsable)

/-- The phases of a selection that are no phase numbers, ascending. -/
def invalidPhases (selection : List Criteria) : List Int32 :=
  (selectionPhases selection).filter (· ≤ 0)

/-- One criterion for each phase of a selection, ascending. -/
def normalizeSelection (selection : List Criteria) : List Criteria :=
  ((selectionPhases selection).filter (0 < ·)).map fun phase =>
    ⟨phase, countingFilters (filtersOf selection phase)⟩

/-! ## JSON form -/

namespace Criteria

def toJson (c : Criteria) : Json :=
  .obj [("attributeFilters", .arr (c.filters.map Filter.toJson)),
    ("phaseNumber", .int c.phase.toInt)]

def shape (origin : Origin) : Shape Criteria where
  name := "SelectionCriteria"
  keys := ["phaseNumber", "attributeFilters"]
  required := ["phaseNumber"]
  start := ⟨0, []⟩
  set c key d :=
    match key with
    | "phaseNumber" => do return { c with phase := ← Decode.int32 d }
    | _ => do return { c with filters := ← Decode.list (Filter.decode origin) d }

end Criteria

def decodeSelection (origin : Origin) : Document → Decoded (List Criteria) :=
  Decode.list ((Criteria.shape origin).decode origin)

end PhaseTable
