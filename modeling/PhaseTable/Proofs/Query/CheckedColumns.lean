/-
# PhaseTable.Proofs.Query.CheckedColumns -- queries over the columns of a checked configuration

A filter that a well-formed column makes is well formed (`Filter.wellFormed_ofColumn`), so
over the columns of a checked configuration every filter fails for its literals or its
value only.  The notices of a query are about phase numbers or about filters of the
selection that fail (`Query.mem_notices`).  Together, no notice is about how a column is
configured (`Query.notices_of_checkedColumns`).
-/
import PhaseTable.Proofs.Config.FixedPoint
import PhaseTable.Proofs.Filter.Failure
import PhaseTable.Proofs.Selection
import PhaseTable.Query

namespace PhaseTable

set_option autoImplicit false

/-! ## Filters -/

/-- A well-formed column that adds to the selection makes well-formed filters. -/
theorem Filter.wellFormed_ofColumn {c : Column} (wellFormed : c.WellFormed)
    (selects : c.selects = true) (value : String) : (Filter.ofColumn c value).WellFormed := by
  rw [Column.selects, Bool.and_eq_true, Bool.not_eq_true'] at selects
  obtain ⟨editable, text⟩ := selects
  have takes := wellFormed.editable editable
  refine ⟨fun empty => ?_, takes.target, fun r found => (takes.rule r found).2⟩
  rw [show c.targetAttr = "" from empty, Text.blank_empty] at text
  cases text

namespace Query

/-- All filters that are collected over checked columns are well formed. -/
theorem wellFormed_of_collected {raw : Option Config} {rows : List EditedRow} {criteria : Criteria}
    (member : criteria ∈ collectSelection rows (Config.check raw).config.columns) {f : Filter}
    (filter : f ∈ criteria.filters) : f.WellFormed := by
  obtain ⟨c, listed, selects, -, value, -, rfl⟩ := ofColumn_of_collectSelection member filter
  exact Filter.wellFormed_ofColumn ((Config.wellFormed_check raw).columns c listed) selects value

/-! ## Notices -/

/-- A notice is about a phase number or about a filter of the selection that fails. -/
theorem mem_notices {selection : List Criteria} {notice : QueryNotice}
    (member : notice ∈ (ofSelection selection).notices) :
    (∃ phase, notice = .invalidPhase phase) ∨
      ∃ criteria ∈ selection, ∃ f ∈ criteria.filters, ∃ reason,
        f.condition = .error reason ∧ notice = .filter criteria.phase reason := by
  rcases List.mem_append.mp member with invalid | failed
  · obtain ⟨phase, -, rfl⟩ := List.mem_map.mp invalid
    exact .inl ⟨phase, rfl⟩
  · obtain ⟨criteria, normalized, listed⟩ := List.mem_flatMap.mp failed
    obtain ⟨f, filter, said⟩ := List.mem_filterMap.mp listed
    obtain ⟨reason, refused, rfl⟩ := Option.map_eq_some_iff.mp said
    obtain ⟨-, collected, chosen, phase, filter⟩ := filters_of_normalizeSelection normalized filter
    refine .inr ⟨collected, chosen, f, filter, reason, ?_, by rw [phase]⟩
    unfold Filter.notice? at refused
    split at refused
    · cases refused
    · next failed => rw [failed, Option.some.inj refused]

/-- **No notice on a query is about how a checked column is configured.**  Whatever was written and
whatever the rows hold, what is left out of the query is left out for the number of its phase, for
blank literals, or for a value that cannot be compared with; and no filter comes to an unknown
operator, a missing field, a missing kind of object or an order of profiles. -/
theorem notices_of_checkedColumns (raw : Option Config) (rows : List EditedRow) :
    (∀ notice ∈ (ofSelection (collectSelection rows (Config.check raw).config.columns)).notices,
      (∃ phase, notice = .invalidPhase phase) ∨
        (∃ phase field, notice = .filter phase (.clause (.emptyLiteral field))) ∨
        (∃ phase field, notice = .filter phase (.noUsableValue field)) ∨
        ∃ phase field values, notice = .filter phase (.notNumeric field values)) ∧
    ∀ criteria ∈ collectSelection rows (Config.check raw).config.columns, ∀ f ∈ criteria.filters,
      (∀ op target, f.compile ≠ .error (.unsupportedOp op target)) ∧
        (∀ target, f.compile ≠ .error (.missingField target)) ∧
        (∀ target, f.condition ≠ .error (.targetTypeMissing target)) ∧
        ∀ field op, f.condition ≠ .error (.orderingInScope field op) := by
  constructor
  · intro notice member
    rcases mem_notices member with invalid | ⟨criteria, collected, f, filter, reason, failed, rfl⟩
    · exact .inl invalid
    · have onValue := (wellFormed_of_collected collected filter).onValue_of_condition failed
      cases onValue with
      | emptyLiteral field => exact .inr (.inl ⟨_, field, rfl⟩)
      | noUsableValue field => exact .inr (.inr (.inl ⟨_, field, rfl⟩))
      | notNumeric field values => exact .inr (.inr (.inr ⟨_, field, values, rfl⟩))
  · intro criteria collected f filter
    have wellFormed := wellFormed_of_collected collected filter
    refine ⟨fun op target failed => ?_, fun target failed => ?_, fun target failed => ?_,
      fun field op failed => ?_⟩
    · obtain ⟨_, same⟩ := wellFormed.compile_eq_error failed
      cases same
    · obtain ⟨_, same⟩ := wellFormed.compile_eq_error failed
      cases same
    · cases wellFormed.onValue_of_condition failed
    · cases wellFormed.onValue_of_condition failed

/-- A checked column of texts with a clause for any input. -/
def task (key : String) (clause : Clause) (order : Int32) : Column :=
  { Column.blank with
    key, label := key, order
    editable := true
    targetType := some .part
    targetAttr := key
    rule := some ⟨none, none, some clause⟩ }

/-- A checked configuration with a blank literal and two clauses that compare with the input. -/
def tasks : Config where
  version := 2
  phaseKey := "number"
  actions := ["select"]
  columns := [
    task "note" ⟨"", "eq", .str " "⟩ 0,
    task "crew" ⟨"", "in", .null⟩ 1,
    task "height" ⟨"PT_HEIGHT", "gt", .null⟩ 2]

/-- Two selected rows: one with no phase number, and one with a value for each column. -/
def taskRows : List EditedRow :=
  [⟨true, some (-1), ∅⟩,
    ⟨true, some 7, .ofList [("note", .string "dry"), ("crew", .string ";"),
      ("height", .string "tall")]⟩]

def tall : Filter :=
  .ofColumn (task "height" ⟨"PT_HEIGHT", "gt", .null⟩ 2) "tall"

theorem notices_tasks :
    (ofSelection (collectSelection taskRows (Config.check (some tasks)).config.columns)).notices =
      [.invalidPhase (-1), .filter 7 (.clause (.emptyLiteral "note")),
        .filter 7 (.noUsableValue "crew"), .filter 7 (.notNumeric "PT_HEIGHT" ["tall"])] ∧
    (∃ phase field values, QueryNotice.filter 7 (.notNumeric "PT_HEIGHT" ["tall"]) =
      .filter phase (.notNumeric field values)) ∧
    tall.compile ≠ .error (.unsupportedOp "gt" "height") ∧
    tall.condition ≠ .error (.orderingInScope "PT_HEIGHT" .gt) := by
  have wellFormed : tasks.WellFormed := by decide
  have columns : (Config.check (some tasks)).config.columns = tasks.columns := by
    rw [Config.check_of_wellFormed wellFormed]
  have notices : (ofSelection (collectSelection taskRows tasks.columns)).notices =
      [.invalidPhase (-1), .filter 7 (.clause (.emptyLiteral "note")),
        .filter 7 (.noUsableValue "crew"), .filter 7 (.notNumeric "PT_HEIGHT" ["tall"])] := by
    decide
  have collected :
      ∃ criteria ∈ collectSelection taskRows tasks.columns, tall ∈ criteria.filters := by
    decide
  obtain ⟨listed, configured⟩ := notices_of_checkedColumns (some tasks) taskRows
  rw [columns] at listed configured ⊢
  rw [notices] at listed ⊢
  obtain ⟨criteria, member, filter⟩ := collected
  obtain ⟨known, -, -, unordered⟩ := configured criteria member tall filter
  refine ⟨rfl, ?_, known "gt" "height", unordered "PT_HEIGHT" .gt⟩
  rcases listed (.filter 7 (.notNumeric "PT_HEIGHT" ["tall"])) (by decide) with
    ⟨_, same⟩ | ⟨_, _, same⟩ | ⟨_, _, same⟩ | notNumeric
  · cases same
  · cases same
  · cases same
  · exact notNumeric

end Query

end PhaseTable
