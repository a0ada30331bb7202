/-
# PhaseTable.Proofs.Query.CollectedFalse -- what becomes of a false that is collected

False is collected from a Boolean column only where the column does something with it
(`Column.TakesFalse`): its mode asks whether a number is positive, or its rule has a clause for
false.  But a rule takes precedence over a mode when a filter is compiled.  So a false that is
collected for the mode is lost on a rule that has no clause for false, without a condition and
without a message, and it is lost in no other way (`Query.collected_false_settles`).
-/
import PhaseTable.Proofs.Filter.Silence
import PhaseTable.Proofs.Query.CheckedColumns

namespace PhaseTable

set_option autoImplicit false

/-! ## Columns -/

namespace Column

variable {c : Column}

/-- The column does something with false. -/
def TakesFalse (c : Column) : Prop :=
  c.isPositiveNumber = true ∨ (c.rule.bind (·.onFalse)).isSome = true

/-- False is collected from a column that does something with it. -/
theorem takesFalse_of_boolValue? {cell : Cell} (given : c.boolValue? cell = some "false") :
    c.TakesFalse := by
  have other : some "true" ≠ some "false" := by decide
  cases cell with
  | boolean b =>
      cases b with
      | true => exact absurd given other
      | false =>
          simp only [boolValue?] at given
          split at given
          · next takes => exact Bool.or_eq_true_iff.mp takes
          · cases given
  | string s =>
      simp only [boolValue?] at given
      split at given
      · exact absurd given other
      · split at given
        · next takes => exact .inl (Bool.and_eq_true_iff.mp takes).1
        · split at given
          · next takes => exact .inr (Bool.and_eq_true_iff.mp takes).1
          · cases given
  | empty | number x | integer i => cases given

/-- A checked column that asks whether a number is positive says so in one way. -/
theorem WellFormed.booleanMode_eq (wellFormed : c.WellFormed) (editable : c.editable = true)
    (positive : c.isPositiveNumber = true) : c.booleanMode = positiveNumber := by
  rcases (wellFormed.editable editable).booleanMode with noMode | ⟨mode, -⟩
  · have none_ : c.booleanMode = "" := noMode
    have off : isPositiveNumberMode "" = false := by decide
    rw [isPositiveNumber, none_, off] at positive
    cases positive
  · exact mode

/-! ## Filters -/

/-- A false that a checked column does something with asks for nothing only if it is collected for
the mode, and the rule has no clause for it. -/
theorem asksNothing_false_iff (wellFormed : c.WellFormed) (selects : c.selects = true)
    (boolean : c.valueType = .boolean) (takes : c.TakesFalse) :
    (Filter.ofColumn c "false").AsksNothing ↔
      c.booleanMode = positiveNumber ∧ ∃ r, c.rule = some r ∧ r.onFalse = none := by
  have falsy : isTruthy "false" = false := by decide
  rw [Column.selects, Bool.and_eq_true, Bool.not_eq_true'] at selects
  obtain ⟨editable, named⟩ := selects
  have targeted : Text.blank (Filter.ofColumn c "false").targetAttr = false := named
  cases ruled : c.rule with
  | none =>
      have positive : c.isPositiveNumber = true := by simpa [TakesFalse, ruled] using takes
      have asks : (Filter.ofColumn c "false").AsksPositive := ⟨boolean, positive⟩
      rw [Filter.asksNothing_of_unruled_iff targeted ruled]
      refine iff_of_false (fun nothing => nothing.1 asks) ?_
      rintro ⟨-, r, none_, -⟩
      cases none_
  | some r =>
      have lacking : r.LacksBranch .boolean "false" ↔ r.onFalse = none := by
        simp only [Rule.LacksBranch, if_true, falsy, Bool.false_eq_true, if_false]
      have typed : (Filter.ofColumn c "false").valueType = .boolean := boolean
      rw [Filter.asksNothing_of_ruled_iff targeted ruled, typed]
      refine lacking.trans ⟨fun absent => ⟨?_, r, rfl, absent⟩, ?_⟩
      · have positive : c.isPositiveNumber = true := by
          simpa [TakesFalse, ruled, absent] using takes
        exact wellFormed.booleanMode_eq editable positive
      · rintro ⟨-, s, same, absent⟩
        rwa [Option.some.inj same]

end Column

namespace Query

/-- **A false that is collected is compiled or told of, unless it is lost on a rule.**  Over the
columns of a checked configuration, the filter of a Boolean column with the value false is built to
a condition or with a message, whatever the rows hold.  The only exception are columns that ask
whether a number is positive and have a rule without a clause for false; of these it is always built
to nothing. -/
theorem collected_false_settles {raw : Option Config} {rows : List EditedRow}
    {criteria : Criteria}
    (member : criteria ∈ collectSelection rows (Config.check raw).config.columns) {f : Filter}
    (filter : f ∈ criteria.filters) (boolean : f.valueType = .boolean) (false_ : f.value = "false")
    (phase : Int32) (said : List String) :
    ∃ made added, (f.build phase).run said = some (made, said ++ added) ∧
      (made = none ∧ added = [] ↔
        f.booleanMode = positiveNumber ∧ ∃ r, f.rule = some r ∧ r.onFalse = none) := by
  obtain ⟨c, listed, selects, cell, value, given, rfl⟩ :=
    ofColumn_of_collectSelection member filter
  obtain rfl : value = "false" := false_
  have typed : c.valueType = .boolean := boolean
  have takes : c.TakesFalse := by
    simp only [Column.filterValue?, typed] at given
    exact Column.takesFalse_of_boolValue? given
  have wellFormed := (Config.wellFormed_check raw).columns c listed
  obtain ⟨added, built, -, -, silent⟩ := (Filter.ofColumn c "false").build_settles phase said
  exact ⟨_, added, built,
    silent.trans (Column.asksNothing_false_iff wellFormed selects typed takes)⟩

/-- A column on a coating, with the mode of positive numbers and a rule. -/
def coating (key : String) (rule : Rule) (order : Int32) : Column :=
  { Column.blank with
    key, label := key, order
    valueType := .boolean
    editable := true
    targetType := some .part
    targetAttr := key
    booleanMode := positiveNumber
    rule := some rule }

/-- A coating of which false means zero. -/
def zinc : Column :=
  coating "ZINC" ⟨some ⟨"", "gt", .int 0⟩, some ⟨"", "eq", .int 0⟩, none⟩ 0

/-- A coating of which the rule says nothing about false. -/
def paint : Column :=
  coating "PAINT" ⟨some ⟨"", "gt", .int 0⟩, none, none⟩ 1

def coatings : Config :=
  ⟨2, "number", ["select"], [zinc, paint]⟩

def uncoated : List EditedRow :=
  [⟨true, some 1, .ofList [("ZINC", .boolean false), ("PAINT", .string "0")]⟩]

theorem columns_check_coatings :
    (Config.check (some coatings)).config.columns = coatings.columns := by
  have wellFormed : coatings.WellFormed := by decide
  rw [Config.check_of_wellFormed wellFormed]

theorem collected_false_settles_zinc :
    (∃ criteria ∈ collectSelection uncoated (Config.check (some coatings)).config.columns,
      Filter.ofColumn zinc "false" ∈ criteria.filters) ∧
    (Filter.ofColumn zinc "false").valueType = .boolean ∧
    (Filter.ofColumn zinc "false").value = "false" ∧
    ∃ made added, ((Filter.ofColumn zinc "false").build 1).run [] = some (made, [] ++ added) ∧
      ¬ (made = none ∧ added = []) := by
  have collected : ∃ criteria ∈ collectSelection uncoated
      (Config.check (some coatings)).config.columns,
      Filter.ofColumn zinc "false" ∈ criteria.filters := by
    rw [columns_check_coatings]
    decide
  refine ⟨collected, rfl, rfl, ?_⟩
  obtain ⟨criteria, member, filter⟩ := collected
  obtain ⟨made, added, built, silent⟩ := collected_false_settles member filter rfl rfl 1 []
  refine ⟨made, added, built, fun nothing => ?_⟩
  obtain ⟨-, r, ruled, absent⟩ := silent.mp nothing
  cases ruled
  cases absent

/-- A false that is collected for its mode, and is built to nothing because of its rule. -/
theorem collected_false_lost :
    ∃ criteria ∈ collectSelection uncoated (Config.check (some coatings)).config.columns,
      ∃ f ∈ criteria.filters, f.valueType = .boolean ∧ f.value = "false" ∧
        (f.build criteria.phase).run [] = some (none, []) := by
  rw [columns_check_coatings]
  have collected : ∃ criteria ∈ collectSelection uncoated coatings.columns,
      criteria.phase = 1 ∧ Filter.ofColumn paint "false" ∈ criteria.filters := by decide
  obtain ⟨criteria, member, phase, filter⟩ := collected
  refine ⟨criteria, member, _, filter, rfl, rfl, ?_⟩
  rw [phase]
  decide

end Query

end PhaseTable
