/-
# PhaseTable.Proofs.Query.Building -- building a query never breaks off

Building a filter does what its condition says: it leaves the condition, and it adds the
notice to the messages if the filter fails (`Filter.build_eq`).  In particular no step reads
past the end of a list, since a comparison is only reached with values to compare with.
So a whole query is built as `Query.ofSelection` says, with its notices after the messages
that were there (`Query.run_build`).
-/
import Mathlib.Data.List.Basic
import PhaseTable.Query.Building

namespace PhaseTable

set_option autoImplicit false

/-! ## Steps -/

namespace Building

/-- What a result leaves: a condition or none, or else a refusal. -/
def settle (phase : Int32) : Except FilterNotice (Option Predicate) → Building (Option Predicate)
  | .ok condition => pure condition
  | .error notice => refuse phase notice

theorem run_settle_ok (phase : Int32) (p : Predicate) (said : List String) :
    (settle phase (some <$> .ok p)).run said = some (some p, said ++ []) := by
  rw [List.append_nil]
  rfl

theorem run_settle_error (phase : Int32) (notice : FilterNotice) (said : List String) :
    (settle phase (some <$> .error notice)).run said =
      some (none, said ++ [(QueryNotice.filter phase notice).message]) :=
  rfl

theorem first_cons {α : Type} (x : α) (xs : List α) : first (x :: xs) = pure x := rfl

/-- Steps that are taken one after the other each add their messages after those of the others. -/
theorem run_mapM {α β : Type} {step : α → Building β} {result : α → β} {added : α → List String}
    (each : ∀ x said, (step x).run said = some (result x, said ++ added x)) (xs : List α)
    (said : List String) :
    (xs.mapM step).run said = some (xs.map result, said ++ xs.flatMap added) := by
  induction xs generalizing said with
  | nil =>
      rw [List.mapM_nil, List.flatMap_nil, List.append_nil]
      rfl
  | cons x xs ih =>
      rw [List.mapM_cons, StateT.run_bind, each, Option.bind_eq_bind, Option.bind_some,
        StateT.run_bind, ih, List.flatMap_cons, List.append_assoc]
      rfl

end Building

/-! ## Comparisons -/

namespace RuleOp

theorem build_cons {α : Type} (op : RuleOp) (leaf : α → Predicate) (first : α) (others : List α) :
    op.build leaf (first :: others) = pure (op.compare leaf first others) := by
  rw [build, compare]
  split
  · rfl
  · rw [Building.first_cons, pure_bind]

theorem buildProfiles_cons (op : RuleOp) (objectType : Option ObjectType) (first : String)
    (others : List String) :
    op.buildProfiles objectType (first :: others) =
      pure (op.compareProfiles objectType first others) := by
  have each : (op.buildTexts · (first :: others)) =
      fun field => pure (op.compareTexts field first others) :=
    funext fun field => op.build_cons _ first others
  rw [buildProfiles, each, List.mapM_pure, pure_bind, compareProfiles]

end RuleOp

/-! ## Filters -/

/-- Values that are there are numbers if each of them is one. -/
theorem valueNumbers?_cons (first : String) (others : List String) :
    valueNumbers? (first :: others) = (first :: others).mapM valueNumber? := by
  rw [valueNumbers?]
  cases made : (first :: others).mapM valueNumber? with
  | none => rfl
  | some numbers =>
      rw [List.mapM_cons] at made
      obtain ⟨x, -, made⟩ := Option.bind_eq_some_iff.mp made
      obtain ⟨xs, -, made⟩ := Option.bind_eq_some_iff.mp made
      cases made
      rfl

/-- Values that are there are not numbers, or they are a number or more. -/
theorem mapM_valueNumber?_cases (first : String) (others : List String) :
    (first :: others).mapM valueNumber? = none ∨
      ∃ x xs, (first :: others).mapM valueNumber? = some (x :: xs) := by
  have kept := valueNumbers?_cons first others
  rw [valueNumbers?] at kept
  cases made : (first :: others).mapM valueNumber? with
  | none => exact .inl rfl
  | some numbers =>
      cases numbers with
      | nil =>
          rw [made] at kept
          cases kept
      | cons x xs => exact .inr ⟨x, xs, rfl⟩

namespace ReadyClause

theorem compareField_of_texts (c : ReadyClause) (type : ValueType) {first : String}
    {others : List String} (texts : (first :: others).mapM valueNumber? = none) :
    c.compareField type first others =
      if c.op.isOrdering then .error (.notNumeric c.field (first :: others))
      else .ok (c.op.compareTexts c.field first others) := by
  unfold compareField
  rw [texts]

theorem compareField_of_numbers (c : ReadyClause) (type : ValueType) {first : String}
    {others : List String} {x : Binary64} {xs : List Binary64}
    (numbers : (first :: others).mapM valueNumber? = some (x :: xs)) :
    c.compareField type first others =
      if c.op.isOrdering || (c.op.prefersNumeric && type ≠ .string) then
        .ok (c.op.compareNumbers c.field x xs)
      else .ok (c.op.compareTexts c.field first others) := by
  unfold compareField
  rw [numbers]

theorem buildField_cons (c : ReadyClause) (type : ValueType) (phase : Int32) (first : String)
    (others : List String) :
    c.buildField type phase (first :: others) =
      Building.settle phase (some <$> c.compareField type first others) := by
  have texts : c.op.buildTexts c.field (first :: others) =
      pure (c.op.compareTexts c.field first others) := c.op.build_cons _ first others
  unfold buildField
  rw [valueNumbers?_cons]
  rcases mapM_valueNumber?_cases first others with made | ⟨x, xs, made⟩
  · rw [c.compareField_of_texts type made, made]
    cases c.op.isOrdering with
    | true => rfl
    | false => exact congrArg (some <$> ·) texts
  · have numbers : c.op.buildNumbers c.field (x :: xs) =
        pure (c.op.compareNumbers c.field x xs) := c.op.build_cons _ x xs
    rw [c.compareField_of_numbers type made, made]
    cases c.op.isOrdering with
    | true => exact congrArg (some <$> ·) numbers
    | false =>
        cases c.op.prefersNumeric && decide (type ≠ .string) with
        | true => exact congrArg (some <$> ·) numbers
        | false => exact congrArg (some <$> ·) texts

theorem build_eq (c : ReadyClause) (type : ValueType) (input : String) (phase : Int32) :
    c.build type input phase = Building.settle phase (some <$> c.condition type input) := by
  unfold build condition
  cases c.values input with
  | nil => rfl
  | cons first others =>
      cases c.scope with
      | field => exact c.buildField_cons type phase first others
      | profiles objectType =>
          cases c.op.isOrdering with
          | true => rfl
          | false =>
              exact congrArg (some <$> ·) (c.op.buildProfiles_cons objectType first others)

end ReadyClause

namespace Filter

theorem buildTarget_eq (f : Filter) (phase : Int32) :
    f.buildTarget phase = Building.settle phase f.targetCondition := by
  unfold buildTarget targetCondition
  cases f.targetType with
  | none => rfl
  | some type =>
      cases Text.splitValues f.value with
      | nil => rfl
      | cons first others =>
          exact congrArg (some <$> ·) (RuleOp.in_.build_cons _ first others)

/-- Building a filter does what its condition says. -/
theorem build_eq (f : Filter) (phase : Int32) :
    f.build phase = Building.settle phase f.condition := by
  unfold build condition
  cases Text.blank f.targetAttr with
  | true => rfl
  | false =>
      cases f.rule.isSome with
      | true =>
          cases f.compile with
          | error reason => rfl
          | ok clause? =>
              cases clause? with
              | none => rfl
              | some c => exact c.build_eq f.valueType f.value phase
      | false =>
          cases f.legacy with
          | notRecognized => exact f.buildTarget_eq phase
          | noClause => rfl
          | clause c => exact c.build_eq f.valueType f.value phase

/-- What a filter adds to the messages of its phase. -/
def messages (f : Filter) (phase : Int32) : List String :=
  (f.notice?.map fun notice => (QueryNotice.filter phase notice).message).toList

theorem run_build (f : Filter) (phase : Int32) (said : List String) :
    (f.build phase).run said = some (f.condition?, said ++ f.messages phase) := by
  rw [build_eq, messages, notice?, condition?]
  cases f.condition with
  | ok condition? =>
      show some (condition?, said) = some (condition?, said ++ [])
      rw [List.append_nil]
  | error notice => rfl

end Filter

/-! ## Queries -/

namespace Criteria

theorem message_notices (c : Criteria) :
    c.notices.map QueryNotice.message = c.filters.flatMap (·.messages c.phase) := by
  rw [notices, List.map_filterMap, List.filterMap_eq_flatMap_toList]
  simp only [Option.map_map, Filter.messages, Function.comp_def]

theorem run_build (c : Criteria) (said : List String) :
    c.build.run said = some (c.group, said ++ c.notices.map QueryNotice.message) := by
  have filters := Building.run_mapM (fun f said => f.run_build c.phase said) c.filters said
  rw [build, StateT.run_bind, filters, message_notices, group, Option.bind_eq_bind,
    Option.bind_some, List.filterMap_map]
  rfl

end Criteria

namespace Query

theorem run_tell (notices : List QueryNotice) (said : List String) :
    (notices.forM fun notice => Building.say notice.message).run said =
      some ((), said ++ notices.map QueryNotice.message) := by
  induction notices generalizing said with
  | nil =>
      rw [List.map_nil, List.append_nil]
      rfl
  | cons notice rest ih =>
      refine (ih (said ++ [notice.message])).trans ?_
      rw [List.append_assoc, List.singleton_append, List.map_cons]

/-- **A query is built in one pass, and the building never breaks off.**  What is built is the query
for the selection, and its notices stand after the messages that were there. -/
theorem run_build (selection : List Criteria) (said : List String) :
    (build selection).run said =
      some ((ofSelection selection).predicate,
        said ++ (ofSelection selection).notices.map QueryNotice.message) := by
  have groups := Building.run_mapM Criteria.run_build (normalizeSelection selection)
    (said ++ (invalidPhaseNotices selection).map QueryNotice.message)
  rw [build, StateT.run_bind, run_tell, Option.bind_eq_bind, Option.bind_some, StateT.run_bind,
    groups, ofSelection, List.map_append, List.map_flatMap, ← List.append_assoc]
  rfl

end Query

end PhaseTable
