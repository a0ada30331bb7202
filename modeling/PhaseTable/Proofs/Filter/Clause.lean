/-
# PhaseTable.Proofs.Filter.Clause -- what can become of a filter's clause

The branch that a value takes is one that its type takes (`InputClass.fits_of_branch?`), so
a rule that fits the type of a filter has no branch that the filter passes over.  The
clause of the branch is ready unless its operator is unknown, no field is left or its
literals are all blank (`Clause.ready_eq_error`); a ready clause of a rule always has the
scope of its field.

The clauses that predate rules need no such care: those about profiles never order
(`Filter.scope_of_legacy`), and the old targets are recognized in every spelling that a
checked configuration keeps (`Filter.legacy_of_isLegacyTarget`).
-/
import PhaseTable.Filter.Clause
import PhaseTable.Proofs.Text.Trimming

namespace PhaseTable

set_option autoImplicit false

open Text

/-- A result that is only mapped fails as it failed before. -/
theorem eq_error_of_map {ε α β : Type} {f : α → β} {result : Except ε α} {reason : ε}
    (failed : f <$> result = .error reason) : result = .error reason := by
  cases result with
  | ok value => cases failed
  | error other => exact congrArg Except.error (Except.error.inj failed)

/-! ## Branches -/

namespace InputClass

/-- The branch that a class of values takes. -/
def branch? : InputClass → Option Branch
  | .truthy => some .onTrue
  | .falsy => some .onFalse
  | .hasValue => some .onValue
  | .empty => none

/-- Values of a type take branches that the type takes. -/
theorem fits_of_branch? {type : ValueType} {value : String} {branch : Branch}
    (taken : (of type value).branch? = some branch) : branch.fits type = true := by
  unfold of at taken
  by_cases boolean : type = .boolean
  · rw [if_pos boolean] at taken
    by_cases truthy : isTruthy value = true
    · rw [if_pos truthy] at taken
      cases taken
      simp [Branch.fits, boolean]
    · rw [if_neg truthy] at taken
      cases taken
      simp [Branch.fits, boolean]
  · rw [if_neg boolean] at taken
    by_cases empty : Text.blank value = true
    · rw [if_pos empty] at taken
      cases taken
    · rw [if_neg empty] at taken
      cases taken
      simp [Branch.fits, boolean]

end InputClass

theorem Rule.clauseFor_eq (r : Rule) (class_ : InputClass) :
    r.clauseFor class_ = class_.branch?.bind r.branch := by
  cases class_ <;> rfl

/-! ## Clauses of rules -/

namespace Clause

variable {c : Clause} {targetAttr : String}

theorem ready_eq_error {reason : ClauseError} (failed : c.ready targetAttr = .error reason) :
    (RuleOp.parse c.op = none ∧ reason = .unsupportedOp c.op targetAttr) ∨
      (nonBlank? targetAttr = none ∧ reason = .missingField targetAttr) ∨
      ∃ field, reason = .emptyLiteral field := by
  unfold ready at failed
  split at failed
  · next unknown =>
    cases failed
    exact .inl ⟨unknown, rfl⟩
  · split at failed
    · next noField =>
      cases failed
      exact .inr (.inl ⟨(Option.or_eq_none_iff.mp noField).2, rfl⟩)
    · next field _ =>
      split at failed
      · cases failed
      · split at failed
        · cases failed
          exact .inr (.inr ⟨field, rfl⟩)
        · cases failed

/-- The field of a clause for a target that is not blank: its own, or else the target. -/
def fieldFor (c : Clause) (targetAttr : String) : String :=
  (nonBlank? c.field).getD (trim targetAttr)

/-- The clause is ready for a target, with what it compares with. -/
theorem ready_of_targeted {op : RuleOp} (named : RuleOp.parse c.op = some op)
    (targeted : Text.blank targetAttr = false) :
    c.ready targetAttr =
      if c.value = .null then .ok ⟨c.fieldFor targetAttr, op, .input, .field⟩
      else if c.value.literals = [] then .error (.emptyLiteral (c.fieldFor targetAttr))
      else .ok ⟨c.fieldFor targetAttr, op, .literals c.value.literals, .field⟩ := by
  have field : (nonBlank? c.field).or (nonBlank? targetAttr) = some (c.fieldFor targetAttr) := by
    rw [nonBlank?_of_not_blank targeted, fieldFor]
    cases nonBlank? c.field <;> rfl
  simp only [ready, named, field]
  cases c.value.literals with
  | nil => rfl
  | cons => rfl

theorem scope_of_ready {result : ReadyClause} (made : c.ready targetAttr = .ok result) :
    result.scope = .field := by
  unfold ready at made
  split at made
  · cases made
  · split at made
    · cases made
    · split at made
      · cases made
        rfl
      · split at made
        · cases made
        · cases made
          rfl

end Clause

namespace Filter

variable {f : Filter}

/-- The clause of a filter comes from the branch of its rule that its value takes. -/
theorem compile_cases (f : Filter) :
    f.compile = .ok none ∨
      ∃ r branch clause, f.rule = some r ∧
        (InputClass.of f.valueType f.value).branch? = some branch ∧
        r.branch branch = some clause ∧ f.compile = some <$> clause.ready f.targetAttr := by
  cases rule : f.rule with
  | none => exact .inl (by simp [compile, rule])
  | some r =>
      cases taken : (InputClass.of f.valueType f.value).branch? with
      | none => exact .inl (by simp [compile, rule, Rule.clauseFor_eq, taken])
      | some branch =>
          cases found : r.branch branch with
          | none => exact .inl (by simp [compile, rule, Rule.clauseFor_eq, taken, found])
          | some clause =>
              refine .inr ⟨r, branch, clause, rfl, rfl, found, ?_⟩
              simp [compile, rule, Rule.clauseFor_eq, taken, found]

theorem scope_of_compile {c : ReadyClause} (made : f.compile = .ok (some c)) :
    c.scope = .field := by
  rcases f.compile_cases with nothing | ⟨-, -, clause, -, -, -, same⟩
  · rw [nothing] at made
    cases made
  · rw [same] at made
    cases result : clause.ready f.targetAttr with
    | error reason => simp [result] at made
    | ok ready =>
        rw [result] at made
        cases made
        exact Clause.scope_of_ready result

/-! ## Filters that predate rules -/

/-- A clause about profiles has no operator that orders. -/
theorem scope_of_legacy {c : ReadyClause} (found : f.legacy = .clause c) :
    c.scope = .field ∨ c.op.isOrdering = false := by
  unfold legacy at found
  split at found
  · cases found
  · split at found
    · cases found
      exact .inl rfl
    · split at found
      · split at found
        · cases found
          exact .inl rfl
        · cases found
      · split at found
        · split at found
          · cases found
            exact .inr rfl
          · cases found
        · cases found

/-- The targets that need no kind of object are among those that predate rules. -/
theorem legacy_of_isLegacyTarget {target : String} (found : nonBlank? f.targetAttr = some target)
    (old : isLegacyTarget target = true) : f.legacy ≠ .notRecognized := by
  rw [isLegacyTarget, Bool.or_eq_true] at old
  simp only [legacy, found]
  split
  · exact Legacy.noConfusion
  · by_cases existing : sameIgnoringAsciiCase target excludeExisting = true
    · rw [if_pos existing]
      split <;> exact Legacy.noConfusion
    · rw [if_neg existing, if_pos (old.resolve_right existing)]
      split <;> exact Legacy.noConfusion

end Filter

end PhaseTable
