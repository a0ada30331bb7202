/-
# PhaseTable.Proofs.Filter.Failure -- filters of checked columns fail for their values only

A filter fails because of how its column is configured (an operator that no rule knows, no
field, no kind of object, an order of profiles) or because of what it compares with: blank
literals, no value, a text in place of a number.  `FilterNotice.OnValue` are the latter, and
a filter that is configured as checked columns are (`Filter.WellFormed`) has no others
(`Filter.WellFormed.onValue_of_condition`).

Each way to a condition has its lemma: a rule never fails with an unknown operator or
without a field, a clause that predates rules never orders profiles, and a filter that is
left to equality with its target has a kind of object.
-/
import PhaseTable.Filter.Condition
import PhaseTable.Proofs.Config.WellFormed
import PhaseTable.Proofs.Filter.Clause

namespace PhaseTable

set_option autoImplicit false

open Text

/-- The notices on what a filter compares with. -/
inductive FilterNotice.OnValue : FilterNotice → Prop
  | emptyLiteral (field : String) : OnValue (.clause (.emptyLiteral field))
  | noUsableValue (field : String) : OnValue (.noUsableValue field)
  | notNumeric (field : String) (values : List String) : OnValue (.notNumeric field values)

/-- The filter has the target and the rule of a checked column that adds to the selection. -/
structure Filter.WellFormed (f : Filter) : Prop where
  usable : f.targetAttr ≠ ""
  target : Targets f.targetType f.targetAttr
  rule : ∀ r, f.rule = some r → r.Fits f.valueType

/-! ## Ready clauses -/

namespace ReadyClause

variable {c : ReadyClause} {type : ValueType} {notice : FilterNotice}

theorem onValue_of_compareField {first : String} {others : List String}
    (failed : c.compareField type first others = .error notice) : notice.OnValue := by
  unfold compareField at failed
  split at failed
  · split at failed <;> cases failed
  · split at failed
    · cases failed
      exact .notNumeric _ _
    · cases failed

/-- A clause that orders no profiles fails for its values only. -/
theorem onValue_of_condition {input : String}
    (allowed : c.scope = .field ∨ c.op.isOrdering = false)
    (failed : c.condition type input = .error notice) : notice.OnValue := by
  unfold condition at failed
  split at failed
  · cases failed
    exact .noUsableValue _
  · split at failed
    · exact onValue_of_compareField failed
    · next profiles =>
      rcases allowed with field | unordered
      · rw [field] at profiles
        cases profiles
      · rw [unordered, if_neg Bool.false_ne_true] at failed
        cases failed

end ReadyClause

/-! ## Filters -/

namespace Filter

variable {f : Filter}

/-- The target of a well-formed filter is what it is matched by. -/
theorem WellFormed.trimmed (wellFormed : f.WellFormed) : Trimmed f.targetAttr := by
  rcases wellFormed.target with ⟨-, empty⟩ | ⟨-, old⟩ | ⟨-, trimmed⟩
  · exact absurd empty wellFormed.usable
  · exact trimmed_of_isLegacyTarget old
  · exact trimmed

/-- The rule of a well-formed filter has a known operator and a field for every value. -/
theorem WellFormed.compile_eq_error (wellFormed : f.WellFormed) {reason : ClauseError}
    (failed : f.compile = .error reason) : ∃ field, reason = .emptyLiteral field := by
  rcases f.compile_cases with nothing | ⟨r, branch, clause, rule, -, found, same⟩
  · rw [nothing] at failed
    cases failed
  · obtain ⟨op, named⟩ := ((wellFormed.rule r rule).clauses branch clause found).2.op
    rw [same] at failed
    rcases Clause.ready_eq_error (eq_error_of_map failed) with ⟨unknown, -⟩ | ⟨noField, -⟩ | empty
    · rw [named, RuleOp.parse_name] at unknown
      cases unknown
    · rw [wellFormed.trimmed.nonBlank?] at noField
      cases noField
    · exact empty

/-- A well-formed filter without a rule is an old one or has a kind of object. -/
theorem WellFormed.targetCondition_ne_error (wellFormed : f.WellFormed)
    (unrecognized : f.legacy = .notRecognized) (notice : FilterNotice) :
    f.targetCondition ≠ .error notice := by
  intro failed
  have typed : f.targetType ≠ none := by
    rcases wellFormed.target with ⟨-, empty⟩ | ⟨-, old⟩ | ⟨some_, -⟩
    · exact absurd empty wellFormed.usable
    · exact absurd unrecognized (legacy_of_isLegacyTarget wellFormed.trimmed.nonBlank? old)
    · rcases some_ with part | assembly
      · simp [part]
      · simp [assembly]
  unfold targetCondition at failed
  split at failed
  · next none_ => exact typed none_
  · split at failed <;> cases failed

/-- A well-formed filter fails for its literals or its value only. -/
theorem WellFormed.onValue_of_condition (wellFormed : f.WellFormed) {notice : FilterNotice}
    (failed : f.condition = .error notice) : notice.OnValue := by
  unfold condition at failed
  rw [wellFormed.trimmed.not_blank, if_neg Bool.false_ne_true] at failed
  split at failed
  · split at failed
    · next refused =>
      cases failed
      obtain ⟨field, rfl⟩ := wellFormed.compile_eq_error refused
      exact .emptyLiteral field
    · cases failed
    · next made =>
      exact ReadyClause.onValue_of_condition (.inl (scope_of_compile made)) (eq_error_of_map failed)
  · split at failed
    · next mapped =>
      exact ReadyClause.onValue_of_condition (scope_of_legacy mapped) (eq_error_of_map failed)
    · cases failed
    · next unrecognized =>
      exact absurd failed (wellFormed.targetCondition_ne_error unrecognized notice)

end Filter

end PhaseTable
