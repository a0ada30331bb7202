/-
# PhaseTable.Proofs.Filter.CheckedRule -- checking a rule keeps what it means

Checking drops branches by the type of their column and by their operators, and writes
what is left in one form.  A filter chooses a branch by its value.  The two agree: the
branch that a value takes is one that its type takes, so it is dropped for its operator
only, and a clause that is kept becomes the same ready clause (`Clause.ready_of_check`).

So a filter with the checked rule compiles as one with the rule as written, but for an
operator that no rule knows, where it compiles to nothing (`Filter.compile_withRule_check`);
its condition and its notices follow (`Filter.outcome_withRule_check`).
-/
import PhaseTable.Proofs.Filter.Clause
import PhaseTable.Proofs.Rule
import PhaseTable.Query

namespace PhaseTable

set_option autoImplicit false

open Text

/-! ## Clauses -/

namespace Clause

variable {c : Clause}

theorem ready_of_unknown (targetAttr : String) (unknown : RuleOp.parse c.op = none) :
    c.ready targetAttr = .error (.unsupportedOp c.op targetAttr) := by
  simp only [ready, unknown]

/-- Trimming the field and renaming the operator change nothing of a ready clause. -/
theorem ready_of_check {kept : Clause} {branch : Branch} {type : ValueType}
    (targetAttr : String) (checked : c.check branch type = .ok kept) :
    kept.ready targetAttr = c.ready targetAttr := by
  obtain ⟨op, parsed, -, rfl⟩ := check_eq_ok_iff.mp checked
  have field : nonBlank? (trim c.field) = nonBlank? c.field := by
    rw [nonBlank?, nonBlank?, trim_trim]
  simp only [ready, RuleOp.parse_name, parsed, field]

end Clause

/-! ## Rules -/

/-- The clause that a checked rule has for a value of its type. -/
theorem Rule.branch_of_check {r kept : Rule} {type : ValueType}
    (checked : (r.check type).1 = some kept) (branch : Branch) :
    kept.branch branch = (r.branch branch).bind fun c => (c.check branch type).toOption := by
  obtain ⟨rfl, -⟩ := check_eq_some_iff.mp checked
  rw [branch_kept, keep]

namespace Filter

def withRule (f : Filter) (r : Rule) : Filter :=
  { f with rule := some r }

theorem compile_withRule (f : Filter) (r : Rule) :
    (f.withRule r).compile =
      match (InputClass.of f.valueType f.value).branch?.bind r.branch with
      | none => .ok none
      | some c => some <$> c.ready f.targetAttr := by
  rw [← Rule.clauseFor_eq]
  rfl

/-- A checked rule compiles as the rule that was written, but for unknown operators. -/
theorem compile_withRule_check {r kept : Rule} (f : Filter)
    (checked : (r.check f.valueType).1 = some kept) :
    (f.withRule kept).compile =
      match (f.withRule r).compile with
      | .error (.unsupportedOp _ _) => .ok none
      | result => result := by
  rw [compile_withRule, compile_withRule]
  cases taken : (InputClass.of f.valueType f.value).branch? with
  | none => rfl
  | some branch =>
      rw [Option.bind_some, Option.bind_some, Rule.branch_of_check checked]
      cases found : r.branch branch with
      | none => rfl
      | some c =>
          rw [Option.bind_some]
          cases parsed : RuleOp.parse c.op with
          | none =>
              have dropped : (c.check branch f.valueType).toOption = none := by
                simp only [Clause.check, parsed, Except.toOption]
              simp only [dropped, Clause.ready_of_unknown f.targetAttr parsed]
              rfl
          | some op =>
              -- the branch fits, so the operator is all that could have been wrong
              have passes := Clause.check_eq_ok_iff.mpr
                ⟨op, parsed, InputClass.fits_of_branch? taken, rfl⟩
              have same := Clause.ready_of_check f.targetAttr passes
              rw [passes]
              simp only [Except.toOption, same]
              cases made : c.ready f.targetAttr with
              | ok ready => rfl
              | error reason =>
                  rcases Clause.ready_eq_error made with ⟨unknown, -⟩ | ⟨-, rfl⟩ | ⟨_, rfl⟩
                  · rw [parsed] at unknown
                    cases unknown
                  · rfl
                  · rfl

/-! ## Conditions and notices -/

theorem condition_withRule (f : Filter) (r : Rule) :
    (f.withRule r).condition =
      if Text.blank f.targetAttr then .ok none
      else
        match (f.withRule r).compile with
        | .error reason => .error (.clause reason)
        | .ok none => .ok none
        | .ok (some c) => some <$> c.condition f.valueType f.value := by
  rw [condition]
  rfl

/-- **Checking a rule keeps what it means.**  For every filter of the column's type, whatever its
value, target and mode, the checked rule gives the condition and the notices that the rule gives as
it was written; but if the branch that the value takes has an operator that no rule knows, it gives
no condition and no notice. -/
theorem outcome_withRule_check {r kept : Rule} {type : ValueType}
    (checked : (r.check type).1 = some kept) (f : Filter) (typed : f.valueType = type)
    (phase : Int32) :
    ((∀ op target, (f.withRule r).compile ≠ .error (.unsupportedOp op target)) →
      (f.withRule kept).condition? = (f.withRule r).condition? ∧
        Criteria.notices ⟨phase, [f.withRule kept]⟩ = Criteria.notices ⟨phase, [f.withRule r]⟩) ∧
    ((∃ op target, (f.withRule r).compile = .error (.unsupportedOp op target)) →
      (f.withRule kept).condition? = none ∧ Criteria.notices ⟨phase, [f.withRule kept]⟩ = []) := by
  subst typed
  have compiled := compile_withRule_check f checked
  constructor
  · intro known
    have same : (f.withRule kept).compile = (f.withRule r).compile := by
      rw [compiled]
      split
      · next op target unknown => exact absurd unknown (known op target)
      · rfl
    have conditions : (f.withRule kept).condition = (f.withRule r).condition := by
      rw [condition_withRule, condition_withRule, same]
    simp only [Criteria.notices, condition?, notice?, List.filterMap_cons, List.filterMap_nil,
      conditions, and_self]
  · rintro ⟨op, target, unknown⟩
    have nothing : (f.withRule kept).condition = .ok none := by
      rw [unknown] at compiled
      rw [condition_withRule, compiled]
      exact ite_self _
    simp only [Criteria.notices, condition?, notice?, nothing, List.filterMap_cons,
      List.filterMap_nil, Option.map_none, and_self]

/-- A rule written by hand, with an operator that is none. -/
def handwritten : Rule :=
  ⟨some ⟨" PT_FLAG ", "N-E-Q", .str "1"⟩, some ⟨"", "about", .null⟩, none⟩

def tidied : Rule :=
  ⟨some ⟨"PT_FLAG", "neq", .str "1"⟩, none, none⟩

def flagged (value : String) : Filter :=
  { blank with targetType := some .part, targetAttr := "PT_FLAG", valueType := .boolean, value }

theorem outcome_handwritten :
    (handwritten.check .boolean).1 = some tidied ∧
    ((flagged "true").withRule tidied).condition? =
      ((flagged "true").withRule handwritten).condition? ∧
    ((flagged "false").withRule tidied).condition? = none ∧
    Criteria.notices ⟨1, [(flagged "false").withRule tidied]⟩ = [] := by
  have checked : (handwritten.check .boolean).1 = some tidied := by decide
  have known : ((flagged "true").withRule handwritten).compile =
      .ok (some ⟨"PT_FLAG", .neq, .literals ["1"], .field⟩) := by decide
  have unknown : ((flagged "false").withRule handwritten).compile =
      .error (.unsupportedOp "about" "PT_FLAG") := by decide
  refine ⟨checked, ((outcome_withRule_check checked (flagged "true") rfl 1).1 ?_).1,
    (outcome_withRule_check checked (flagged "false") rfl 1).2 ⟨_, _, unknown⟩⟩
  intro op target failed
  rw [known] at failed
  cases failed

end Filter

end PhaseTable
