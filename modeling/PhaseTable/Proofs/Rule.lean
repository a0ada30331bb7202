/-
# PhaseTable.Proofs.Rule -- the rules that checking leaves alone

`Rule.Fits` says what a checked rule of a column of a type looks like: it has a
clause, every clause stands in a branch that the type takes, and every clause is
canonical.  Checking returns such rules only (`Rule.fits_of_check`) and returns such a
rule as it is, without a notice (`Rule.check_of_fits`).
-/
import PhaseTable.Proofs.Operator
import PhaseTable.Proofs.Text.Trimming
import PhaseTable.Rule

namespace PhaseTable

set_option autoImplicit false

open Text

/-- The field has no blank ends, and may be empty; the operator is written by its own name. -/
structure Clause.Canonical (c : Clause) : Prop where
  field : trim c.field = c.field
  op : ∃ op : RuleOp, c.op = op.name

/-- The rule has a clause, and all of its clauses are canonical and can be taken by a column of the
type. -/
structure Rule.Fits (r : Rule) (type : ValueType) : Prop where
  nonempty : r.isEmpty = false
  clauses : ∀ branch clause, r.branch branch = some clause →
    branch.fits type = true ∧ clause.Canonical

/-! ## One clause -/

namespace Clause

/-- A clause is kept exactly when its operator is known and the type takes its branch. -/
theorem check_eq_ok_iff {c kept : Clause} {branch : Branch} {type : ValueType} :
    c.check branch type = .ok kept ↔
      ∃ op, RuleOp.parse c.op = some op ∧ branch.fits type = true ∧
        kept = { c with field := trim c.field, op := op.name } := by
  cases parsed : RuleOp.parse c.op with
  | none => simp [check, parsed]
  | some op =>
      cases fits : branch.fits type with
      | false => cases branch <;> simp [check, parsed, fits]
      | true => simp [check, parsed, fits, eq_comm]

theorem canonical_of_check {c kept : Clause} {branch : Branch} {type : ValueType}
    (checked : c.check branch type = .ok kept) : branch.fits type = true ∧ kept.Canonical := by
  obtain ⟨op, -, fits, rfl⟩ := check_eq_ok_iff.mp checked
  exact ⟨fits, trim_trim c.field, op, rfl⟩

theorem check_of_canonical {c : Clause} (canonical : c.Canonical) {branch : Branch}
    {type : ValueType} (fits : branch.fits type = true) : c.check branch type = .ok c := by
  obtain ⟨op, named⟩ := canonical.op
  rw [check_eq_ok_iff]
  refine ⟨op, by rw [named, RuleOp.parse_name], fits, ?_⟩
  rw [canonical.field, ← named]

end Clause

/-! ## All clauses -/

namespace Rule

@[ext] theorem ext_branch {r s : Rule} (same : ∀ branch, r.branch branch = s.branch branch) :
    r = s := by
  obtain ⟨onTrue, onFalse, onValue⟩ := r
  have first := same .onTrue
  have second := same .onFalse
  have third := same .onValue
  simp only [branch] at first second third
  rw [first, second, third]

theorem isEmpty_eq_false_iff {r : Rule} :
    r.isEmpty = false ↔ ∃ branch clause, r.branch branch = some clause := by
  obtain ⟨onTrue, onFalse, onValue⟩ := r
  constructor
  · intro nonempty
    cases onTrue with
    | some clause => exact ⟨.onTrue, clause, rfl⟩
    | none =>
        cases onFalse with
        | some clause => exact ⟨.onFalse, clause, rfl⟩
        | none =>
            cases onValue with
            | some clause => exact ⟨.onValue, clause, rfl⟩
            | none => simp [isEmpty] at nonempty
  · rintro ⟨branch, clause, found⟩
    cases branch <;> simp_all [isEmpty, Rule.branch]

theorem branch_kept (r : Rule) (type : ValueType) (branch : Branch) :
    (r.kept type).branch branch = r.keep type branch := by
  cases branch <;> rfl

theorem keep_eq_some_iff {r : Rule} {type : ValueType} {branch : Branch} {kept : Clause} :
    r.keep type branch = some kept ↔
      ∃ clause, r.branch branch = some clause ∧ clause.check branch type = .ok kept := by
  rw [keep, Option.bind_eq_some_iff]
  constructor
  · rintro ⟨clause, found, checked⟩
    refine ⟨clause, found, ?_⟩
    cases result : clause.check branch type with
    | error notice => simp [result, Except.toOption] at checked
    | ok other => simpa [result, Except.toOption] using checked
  · rintro ⟨clause, found, checked⟩
    exact ⟨clause, found, by rw [checked]; rfl⟩

theorem check_eq_some_iff {r kept : Rule} {type : ValueType} :
    (r.check type).1 = some kept ↔ r.kept type = kept ∧ kept.isEmpty = false := by
  simp only [check]
  split
  · next empty =>
    simp only [reduceCtorEq, false_iff, not_and]
    rintro rfl
    simp [empty]
  · next nonempty =>
    rw [Option.some.injEq]
    exact ⟨fun same => ⟨same, same ▸ by simpa using nonempty⟩, And.left⟩

/-- Checking returns rules that fit. -/
theorem fits_of_check {r kept : Rule} {type : ValueType}
    (checked : (r.check type).1 = some kept) : kept.Fits type := by
  obtain ⟨rfl, nonempty⟩ := check_eq_some_iff.mp checked
  refine ⟨nonempty, fun branch clause found => ?_⟩
  rw [branch_kept, keep_eq_some_iff] at found
  obtain ⟨_, _, checked⟩ := found
  exact Clause.canonical_of_check checked

/-- A rule that fits is kept as it is. -/
theorem check_of_fits {r : Rule} {type : ValueType} (fits : r.Fits type) :
    r.check type = (some r, []) := by
  have stable : ∀ branch clause, r.branch branch = some clause →
      clause.check branch type = .ok clause := fun branch clause found =>
    Clause.check_of_canonical (fits.clauses branch clause found).2
      (fits.clauses branch clause found).1
  have kept : r.kept type = r := by
    ext1 branch
    rw [branch_kept, keep]
    cases found : r.branch branch with
    | none => rfl
    | some clause => rw [Option.bind_some, stable branch clause found]; rfl
  have silent : ∀ branch, r.refusal? type branch = none := by
    intro branch
    rw [refusal?]
    cases found : r.branch branch with
    | none => rfl
    | some clause => rw [Option.bind_some, stable branch clause found]
  have refusals : Branch.all.filterMap (r.refusal? type) = [] :=
    List.filterMap_eq_nil_iff.mpr fun branch _ => silent branch
  simp only [check, kept, fits.nonempty, refusals, Bool.false_eq_true, if_false]

end Rule

end PhaseTable
