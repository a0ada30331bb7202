/-
# PhaseTable.Proofs.Predicate -- what a tree asks for, up to the case of letters

A query engine gives each comparison a truth value, and a tree the value that follows
(`Predicate.eval`).  Two trees are the same condition up to the case of letters if every
engine that is blind to the case of field names and texts gives them the same value
(`Predicate.SameUpToCase`).  The trees may differ in their repeats: `A` or `a` is `A`.
-/
import PhaseTable.Predicate
import PhaseTable.Proofs.Text.LetterCase

namespace PhaseTable

set_option autoImplicit false

open Text

def Field.folded : Field → Field
  | .phaseNumber => .phaseNumber
  | .custom name => .custom (foldText name)

def Test.folded : Test → Test
  | .number op value => .number op value
  | .text op value => .text op (foldText value)

def Comparison.folded (c : Comparison) : Comparison :=
  ⟨c.field.folded, c.test.folded⟩

/-- The truth of a comparison does not depend on the case of the letters in it. -/
def CaseBlind (holds : Comparison → Bool) : Prop :=
  ∀ c d : Comparison, c.folded = d.folded → holds c = holds d

namespace Predicate

/-- The trees are one condition to everyone who is blind to the case of letters. -/
def SameUpToCase (p q : Predicate) : Prop :=
  ∀ holds, CaseBlind holds → p.eval holds = q.eval holds

/-! ## Groups -/

section Evaluation

variable (holds : Comparison → Bool)

theorem evalAny_eq_any (items : List Predicate) :
    evalAny holds items = items.any (·.eval holds) := by
  induction items with
  | nil => rfl
  | cons item rest ih => rw [evalAny, ih, List.any_cons]

theorem evalAll_eq_all (items : List Predicate) :
    evalAll holds items = items.all (·.eval holds) := by
  induction items with
  | nil => rfl
  | cons item rest ih => rw [evalAll, ih, List.all_cons]

theorem eval_anyOf (items : List Predicate) :
    (anyOf items).eval holds = items.any (·.eval holds) := by
  unfold anyOf
  split
  · simp
  · rw [eval, evalAny_eq_any]

theorem eval_allOf (items : List Predicate) :
    (allOf items).eval holds = items.all (·.eval holds) := by
  unfold allOf
  split
  · simp
  · rw [eval, evalAll_eq_all]

end Evaluation

/-! ## Leaves -/

theorem comparisonsOf_eq_flatMap (items : List Predicate) :
    comparisonsOf items = items.flatMap comparisons := by
  induction items with
  | nil => rfl
  | cons item rest ih => rw [comparisonsOf, ih, List.flatMap_cons]

theorem comparisons_anyOf (items : List Predicate) :
    (anyOf items).comparisons = items.flatMap comparisons := by
  unfold anyOf
  split
  · rw [List.flatMap_singleton]
  · rw [comparisons, comparisonsOf_eq_flatMap]

section Members

variable {α : Type} {p q : α → Predicate}

theorem sameUpToCase_anyOf (each : ∀ x, (p x).SameUpToCase (q x)) (xs : List α) :
    (anyOf (xs.map p)).SameUpToCase (anyOf (xs.map q)) := by
  intro holds blind
  simp only [eval_anyOf, List.any_map, Function.comp_def, each _ holds blind]

theorem sameUpToCase_allOf (each : ∀ x, (p x).SameUpToCase (q x)) (xs : List α) :
    (allOf (xs.map p)).SameUpToCase (allOf (xs.map q)) := by
  intro holds blind
  simp only [eval_allOf, List.all_map, Function.comp_def, each _ holds blind]

end Members

/-! ## Comparisons -/

variable {field other : String}

theorem sameUpToCase_compareNumber (names : foldText field = foldText other) (op : NumberOp)
    (value : Binary64) :
    (compareNumber (.custom field) op value).SameUpToCase
      (compareNumber (.custom other) op value) := by
  intro holds blind
  exact blind _ _ (by simp only [Comparison.folded, Field.folded, Test.folded, names])

theorem sameUpToCase_compareText (names : foldText field = foldText other) (op : TextOp)
    {value value' : String} (values : foldText value = foldText value') :
    (compareText (.custom field) op value).SameUpToCase
      (compareText (.custom other) op value') := by
  intro holds blind
  exact blind _ _ (by simp only [Comparison.folded, Field.folded, Test.folded, names, values])

end Predicate

end PhaseTable
