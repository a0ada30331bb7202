/-
# PhaseTable.Proofs.Filter.Denial -- a denied operator selects the complement

Four operators have a denial (`RuleOp.negated?`).  To a query engine a denied comparison is true
where the comparison itself is false (`ReadsDenials`); what a tree makes of that depends on its
groups, since one member that holds is enough for a disjunction only.  The condition of a clause
and that of its denial are opposites nevertheless (`ReadyClause.condition_denied`): both compare
with the first of the same values, as numbers or as texts in both cases, and where a clause asks
for one of several profiles its denial asks for all of them.
-/
import PhaseTable.Proofs.Predicate
import PhaseTable.Proofs.Query.Building

namespace PhaseTable

set_option autoImplicit false

/-! ## Opposites -/

/-- The test that denies another one. -/
def Test.denial? : Test → Option Test
  | .number .eq value => some (.number .neq value)
  | .text .equals value => some (.text .notEquals value)
  | .text .contains value => some (.text .notContains value)
  | .text .startsWith value => some (.text .notStartsWith value)
  | .text .endsWith value => some (.text .notEndsWith value)
  | _ => none

/-- Each denial is true where what it denies is false. -/
def ReadsDenials (holds : Comparison → Bool) : Prop :=
  ∀ field test denial, Test.denial? test = some denial →
    holds ⟨field, denial⟩ = !holds ⟨field, test⟩

namespace Predicate

/-- The second tree is true where the first is false, for everyone who reads denials. -/
def Opposite (p q : Predicate) : Prop :=
  ∀ holds, ReadsDenials holds → q.eval holds = !p.eval holds

/-- None of some trees is true if and only if all of their opposites are. -/
theorem opposite_groups {α : Type} {p q : α → Predicate} (each : ∀ x, (p x).Opposite (q x))
    (xs : List α) : (anyOf (xs.map p)).Opposite (allOf (xs.map q)) := by
  intro holds reads
  simp only [eval_anyOf, eval_allOf, List.any_map, List.all_map, Function.comp_def,
    each _ holds reads, List.not_any_eq_all_not]

end Predicate

/-! ## Operators -/

namespace RuleOp

variable {op denied : RuleOp}

/-- What an operator with a denial has in common with it.  Neither orders numbers or takes a list,
and they prefer numbers together. -/
structure Paired (op denied : RuleOp) : Prop where
  single : op ≠ .in_ ∧ denied ≠ .in_
  unordered : op.isOrdering = false ∧ denied.isOrdering = false
  numeric : denied.prefersNumeric = op.prefersNumeric
  negated : op.isNegated = false ∧ denied.isNegated = true
  texts : ∀ value, Test.denial? (.text op.textOp value) = some (.text denied.textOp value)
  numbers : op.prefersNumeric = true → ∀ value,
    Test.denial? (.number op.numberOp value) = some (.number denied.numberOp value)

theorem paired_of_negated? (twin : op.negated? = some denied) : op.Paired denied := by
  have numbers : op.prefersNumeric = true → ∀ value,
      Test.denial? (.number op.numberOp value) = some (.number denied.numberOp value) := by
    intro numeric value
    cases op <;> cases numeric <;> cases twin
    rfl
  cases op <;> cases twin <;>
    exact ⟨by decide, by decide, rfl, by decide, fun _ => rfl, numbers⟩

namespace Paired

variable (paired : op.Paired denied)
include paired

/-- Neither operator looks past the first value. -/
theorem opposite_compare {α : Type} {p q : α → Predicate} {first : α}
    (leaf : (p first).Opposite (q first)) (others : List α) :
    (op.compare p first others).Opposite (denied.compare q first others) := by
  rw [compare, compare, if_neg paired.single.1, if_neg paired.single.2]
  exact leaf

theorem opposite_compareTexts (field first : String) (others : List String) :
    (op.compareTexts field first others).Opposite (denied.compareTexts field first others) := by
  have leaf : (Predicate.compareText (.custom field) op.textOp first).Opposite
      (.compareText (.custom field) denied.textOp first) :=
    fun _ reads => reads _ _ _ (paired.texts first)
  exact paired.opposite_compare leaf others

theorem opposite_compareNumbers (numeric : op.prefersNumeric = true) (field : String)
    (first : Binary64) (others : List Binary64) :
    (op.compareNumbers field first others).Opposite
      (denied.compareNumbers field first others) := by
  have leaf : (Predicate.compareNumber (.custom field) op.numberOp first).Opposite
      (.compareNumber (.custom field) denied.numberOp first) :=
    fun _ reads => reads _ _ _ (paired.numbers numeric first)
  exact paired.opposite_compare leaf others

theorem opposite_compareProfiles (objectType : Option ObjectType) (first : String)
    (others : List String) :
    (op.compareProfiles objectType first others).Opposite
      (denied.compareProfiles objectType first others) := by
  simp only [compareProfiles, paired.negated, Bool.false_eq_true, if_false, if_true]
  exact Predicate.opposite_groups (fun field => paired.opposite_compareTexts field first others) _

end Paired

end RuleOp

/-! ## Clauses -/

namespace ReadyClause

def withOp (c : ReadyClause) (op : RuleOp) : ReadyClause :=
  { c with op }

variable {c : ReadyClause} {denied : RuleOp}

theorem values_of_single {op : RuleOp} (single : op ≠ .in_) (c : ReadyClause) (input : String) :
    (c.withOp op).values input =
      match c.operand with
      | .input => (Text.nonBlank? input).toList
      | .literals literals => Text.distinctNonBlank literals := by
  unfold values withOp
  split
  · next taken => exact absurd taken single
  · next operand _ => rw [operand]
  · next taken => exact absurd taken single
  · next operand _ => rw [operand]

/-- A clause and its denial compare with the same values. -/
theorem values_denied (paired : c.op.Paired denied) (input : String) :
    (c.withOp denied).values input = c.values input :=
  (values_of_single paired.single.2 c input).trans
    (values_of_single paired.single.1 c input).symm

theorem compareField_denied (paired : c.op.Paired denied) (type : ValueType) (first : String)
    (others : List String) :
    ∃ p q, c.compareField type first others = .ok p ∧
      (c.withOp denied).compareField type first others = .ok q ∧ p.Opposite q := by
  rcases mapM_valueNumber?_cases first others with texts | ⟨x, xs, numbers⟩
  · refine ⟨_, _, ?_, ?_, paired.opposite_compareTexts c.field first others⟩
    · rw [c.compareField_of_texts type texts, paired.unordered.1]
      rfl
    · rw [(c.withOp denied).compareField_of_texts type texts, withOp, paired.unordered.2]
      rfl
  · rw [c.compareField_of_numbers type numbers,
      (c.withOp denied).compareField_of_numbers type numbers, withOp]
    simp only [paired.unordered, paired.numeric, Bool.false_or]
    split
    · next both =>
      have numeric : c.op.prefersNumeric = true := (Bool.and_eq_true_iff.mp both).1
      exact ⟨_, _, rfl, rfl, paired.opposite_compareNumbers numeric c.field x xs⟩
    · exact ⟨_, _, rfl, rfl, paired.opposite_compareTexts c.field first others⟩

/-! The condition of a clause, by its values and its scope. -/

theorem condition_of_nil {input : String} (none_ : c.values input = []) (type : ValueType) :
    c.condition type input = .error (.noUsableValue c.field) := by
  rw [condition, none_]

theorem condition_of_field {input first : String} {others : List String}
    (listed : c.values input = first :: others) (scope : c.scope = .field) (type : ValueType) :
    c.condition type input = c.compareField type first others := by
  rw [condition, listed]
  simp only [scope]

theorem condition_of_profiles {input first : String} {others : List String}
    (listed : c.values input = first :: others) {objectType : Option ObjectType}
    (scope : c.scope = .profiles objectType) (unordered : c.op.isOrdering = false)
    (type : ValueType) :
    c.condition type input = .ok (c.op.compareProfiles objectType first others) := by
  rw [condition, listed]
  simp only [scope, unordered, Bool.false_eq_true, if_false]

/-- A clause and its denial have opposite conditions, or neither has a value to compare with. -/
theorem condition_denied (paired : c.op.Paired denied) (type : ValueType) (input : String) :
    (∃ p q, c.condition type input = .ok p ∧
        (c.withOp denied).condition type input = .ok q ∧ p.Opposite q) ∨
      c.condition type input = .error (.noUsableValue c.field) ∧
        (c.withOp denied).condition type input = .error (.noUsableValue c.field) := by
  have same := values_denied paired input
  cases listed : c.values input with
  | nil => exact .inr ⟨condition_of_nil listed type, condition_of_nil (same.trans listed) type⟩
  | cons first others =>
      cases scope : c.scope with
      | field =>
          obtain ⟨p, q, made, madeDenied, opposite⟩ := compareField_denied paired type first others
          refine .inl ⟨p, q, ?_, ?_, opposite⟩
          · rw [condition_of_field listed scope, made]
          · rw [condition_of_field (same.trans listed) scope, madeDenied]
      | profiles objectType =>
          exact .inl ⟨_, _, condition_of_profiles listed scope paired.unordered.1 type,
            condition_of_profiles (same.trans listed) scope paired.unordered.2 type,
            paired.opposite_compareProfiles objectType first others⟩

/-- **A denied operator selects the exact complement.**  Let the operator of a clause have a denial.
For every filter and phase, building the clause and building it with the denial both leave a
condition, and then one condition is true where the other is false; or both leave none, with the
same message. -/
theorem build_denied (c : ReadyClause) (denied : RuleOp) (twin : c.op.negated? = some denied)
    (f : Filter) (phase : Int32) (said : List String) :
    (∃ p q, (c.build f.valueType f.value phase).run said = some (some p, said) ∧
        ((c.withOp denied).build f.valueType f.value phase).run said = some (some q, said) ∧
          p.Opposite q) ∨
      ∃ message, (c.build f.valueType f.value phase).run said = some (none, said ++ [message]) ∧
        ((c.withOp denied).build f.valueType f.value phase).run said =
          some (none, said ++ [message]) := by
  rw [build_eq, build_eq]
  rcases condition_denied (RuleOp.paired_of_negated? twin) f.valueType f.value with
    ⟨p, q, made, madeDenied, opposite⟩ | ⟨refused, refusedDenied⟩
  · rw [made, madeDenied]
    exact .inl ⟨p, q, rfl, rfl, opposite⟩
  · rw [refused, refusedDenied]
    exact .inr ⟨_, rfl, rfl⟩

/-- The profiles of parts and of main parts of assemblies, of which one begins with a word. -/
def gratings : ReadyClause :=
  ⟨profileField, .startsWith, .literals [" ", gratingProfile], .profiles none⟩

/-- One of two profiles begins with the word, or else neither of them does. -/
theorem build_denied_gratings :
    ∃ p q, (gratings.build .string "" 1).run [] = some (some p, []) ∧
      ((gratings.withOp .notStartsWith).build .string "" 1).run [] = some (some q, []) ∧
        p.comparisons.length = 2 ∧ p.Opposite q := by
  rcases build_denied gratings .notStartsWith rfl .blank 1 [] with
    ⟨p, q, built, builtDenied, opposite⟩ | ⟨message, built, -⟩
  · refine ⟨p, q, built, builtDenied, ?_, opposite⟩
    cases built
    rfl
  · cases built

end ReadyClause

end PhaseTable
