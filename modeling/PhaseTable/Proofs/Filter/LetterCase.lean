/-
# PhaseTable.Proofs.Filter.LetterCase -- filters up to the case of letters

Filters are alike if their settings are the same and their texts equal up to the case of
letters (`Filter.Alike`).  On each of the three ways to a condition such filters stay
together (`SameCourse`): they fail together, or ask for the same up to case, so they have
one outcome (`Filter.Alike.sameOutcome`).

The words that a filter knows -- those for true and false, the old targets, the mode of
positive numbers, the attributes of parts -- are recognized in texts with one folded form
together, because none of them has a `k`.
-/
import PhaseTable.Proofs.Filter.Clause
import PhaseTable.Proofs.Filter.Comparison
import PhaseTable.Proofs.Operator
import PhaseTable.Proofs.Source

namespace PhaseTable

set_option autoImplicit false

open Text

/-- The computations both fail, or have results that are related. -/
inductive SameCourse {ε α : Type} (related : α → α → Prop) : Except ε α → Except ε α → Prop
  | ok {a b : α} (results : related a b) : SameCourse related (.ok a) (.ok b)
  | error (reason other : ε) : SameCourse related (.error reason) (.error other)

theorem SameCourse.map {ε α β : Type} {before : α → α → Prop} {after : β → β → Prop} {f : α → β}
    (step : ∀ a b, before a b → after (f a) (f b)) {x y : Except ε α}
    (course : SameCourse before x y) : SameCourse after (f <$> x) (f <$> y) := by
  cases course with
  | ok results => exact .ok (step _ _ results)
  | error reason other => exact .error reason other

/-- Optional texts with one folded form are there together. -/
theorem none_or_some_of_map_foldText {s? t? : Option String}
    (same : s?.map foldText = t?.map foldText) :
    s? = none ∧ t? = none ∨ ∃ s t, s? = some s ∧ t? = some t ∧ foldText s = foldText t := by
  cases s? with
  | none =>
      cases t? with
      | none => exact .inl ⟨rfl, rfl⟩
      | some t => cases same
  | some s =>
      cases t? with
      | none => cases same
      | some t => exact .inr ⟨s, t, rfl, rfl, Option.some.inj same⟩

/-! ## Ready clauses -/

/-- The operands are the value of the filter, or literals that are equal up to case. -/
inductive Operand.Alike : Operand → Operand → Prop
  | input : Alike .input .input
  | literals {vs ws : List String} (same : vs.map foldText = ws.map foldText) :
      Alike (.literals vs) (.literals ws)

structure ReadyClause.Alike (c d : ReadyClause) : Prop where
  field : foldText c.field = foldText d.field
  op : c.op = d.op
  operand : c.operand.Alike d.operand
  scope : c.scope = d.scope

namespace ReadyClause

/-- Any operator but `in` compares with the literals, or with the value of the filter as a whole. -/
theorem values_of_ne_in {c : ReadyClause} (single : c.op ≠ .in_) (input : String) :
    c.values input =
      match c.operand with
      | .input => (nonBlank? input).toList
      | .literals values => distinctNonBlank values := by
  unfold values
  split
  · next list => exact absurd list single
  · next given _ => rw [given]
  · next list => exact absurd list single
  · next given _ => rw [given]

namespace Alike

variable {c d : ReadyClause}

theorem values (alike : c.Alike d) {v w : String} (inputs : foldText v = foldText w) :
    AlikeValues (c.values v) (d.values w) := by
  obtain ⟨-, ops, operands, -⟩ := alike
  by_cases list : d.op = .in_
  · rw [list] at ops
    unfold ReadyClause.values
    rw [ops, list]
    generalize c.operand = operand at operands ⊢
    generalize d.operand = operand' at operands ⊢
    cases operands with
    | input => exact .splitValues inputs
    | @literals vs ws same =>
        -- `in` splits a literal that is the only one
        rcases (AlikeValues.of_map_eq same).nil_or_cons with
          ⟨rfl, rfl⟩ | ⟨v, vs, w, ws, rfl, rfl, first⟩
        · exact .of_map_eq rfl
        · rcases (AlikeValues.of_map_eq (List.cons.inj same).2).nil_or_cons with
            ⟨rfl, rfl⟩ | ⟨_, _, _, _, rfl, rfl, -⟩
          · exact .splitValues first
          · exact .distinctNonBlank same
  · rw [values_of_ne_in list, values_of_ne_in (ops ▸ list)]
    generalize c.operand = operand at operands ⊢
    generalize d.operand = operand' at operands ⊢
    cases operands with
    | literals same => exact .distinctNonBlank same
    | input =>
        rcases none_or_some_of_map_foldText (nonBlank?_congr inputs) with
          ⟨absent, absent'⟩ | ⟨s, t, text, text', same⟩
        · rw [absent, absent']
          exact .of_map_eq rfl
        · rw [text, text']
          exact .of_map_eq (congrArg (fun t => [t]) same)

/-- Compared as numbers or as texts, the field is compared alike. -/
theorem compareField (alike : c.Alike d) {v w : String} {vs ws : List String}
    (values : AlikeValues (v :: vs) (w :: ws)) (type : ValueType) :
    SameCourse Predicate.SameUpToCase (c.compareField type v vs) (d.compareField type w ws) := by
  have texts := RuleOp.sameUpToCase_compareTexts alike.field values d.op
  unfold ReadyClause.compareField
  rw [alike.op]
  rcases values.numbers with ⟨absent, absent'⟩ | ⟨x, xs, ys, present, present', members⟩
  · rw [absent, absent']
    dsimp only
    split
    · exact .error _ _
    · exact .ok texts
  · rw [present, present']
    dsimp only
    split
    · exact .ok (RuleOp.sameUpToCase_compareNumbers alike.field members d.op)
    · exact .ok texts

theorem condition (alike : c.Alike d) {v w : String} (inputs : foldText v = foldText w)
    (type : ValueType) :
    SameCourse Predicate.SameUpToCase (c.condition type v) (d.condition type w) := by
  have values := alike.values inputs
  unfold ReadyClause.condition
  rcases values.nil_or_cons with
    ⟨absent, absent'⟩ | ⟨first, others, first', others', present, present', -⟩
  · rw [absent, absent']
    exact .error _ _
  · rw [present, present'] at values ⊢
    dsimp only
    rw [alike.scope]
    split
    · exact alike.compareField values type
    · rw [alike.op]
      split
      · exact .error _ _
      · exact .ok (RuleOp.sameUpToCase_compareProfiles values d.op _)

end Alike

end ReadyClause

/-! ## Clauses of rules -/

structure Clause.Alike (c d : Clause) : Prop where
  field : foldText c.field = foldText d.field
  op : foldText c.op = foldText d.op
  null : c.value = .null ↔ d.value = .null
  literals : c.value.literals.map foldText = d.value.literals.map foldText

theorem Clause.Alike.ready {c d : Clause} (alike : c.Alike d) {s t : String}
    (targets : foldText s = foldText t) :
    SameCourse ReadyClause.Alike (c.ready s) (d.ready t) := by
  have fields : ((nonBlank? c.field).or (nonBlank? s)).map foldText =
      ((nonBlank? d.field).or (nonBlank? t)).map foldText := by
    rw [Option.map_or, Option.map_or, nonBlank?_congr alike.field, nonBlank?_congr targets]
  unfold Clause.ready
  rw [RuleOp.parse_congr alike.op]
  cases RuleOp.parse d.op with
  | none => exact .error _ _
  | some op =>
      rcases none_or_some_of_map_foldText fields with
        ⟨absent, absent'⟩ | ⟨_, _, present, present', same⟩
      · rw [absent, absent']
        exact .error _ _
      · rw [present, present']
        dsimp only
        by_cases null : d.value = .null
        · rw [if_pos null, if_pos (alike.null.mpr null)]
          exact .ok ⟨same, rfl, .input, rfl⟩
        · rw [if_neg null, if_neg (mt alike.null.mp null)]
          have literals := alike.literals
          rcases (AlikeValues.of_map_eq literals).nil_or_cons with
            ⟨empty, empty'⟩ | ⟨v, vs, w, ws, listed, listed', -⟩
          · rw [empty, empty']
            exact .error _ _
          · rw [listed, listed'] at literals ⊢
            exact .ok ⟨same, rfl, .literals literals, rfl⟩

/-- The rules have the same branches, with clauses that say the same. -/
def Rule.Alike (r s : Rule) : Prop :=
  ∀ branch, Option.Rel Clause.Alike (r.branch branch) (s.branch branch)

theorem eq_one_iff {s : String} : s = "1" ↔ sameIgnoringAsciiCase s "1" = true := by
  constructor
  · rintro rfl
    exact sameIgnoringAsciiCase_self _
  · intro same
    rw [sameIgnoringAsciiCase, beq_iff_eq] at same
    obtain ⟨c, single, small⟩ := List.map_eq_singleton_iff.mp same
    rw [(toLower_eq_iff (by decide)).mp small] at single
    exact String.toList_inj.mp single

theorem isTruthy_congr {s t : String} (same : foldText s = foldText t) :
    isTruthy s = isTruthy t := by
  have trimmed := trim_congr same
  have word : ∀ word : String, word.toList.all plain = true →
      sameIgnoringAsciiCase (trim s) word = sameIgnoringAsciiCase (trim t) word :=
    fun _ allPlain => sameIgnoringAsciiCase_congr trimmed allPlain
  simp only [isTruthy, eq_one_iff, word "true" (by decide), word "1" (by decide)]

theorem InputClass.of_congr (type : ValueType) {s t : String} (same : foldText s = foldText t) :
    InputClass.of type s = InputClass.of type t := by
  rw [InputClass.of, InputClass.of, isTruthy_congr same, blank_congr same]

/-! ## Filters -/

/-- The filters are the same up to the case of letters. -/
structure Filter.Alike (f g : Filter) : Prop where
  targetType : f.targetType = g.targetType
  targetAttr : foldText f.targetAttr = foldText g.targetAttr
  booleanMode : foldText f.booleanMode = foldText g.booleanMode
  valueType : f.valueType = g.valueType
  value : foldText f.value = foldText g.value
  rule : Option.Rel Rule.Alike f.rule g.rule

/-- What the filters are among those that predate rules is the same up to the case of letters. -/
inductive Legacy.Alike : Legacy → Legacy → Prop
  | notRecognized : Alike .notRecognized .notRecognized
  | noClause : Alike .noClause .noClause
  | clause {c d : ReadyClause} (clauses : c.Alike d) : Alike (.clause c) (.clause d)

namespace Filter.Alike

variable {f g : Filter}

theorem isSome_rule (alike : f.Alike g) : f.rule.isSome = g.rule.isSome := by
  have rules := alike.rule
  generalize f.rule = rule at rules ⊢
  generalize g.rule = rule' at rules ⊢
  cases rules with
  | none => rfl
  | some _ => rfl

theorem compile (alike : f.Alike g) :
    SameCourse (Option.Rel ReadyClause.Alike) f.compile g.compile := by
  -- the class of the value picks the branch, and values that are equal up to case have one class
  have branches : Option.Rel Clause.Alike
      (f.rule.bind (·.clauseFor (.of f.valueType f.value)))
      (g.rule.bind (·.clauseFor (.of g.valueType g.value))) := by
    rw [alike.valueType, InputClass.of_congr g.valueType alike.value]
    have rules := alike.rule
    generalize f.rule = rule at rules ⊢
    generalize g.rule = rule' at rules ⊢
    cases rules with
    | none => exact .none
    | some rules =>
        simp only [Option.bind_some, Rule.clauseFor_eq]
        cases (InputClass.of g.valueType g.value).branch? with
        | none => exact .none
        | some branch => exact rules branch
  unfold Filter.compile
  generalize f.rule.bind _ = clause at branches ⊢
  generalize g.rule.bind _ = clause' at branches ⊢
  cases branches with
  | none => exact .ok .none
  | some clauses => exact (clauses.ready alike.targetAttr).map fun _ _ => .some

theorem isPositiveNumber (alike : f.Alike g) : f.isPositiveNumber = g.isPositiveNumber :=
  sameIgnoringAsciiCase_congr (trim_congr alike.booleanMode) (by decide)

theorem legacy (alike : f.Alike g) : f.legacy.Alike g.legacy := by
  unfold Filter.legacy
  rcases none_or_some_of_map_foldText (nonBlank?_congr alike.targetAttr) with
    ⟨absent, absent'⟩ | ⟨s, t, present, present', same⟩
  · rw [absent, absent']
    exact .notRecognized
  · rw [present, present']
    dsimp only
    rw [alike.valueType, alike.isPositiveNumber, alike.targetType, isTruthy_congr alike.value,
      sameIgnoringAsciiCase_congr same (by decide : excludeExisting.toList.all plain = true),
      sameIgnoringAsciiCase_congr same (by decide : excludeGratings.toList.all plain = true)]
    split
    · exact .clause ⟨same, rfl, .literals rfl, rfl⟩
    · split
      · split
        · exact .clause ⟨rfl, rfl, .literals rfl, rfl⟩
        · exact .noClause
      · split
        · split
          · exact .clause ⟨rfl, rfl, .literals rfl, rfl⟩
          · exact .noClause
        · exact .notRecognized

theorem targetCondition (alike : f.Alike g) :
    SameCourse (Option.Rel Predicate.SameUpToCase) f.targetCondition g.targetCondition := by
  have values := AlikeValues.splitValues alike.value
  unfold Filter.targetCondition
  rw [alike.targetType]
  cases g.targetType with
  | none => exact .error _ _
  | some type =>
      dsimp only
      rcases values.nil_or_cons with ⟨absent, absent'⟩ | ⟨v, vs, w, ws, present, present', -⟩
      · rw [absent, absent']
        exact .ok .none
      · rw [present, present'] at values ⊢
        have fields := foldText_templateField?_congr type (trim_congr alike.targetAttr)
          (trim_trim _) (trim_trim _)
        exact .ok (.some (RuleOp.sameUpToCase_compareTexts fields values .in_))

/-- Filters that are the same up to case fail together, or ask for the same up to case. -/
theorem condition (alike : f.Alike g) :
    SameCourse (Option.Rel Predicate.SameUpToCase) f.condition g.condition := by
  have ofClause : ∀ {c d : ReadyClause}, c.Alike d →
      SameCourse (Option.Rel Predicate.SameUpToCase)
        (some <$> c.condition f.valueType f.value) (some <$> d.condition g.valueType g.value) := by
    intro c d clauses
    rw [alike.valueType]
    exact (clauses.condition alike.value g.valueType).map fun _ _ => .some
  unfold Filter.condition
  rw [blank_congr alike.targetAttr]
  split
  · exact .ok .none
  · rw [alike.isSome_rule]
    split
    · have compiled := alike.compile
      generalize f.compile = result at compiled ⊢
      generalize g.compile = result' at compiled ⊢
      cases compiled with
      | error reason other => exact .error _ _
      | ok results =>
          cases results with
          | none => exact .ok .none
          | some clauses => exact ofClause clauses
    · have old := alike.legacy
      generalize f.legacy = way at old ⊢
      generalize g.legacy = way' at old ⊢
      cases old with
      | notRecognized => exact alike.targetCondition
      | noClause => exact .ok .none
      | clause clauses => exact ofClause clauses

end Filter.Alike

/-- The filters add one condition up to case, or none, and raise a notice together. -/
structure Filter.SameOutcome (f g : Filter) : Prop where
  conditions : Option.Rel Predicate.SameUpToCase f.condition? g.condition?
  notices : f.notice?.isSome = g.notice?.isSome

/-- **Filters that are the same up to the case of letters have one outcome.** -/
theorem Filter.Alike.sameOutcome {f g : Filter} (alike : f.Alike g) : f.SameOutcome g := by
  have course := alike.condition
  cases left : f.condition with
  | error reason =>
      cases right : g.condition with
      | error other =>
          constructor
          · simp only [condition?, left, right]
            exact .none
          · simp only [notice?, left, right, Option.isSome_some]
      | ok q? =>
          rw [left, right] at course
          cases course
  | ok p? =>
      cases right : g.condition with
      | error other =>
          rw [left, right] at course
          cases course
      | ok q? =>
          rw [left, right] at course
          constructor
          · simp only [condition?, left, right]
            cases course with
            | ok results => exact results
          · simp only [notice?, left, right]

end PhaseTable
