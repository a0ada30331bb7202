/-
# PhaseTable.Proofs.Filter.Silence -- the filters that add nothing without a word

A filter that adds nothing to the query widens the selection to its whole phase, so there
must be a message, unless the filter asks for nothing (`Filter.AsksNothing`): it has no
target, its rule has no branch for its value, it is an old one that is switched off, or there
is no value to compare the target with.

Each way to a condition has its lemma, and a clause is never silent.  So a filter has a
condition, or one message, or it asks for nothing (`Filter.build_settles`).
-/
import PhaseTable.Proofs.Query.Building
import PhaseTable.Proofs.Text.Pieces

namespace PhaseTable

set_option autoImplicit false

open Text

/-- The rule has no branch for a value: none for its truth if it is a truth value, and else none for
values that are there, unless the value is blank. -/
def Rule.LacksBranch (r : Rule) (type : ValueType) (value : String) : Prop :=
  if type = .boolean then
    if isTruthy value then r.onTrue = none else r.onFalse = none
  else Text.blank value = true ∨ r.onValue = none

namespace Filter

/-- The filter asks whether a number is positive, or whether it is zero. -/
def AsksPositive (f : Filter) : Prop :=
  f.valueType = .boolean ∧ f.isPositiveNumber = true

def HasOldTarget (f : Filter) : Prop :=
  isLegacyTarget (trim f.targetAttr) = true

/-- The filter asks for nothing of the objects of its phase. -/
inductive AsksNothing (f : Filter) : Prop
  | noTarget (blank : Text.blank f.targetAttr = true)
  | noBranch (r : Rule) (ruled : f.rule = some r) (lacking : r.LacksBranch f.valueType f.value)
  | switchedOff (unruled : f.rule = none) (other : ¬ f.AsksPositive) (old : f.HasOldTarget)
      (off : isTruthy f.value = false)
  | noValue (unruled : f.rule = none) (other : ¬ f.AsksPositive) (new : ¬ f.HasOldTarget)
      (typed : f.targetType ≠ none)
      (blanks : ∀ piece ∈ pieces f.value.toList, ∀ c ∈ piece, isBlank c = true)

end Filter

/-! ## Rules -/

theorem Rule.clauseFor_eq_none_iff {r : Rule} {type : ValueType} {value : String} :
    r.clauseFor (.of type value) = none ↔ r.LacksBranch type value := by
  unfold InputClass.of LacksBranch
  by_cases boolean : type = .boolean
  · rw [if_pos boolean, if_pos boolean]
    split
    · exact Iff.rfl
    · exact Iff.rfl
  · rw [if_neg boolean, if_neg boolean]
    by_cases empty : Text.blank value = true
    · rw [if_pos empty]
      exact iff_of_true rfl (.inl empty)
    · rw [if_neg empty, or_iff_right empty]
      exact Iff.rfl

theorem map_some_ne_ok_none {ε α : Type} (result : Except ε α) : some <$> result ≠ .ok none := by
  cases result <;> exact nofun

namespace Filter

variable {f : Filter}

theorem compile_eq_none_iff {r : Rule} (ruled : f.rule = some r) :
    f.compile = .ok none ↔ r.LacksBranch f.valueType f.value := by
  rw [← Rule.clauseFor_eq_none_iff, compile, ruled, Option.bind_some]
  cases r.clauseFor (.of f.valueType f.value) with
  | none => exact iff_of_true rfl rfl
  | some c => exact iff_of_false (map_some_ne_ok_none _) (Option.some_ne_none c)

/-! ## Filters without a rule -/

/-- What a filter is without a rule: a clause that predates rules, nothing, or none of these, by its
mode, its target and its value. -/
theorem legacy_cases (named : Text.blank f.targetAttr = false) :
    ((f.AsksPositive ∨ f.HasOldTarget ∧ isTruthy f.value = true) ∧ ∃ c, f.legacy = .clause c) ∨
      (¬ f.AsksPositive ∧ f.HasOldTarget ∧ isTruthy f.value = false ∧ f.legacy = .noClause) ∨
      (¬ f.AsksPositive ∧ ¬ f.HasOldTarget ∧ f.legacy = .notRecognized) := by
  have mode : (decide (f.valueType = .boolean) && f.isPositiveNumber) = true ↔ f.AsksPositive := by
    rw [Bool.and_eq_true, decide_eq_true_eq, AsksPositive]
  have old : f.HasOldTarget ↔ sameIgnoringAsciiCase (trim f.targetAttr) excludeGratings = true ∨
      sameIgnoringAsciiCase (trim f.targetAttr) excludeExisting = true := by
    rw [HasOldTarget, isLegacyTarget, Bool.or_eq_true]
  simp only [legacy, nonBlank?_of_not_blank named]
  by_cases positive : f.AsksPositive
  · rw [if_pos (mode.mpr positive)]
    exact .inl ⟨.inl positive, _, rfl⟩
  · rw [if_neg (mt mode.mp positive)]
    split
    · next existing =>
      split
      · next truthy => exact .inl ⟨.inr ⟨old.mpr (.inr existing), truthy⟩, _, rfl⟩
      · next off =>
        exact .inr (.inl ⟨positive, old.mpr (.inr existing), Bool.eq_false_iff.mpr off, rfl⟩)
    · next notExisting =>
      split
      · next gratings =>
        split
        · next truthy => exact .inl ⟨.inr ⟨old.mpr (.inl gratings), truthy⟩, _, rfl⟩
        · next off =>
          exact .inr (.inl ⟨positive, old.mpr (.inl gratings), Bool.eq_false_iff.mpr off, rfl⟩)
      · next notGratings =>
        exact .inr (.inr ⟨positive, fun found => (old.mp found).elim notGratings notExisting, rfl⟩)

theorem targetCondition_eq_none_iff :
    f.targetCondition = .ok none ↔
      f.targetType ≠ none ∧ ∀ piece ∈ pieces f.value.toList, ∀ c ∈ piece, isBlank c = true := by
  rw [← splitValues_eq_nil_iff, targetCondition]
  cases f.targetType with
  | none => exact iff_of_false nofun fun typed => typed.1 rfl
  | some type =>
      cases splitValues f.value with
      | nil => exact iff_of_true rfl ⟨nofun, rfl⟩
      | cons first others => exact iff_of_false nofun fun none_ => nomatch none_.2

/-! ## Silence -/

/-- A filter without a rule asks for nothing if it is switched off or has no value. -/
theorem asksNothing_of_unruled_iff (named : Text.blank f.targetAttr = false)
    (unruled : f.rule = none) :
    f.AsksNothing ↔ ¬ f.AsksPositive ∧
      (f.HasOldTarget ∧ isTruthy f.value = false ∨
        ¬ f.HasOldTarget ∧ f.targetCondition = .ok none) := by
  rw [targetCondition_eq_none_iff]
  constructor
  · intro nothing
    cases nothing with
    | noTarget blank => rw [named] at blank; cases blank
    | noBranch r ruled => rw [unruled] at ruled; cases ruled
    | switchedOff _ other old off => exact ⟨other, .inl ⟨old, off⟩⟩
    | noValue _ other new typed blanks => exact ⟨other, .inr ⟨new, typed, blanks⟩⟩
  · rintro ⟨other, ⟨old, off⟩ | ⟨new, typed, blanks⟩⟩
    · exact .switchedOff unruled other old off
    · exact .noValue unruled other new typed blanks

/-- A filter with a rule asks for nothing if the rule has no branch for its value. -/
theorem asksNothing_of_ruled_iff (named : Text.blank f.targetAttr = false) {r : Rule}
    (ruled : f.rule = some r) : f.AsksNothing ↔ r.LacksBranch f.valueType f.value := by
  constructor
  · intro nothing
    cases nothing with
    | noTarget blank => rw [named] at blank; cases blank
    | noBranch r' ruled' lacking =>
        rw [ruled] at ruled'
        exact Option.some.inj ruled' ▸ lacking
    | switchedOff unruled => rw [ruled] at unruled; cases unruled
    | noValue unruled => rw [ruled] at unruled; cases unruled
  · exact .noBranch r ruled

/-- A filter has no condition and no notice exactly if it asks for nothing. -/
theorem condition_eq_none_iff : f.condition = .ok none ↔ f.AsksNothing := by
  cases named : Text.blank f.targetAttr with
  | true => exact iff_of_true (by rw [condition, named, if_pos rfl]) (.noTarget named)
  | false =>
      rw [condition, named, if_neg Bool.false_ne_true]
      cases ruled : f.rule with
      | some r =>
          rw [asksNothing_of_ruled_iff named ruled, ← compile_eq_none_iff ruled,
            Option.isSome_some, if_pos rfl]
          match f.compile with
          | .error reason => exact iff_of_false nofun nofun
          | .ok none => exact iff_of_true rfl rfl
          | .ok (some c) => exact iff_of_false (map_some_ne_ok_none _) nofun
      | none =>
          rw [asksNothing_of_unruled_iff named ruled, Option.isSome_none,
            if_neg Bool.false_ne_true]
          rcases legacy_cases named with ⟨active, c, is⟩ | ⟨other, old, off, is⟩ | ⟨other, new, is⟩
          · rw [is]
            refine iff_of_false (map_some_ne_ok_none _) ?_
            rintro ⟨other, inactive⟩
            obtain ⟨old, truthy⟩ := active.resolve_left other
            rcases inactive with ⟨-, off⟩ | ⟨new, -⟩
            · rw [truthy] at off
              cases off
            · exact new old
          · rw [is]
            exact iff_of_true rfl ⟨other, .inl ⟨old, off⟩⟩
          · rw [is, and_iff_right other, and_iff_right new, or_iff_right fun found => new found.1]

/-- **Every filter is compiled, reported or asks for nothing.**  Building a filter leaves the
messages that are there in their place.  It makes a condition without a message, or no condition and
one message that names the phase, or neither; and it makes neither exactly of a filter that asks for
nothing. -/
theorem build_settles (f : Filter) (phase : Int32) (said : List String) :
    ∃ added, (f.build phase).run said = some (f.condition?, said ++ added) ∧
      added = (Criteria.notices ⟨phase, [f]⟩).map QueryNotice.message ∧
      (f.condition? ≠ none ∧ added = [] ∨
        f.condition? = none ∧ (∃ reason, added = [phaseWords phase ++ reason]) ∨
        f.condition? = none ∧ added = []) ∧
      (f.condition? = none ∧ added = [] ↔ f.AsksNothing) := by
  have notices : f.messages phase = (Criteria.notices ⟨phase, [f]⟩).map QueryNotice.message := by
    rw [Criteria.message_notices, List.flatMap_singleton]
  refine ⟨f.messages phase, f.run_build phase said, notices, ?_⟩
  rw [← condition_eq_none_iff, messages, notice?, condition?]
  cases f.condition with
  | error notice =>
      refine ⟨.inr (.inl ⟨rfl, notice.message, rfl⟩), ?_⟩
      simp
  | ok found =>
      cases found with
      | none => exact ⟨.inr (.inr ⟨rfl, rfl⟩), iff_of_true ⟨rfl, rfl⟩ rfl⟩
      | some p =>
          refine ⟨.inl ⟨Option.some_ne_none p, rfl⟩, ?_⟩
          simp

end Filter

end PhaseTable
