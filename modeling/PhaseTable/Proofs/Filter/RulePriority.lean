/-
# PhaseTable.Proofs.Filter.RulePriority -- a filter with a rule is what its rule makes of it

A filter takes one way to its condition.  Once it has a rule, the rule is that way: if the rule has
no clause for the value, or one that cannot be used, there is no condition, and neither the clauses
that predate rules nor the target are tried instead.  Those other ways read the kind of object and
the mode of a filter, which the rule never reads (`Filter.condition_retargeted`), and a condition is
always that of the rule's own clause, on the field of the clause (`Filter.clause_of_condition`).

So what is built of the filter is settled by its rule, its type, its value and its target attribute
(`Filter.build_of_rule`).
-/
import PhaseTable.Proofs.Filter.CheckedRule
import PhaseTable.Proofs.Filter.Proper

namespace PhaseTable

set_option autoImplicit false

namespace Filter

variable {f : Filter} {r : Rule}

/-- The messages of a filter name the phase and nothing else of it. -/
theorem messages_eq (f : Filter) (phase : Int32) :
    f.messages phase =
      (f.notice?.map FilterNotice.message).toList.map (phaseWords phase ++ ·) := by
  rw [messages]
  cases f.notice? <;> rfl

/-- The condition of a filter with a rule: that of the rule's clause, if there is one. -/
theorem condition_of_rule (ruled : f.rule = some r) :
    f.condition =
      if Text.blank f.targetAttr then .ok none
      else
        match f.compile with
        | .error reason => .error (.clause reason)
        | .ok none => .ok none
        | .ok (some c) => some <$> c.condition f.valueType f.value := by
  have same : f.withRule r = f := by rw [withRule, ← ruled]
  have own := f.condition_withRule r
  rwa [same] at own

/-- A rule asks neither for the kind of object nor for the mode of its filter. -/
theorem condition_retargeted (ruled : f.rule = some r) (targetType : Option ObjectType)
    (booleanMode : String) : { f with targetType, booleanMode }.condition = f.condition := by
  have ruled' : { f with targetType, booleanMode }.rule = some r := ruled
  rw [condition_of_rule ruled', condition_of_rule ruled]
  rfl

/-- What is made of a filter with a rule is the condition of the rule's clause, on its field. -/
theorem clause_of_condition (ruled : f.rule = some r) {p : Predicate}
    (made : f.condition = .ok (some p)) :
    ∃ c, f.compile = .ok (some c) ∧ c.scope = .field ∧ c.condition f.valueType f.value = .ok p := by
  rw [condition_of_rule ruled] at made
  split at made
  · cases made
  · split at made
    · cases made
    · cases made
    · next c compiled =>
      refine ⟨c, compiled, scope_of_compile compiled, ?_⟩
      cases asked : c.condition f.valueType f.value with
      | error notice =>
          rw [asked] at made
          cases made
      | ok q =>
          rw [asked] at made
          cases made
          rfl

/-- **A filter with a rule never falls through to another way.**  Whatever kind of object and mode
it has, and for whatever phase and after whatever messages it is built, it has the same condition
and the same reasons to have none, told with the words of the phase.  The condition is that of the
clause that its rule has for its value, and there is none if there is no such clause. -/
theorem build_of_rule (ruled : f.rule = some r) :
    ∃ (made : Option Predicate) (reasons : List String),
      (∀ targetType booleanMode phase said,
        ({ f with targetType, booleanMode }.build phase).run said =
          some (made, said ++ reasons.map (phaseWords phase ++ ·))) ∧
      ∀ p, made = some p →
        ∃ c, f.compile = .ok (some c) ∧ c.scope = .field ∧
          c.condition f.valueType f.value = .ok p := by
  refine ⟨f.condition?, (f.notice?.map FilterNotice.message).toList, ?_, ?_⟩
  · intro targetType booleanMode phase said
    have same := condition_retargeted ruled targetType booleanMode
    rw [run_build, messages_eq, condition?, condition?, notice?, notice?, same]
  · intro p made
    exact clause_of_condition ruled (condition?_eq_some_iff.mp made)

/-- An old filter that is switched on and asks for positive numbers, with a rule that has a clause
for false only. -/
def overruled : Filter where
  targetType := some .part
  targetAttr := excludeExisting
  booleanMode := positiveNumber
  rule := some ⟨none, some ⟨"", "eq", .int 0⟩, none⟩
  valueType := .boolean
  value := "true"

theorem build_of_rule_overruled :
    overruled.rule = some ⟨none, some ⟨"", "eq", .int 0⟩, none⟩ ∧
    ∀ targetType booleanMode phase said,
      ({ overruled with targetType, booleanMode }.build phase).run said = some (none, said) := by
  have ruled : overruled.rule = some ⟨none, some ⟨"", "eq", .int 0⟩, none⟩ := rfl
  obtain ⟨made, reasons, same, -⟩ := build_of_rule ruled
  -- it is silent as it stands, so there is nothing that could be made or told of it
  have silent : (overruled.build 1).run [] = some (none, []) := by decide
  have settled := (same overruled.targetType overruled.booleanMode 1 []).symm.trans silent
  obtain ⟨rfl, told⟩ := Prod.mk.inj (Option.some.inj settled)
  obtain rfl : reasons = [] := List.map_eq_nil_iff.mp told
  refine ⟨ruled, fun targetType booleanMode phase said => ?_⟩
  rw [same, List.map_nil, List.append_nil]

end Filter

end PhaseTable
