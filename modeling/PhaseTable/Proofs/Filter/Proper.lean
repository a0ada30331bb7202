/-
# PhaseTable.Proofs.Filter.Proper -- the conditions of filters are proper

Whatever way a filter takes to its condition, it compares a named field with one value or
more, each of them trimmed and not blank or else a finite number.  So its condition is a
proper tree (`Filter.proper_of_condition`), and building it reads no list past its end
(`Filter.build_proper`).

The names of fields come from three places: what a clause says, the target of the filter, and
the query language itself.  They are trimmed in each.
-/
import PhaseTable.Proofs.Filter.Clause
import PhaseTable.Proofs.Number.Integers
import PhaseTable.Proofs.Predicate.Proper
import PhaseTable.Proofs.Query.Building
import PhaseTable.Proofs.Source
import PhaseTable.Proofs.Text.Pieces

namespace PhaseTable

set_option autoImplicit false

open Text

/-! ## Comparisons -/

theorem isFinite_of_valueNumber? {value : String} {x : Binary64}
    (number : valueNumber? value = some x) : x.isFinite = true := by
  rw [valueNumber?, Option.or_eq_some_iff] at number
  rcases number with parsed | ⟨-, word⟩
  · exact (Option.filter_eq_some_iff.mp parsed).2
  · split at word
    · rw [← Option.some.inj word]
      exact Binary64.isFinite_ofInt (by decide)
    · split at word
      · rw [← Option.some.inj word]
        exact Binary64.isFinite_ofInt (by decide)
      · cases word

theorem isFinite_of_mapM_valueNumber? {values : List String} {numbers : List Binary64}
    (made : values.mapM valueNumber? = some numbers) : ∀ x ∈ numbers, x.isFinite = true := by
  induction values generalizing numbers with
  | nil =>
      cases made
      exact List.forall_mem_nil _
  | cons value values ih =>
      rw [List.mapM_cons] at made
      obtain ⟨y, first, made⟩ := Option.bind_eq_some_iff.mp made
      obtain ⟨ys, rest, made⟩ := Option.bind_eq_some_iff.mp made
      cases made
      exact List.forall_mem_cons.mpr ⟨isFinite_of_valueNumber? first, ih rest⟩

namespace RuleOp

variable {op : RuleOp} {field first : String} {others : List String}

/-- A comparison with values is proper if the comparison with each of them is. -/
theorem proper_compare {α : Type} {leaf : α → Predicate} {first : α} {others : List α}
    (each : ∀ a ∈ first :: others, (leaf a).Proper) : (op.compare leaf first others).Proper := by
  rw [compare]
  split
  · exact Predicate.proper_anyOf (List.cons_ne_nil _ _) (List.forall_mem_map.mpr each)
  · exact each first List.mem_cons_self

theorem proper_compareTexts (named : Trimmed field) (values : ∀ v ∈ first :: others, Trimmed v) :
    (op.compareTexts field first others).Proper :=
  proper_compare fun v listed => Predicate.proper_compareText named op.textOp (values v listed)

theorem proper_compareNumbers (named : Trimmed field) {x : Binary64} {xs : List Binary64}
    (finite : ∀ y ∈ x :: xs, y.isFinite = true) : (op.compareNumbers field x xs).Proper :=
  proper_compare fun y listed => Predicate.proper_compareNumber named op.numberOp (finite y listed)

theorem trimmed_profileFields (objectType : Option ObjectType) :
    profileFields objectType ≠ [] ∧ ∀ field ∈ profileFields objectType, Trimmed field := by
  rcases objectType with _ | (_ | _ | _ | _) <;> decide

/-- There is a profile in every scope, so the group of the comparisons is not empty. -/
theorem proper_compareProfiles (objectType : Option ObjectType)
    (values : ∀ v ∈ first :: others, Trimmed v) :
    (op.compareProfiles objectType first others).Proper := by
  obtain ⟨some_, named⟩ := trimmed_profileFields objectType
  have nonempty : (profileFields objectType).map (op.compareTexts · first others) ≠ [] :=
    fun none_ => some_ (List.map_eq_nil_iff.mp none_)
  have each : ∀ p ∈ (profileFields objectType).map (op.compareTexts · first others), p.Proper :=
    List.forall_mem_map.mpr fun field listed => proper_compareTexts (named field listed) values
  simp only [compareProfiles]
  split
  · exact Predicate.proper_allOf nonempty each
  · exact Predicate.proper_anyOf nonempty each

end RuleOp

/-! ## Clauses -/

namespace ReadyClause

variable {c : ReadyClause} {type : ValueType} {p : Predicate}

theorem trimmed_values (c : ReadyClause) (input : String) : ∀ v ∈ c.values input, Trimmed v := by
  intro v listed
  unfold values at listed
  split at listed
  · exact trimmed_of_mem_splitValues listed
  · exact trimmed_of_mem_distinctNonBlank listed
  · exact trimmed_of_mem_splitValues listed
  · exact trimmed_of_nonBlank? (Option.mem_toList.mp listed)

theorem proper_of_compareField (named : Trimmed c.field) {first : String} {others : List String}
    (values : ∀ v ∈ first :: others, Trimmed v) (made : c.compareField type first others = .ok p) :
    p.Proper := by
  have texts : (c.op.compareTexts c.field first others).Proper :=
    RuleOp.proper_compareTexts named values
  rcases mapM_valueNumber?_cases first others with none_ | ⟨x, xs, numbers⟩
  · rw [c.compareField_of_texts type none_] at made
    split at made
    · cases made
    · cases made
      exact texts
  · rw [c.compareField_of_numbers type numbers] at made
    split at made
    · cases made
      exact RuleOp.proper_compareNumbers named (isFinite_of_mapM_valueNumber? numbers)
    · cases made
      exact texts

theorem proper_of_condition (named : Trimmed c.field) {input : String}
    (made : c.condition type input = .ok p) : p.Proper := by
  have trimmed := c.trimmed_values input
  unfold condition at made
  split at made
  · cases made
  · next first others listed =>
    rw [listed] at trimmed
    split at made
    · exact proper_of_compareField named trimmed made
    · split at made
      · cases made
      · cases made
        exact RuleOp.proper_compareProfiles _ trimmed

end ReadyClause

/-- The field of a clause is what the clause says, or else the target. -/
theorem Clause.trimmed_of_ready {c : Clause} {targetAttr : String} {ready : ReadyClause}
    (made : c.ready targetAttr = .ok ready) : Trimmed ready.field := by
  unfold Clause.ready at made
  split at made
  · cases made
  · split at made
    · cases made
    · next field found =>
      have trimmed : Trimmed field := by
        rcases Option.or_eq_some_iff.mp found with own | ⟨-, target⟩
        · exact trimmed_of_nonBlank? own
        · exact trimmed_of_nonBlank? target
      split at made
      · cases made
        exact trimmed
      · split at made
        · cases made
        · cases made
          exact trimmed

/-! ## Filters -/

theorem trimmed_partFields : ∀ entry ∈ partAttributes, Trimmed entry.2 := by
  decide

theorem trimmed_templateField? {type : ObjectType} {attr field : String}
    (found : templateField? type attr = some field) : Trimmed field := by
  unfold templateField? at found
  split at found
  · cases found
  · next source resolved =>
    split at found
    · cases found
    · have stored := (ModelSource.stores_of_resolve resolved).2
      cases type with
      | phase => cases found
      | part =>
          obtain ⟨entry, listed, rfl⟩ := Option.map_eq_some_iff.mp found
          exact trimmed_partFields entry (List.mem_of_find?_eq_some listed)
      | assembly | bolt =>
          cases found
          exact stored

namespace Filter

variable {f : Filter}

theorem trimmed_of_compile {c : ReadyClause} (made : f.compile = .ok (some c)) :
    Trimmed c.field := by
  rcases f.compile_cases with nothing | ⟨-, -, clause, -, -, -, same⟩
  · rw [nothing] at made
    cases made
  · rw [same] at made
    cases result : clause.ready f.targetAttr with
    | error reason => simp [result] at made
    | ok ready =>
        rw [result] at made
        cases made
        exact Clause.trimmed_of_ready result

theorem trimmed_profileField : Trimmed profileField := by
  decide

theorem trimmed_of_legacy {c : ReadyClause} (found : f.legacy = .clause c) : Trimmed c.field := by
  unfold legacy at found
  split at found
  · cases found
  · next target named =>
    split at found
    · cases found
      exact trimmed_of_nonBlank? named
    · split at found
      · split at found
        · cases found
          decide
        · cases found
      · split at found
        · split at found
          · cases found
            exact trimmed_profileField
          · cases found
        · cases found

theorem proper_of_targetCondition {p : Predicate} (named : Text.blank f.targetAttr = false)
    (made : f.targetCondition = .ok (some p)) : p.Proper := by
  unfold targetCondition at made
  split at made
  · cases made
  · next type _ =>
    split at made
    · cases made
    · next first others listed =>
      have trimmed : ∀ v ∈ first :: others, Trimmed v :=
        fun v member => trimmed_of_mem_splitValues (listed ▸ member)
      cases made
      refine RuleOp.proper_compareTexts ?_ trimmed
      cases found : templateField? type (trim f.targetAttr) with
      | some field => exact trimmed_templateField? found
      | none => exact trimmed_of_nonBlank? (nonBlank?_of_not_blank named)

/-- The condition of a filter is proper. -/
theorem proper_of_condition {p : Predicate} (made : f.condition = .ok (some p)) : p.Proper := by
  have of_clause : ∀ {c : ReadyClause}, Trimmed c.field →
      some <$> c.condition f.valueType f.value = .ok (some p) → p.Proper := by
    intro c named made
    cases result : c.condition f.valueType f.value with
    | error notice => simp [result] at made
    | ok q =>
        rw [result] at made
        cases made
        exact ReadyClause.proper_of_condition named result
  unfold condition at made
  split at made
  · cases made
  · next named =>
    split at made
    · split at made
      · cases made
      · cases made
      · next compiled => exact of_clause (trimmed_of_compile compiled) made
    · split at made
      · next found => exact of_clause (trimmed_of_legacy found) made
      · cases made
      · exact proper_of_targetCondition (by simpa using named) made

theorem condition?_eq_some_iff {p : Predicate} :
    f.condition? = some p ↔ f.condition = .ok (some p) := by
  unfold condition?
  cases f.condition with
  | ok condition? => simp
  | error notice => simp

/-- **No filter asks for something vacuous.**  Building a filter for a phase reads no list past its
end.  The condition that comes of it, if there is one, has two members or more in each of its
groups, and compares fields with trimmed names, none of them the phase, with finite numbers or
with trimmed texts. -/
theorem build_proper (f : Filter) (phase : Int32) (said : List String) :
    (∃ told, (f.build phase).run said = some (f.condition?, told)) ∧
      ∀ p, f.condition? = some p → p.Proper :=
  ⟨⟨_, f.run_build phase said⟩, fun _ made => proper_of_condition (condition?_eq_some_iff.mp made)⟩

/-- A filter for parts of one of two profiles, one of which is listed twice. -/
def listed : Filter :=
  { blank with
    targetType := some .part
    targetAttr := " Profile "
    value := "HEA200, ;IPE 300 ;HEA200" }

def listedProfiles : Predicate :=
  .or [.compareText (.custom "PROFILE") .equals "HEA200",
    .compareText (.custom "PROFILE") .equals "IPE 300"]

theorem build_proper_listed :
    (∃ told, (listed.build 1).run [] = some (some listedProfiles, told)) ∧
      listed.condition? = some listedProfiles ∧ listedProfiles.Proper := by
  have made : listed.condition? = some listedProfiles := by decide +kernel
  obtain ⟨built, proper⟩ := build_proper listed 1 []
  rw [made] at built
  exact ⟨built, made, proper listedProfiles made⟩

end Filter

end PhaseTable
