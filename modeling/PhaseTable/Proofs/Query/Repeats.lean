/-
# PhaseTable.Proofs.Query.Repeats -- filters that repeat others

A filter that repeats the signature of an earlier one of its phase is left out of the query.
Nothing is lost with it if the filters can be told from their signatures
(`Filter.Separable`): the one that stays has the same outcome
(`normalizeSelection_keeps_outcomes`), and the query asks for what it would ask for with all
repeats in it (`Query.sameUpToCase_withRepeats`).

In general something is lost.  A missing value of a rule and a blank one have one signature,
but a clause without a value compares with the input and a blank one with nothing
(`countingFilters_loses_condition`).
-/
import PhaseTable.Proofs.Filter.Signature
import PhaseTable.Proofs.Query.Groups

namespace PhaseTable

set_option autoImplicit false

open Text

/-- The filters that can be used can be told from their signatures. -/
def SeparableFilters (filters : List Filter) : Prop :=
  ∀ f ∈ filters, f.isUsable = true → f.Separable

theorem exists_counting_alike {filters : List Filter} (separable : SeparableFilters filters)
    {f : Filter} (listed : f ∈ filters) (usable : f.isUsable = true) :
    ∃ g ∈ countingFilters filters, g.signature = f.signature ∧ g.Alike f := by
  have member : f ∈ filters.filter Filter.isUsable := List.mem_filter.mpr ⟨listed, usable⟩
  obtain ⟨g, kept, same⟩ : ∃ g ∈ countingFilters filters, g.signature = f.signature :=
    exists_kept_of_mem member
  obtain ⟨listed', usable'⟩ := mem_of_countingFilters kept
  have alike := (separable g listed' usable').alike (separable f listed usable) same
  exact ⟨g, kept, same, alike⟩

/-- **The filter that a repeat is left out for has the same outcome.** -/
theorem normalizeSelection_keeps_outcomes {selection : List Criteria} {n : Int32} (valid : 0 < n)
    (separable : SeparableFilters (filtersOf selection n)) {f : Filter}
    (listed : f ∈ filtersOf selection n) (usable : f.isUsable = true) :
    ∃ c ∈ normalizeSelection selection, c.phase = n ∧
      ∃ g ∈ c.filters, g.signature = f.signature ∧ g.SameOutcome f := by
  obtain ⟨criteria, mentioned, phase, -⟩ := mem_filtersOf.mp listed
  have selected : n ∈ positivePhases selection :=
    mem_positivePhases.mpr ⟨valid, criteria, mentioned, phase⟩
  obtain ⟨g, kept, same, alike⟩ := exists_counting_alike separable listed usable
  refine ⟨Criteria.ofPhase selection n, ?_, rfl, g, kept, same, alike.sameOutcome⟩
  rw [Query.normalizeSelection_eq]
  exact List.mem_map_of_mem selected

/-- A filter on the names of parts, with a value for its clause. -/
def onName (value : Json) (input : String) : Filter :=
  { Filter.blank with
    targetType := some .part
    targetAttr := "name"
    rule := some ⟨none, none, some ⟨"NAME", "eq", value⟩⟩
    value := input }

/-- Two filters that ask for one name, in capitals and in small letters. -/
def twiceBeam : List Criteria :=
  [⟨1, [onName .null "BEAM"]⟩, ⟨1, [onName .null "beam"]⟩]

theorem separable_onName {input : String} (colonless : ':' ∉ input.toList) :
    (onName .null input).Separable := by
  have target : ':' ∉ "name".toList := by decide
  have mode : ':' ∉ "".toList := by decide
  refine ⟨target, mode, colonless, ?_⟩
  intro r given branch c found
  obtain rfl := Option.some.inj given
  cases branch with
  | onTrue => cases found
  | onFalse => cases found
  | onValue =>
      obtain rfl := Option.some.inj found
      exact ⟨by decide, by decide, by decide, fun _ => rfl⟩

theorem normalizeSelection_twiceBeam :
    normalizeSelection twiceBeam = [⟨1, [onName .null "BEAM"]⟩] ∧
      (onName .null "BEAM").SameOutcome (onName .null "beam") := by
  have normalized : normalizeSelection twiceBeam = [⟨1, [onName .null "BEAM"]⟩] := by
    decide +kernel
  have filters : filtersOf twiceBeam 1 = [onName .null "BEAM", onName .null "beam"] := by decide
  have separable : SeparableFilters (filtersOf twiceBeam 1) := by
    rw [filters]
    intro f listed _
    rcases List.mem_pair.mp listed with rfl | rfl
    · exact separable_onName (by decide)
    · exact separable_onName (by decide)
  have listed : onName .null "beam" ∈ filtersOf twiceBeam 1 := by simp [filters]
  obtain ⟨c, member, -, g, kept, -, same⟩ :=
    normalizeSelection_keeps_outcomes (by decide) separable listed (by decide)
  rw [normalized, List.mem_singleton] at member
  rw [member, List.mem_singleton] at kept
  exact ⟨normalized, kept ▸ same⟩

/-- A clause without a value compares with the input, one with a blank value with nothing; but they
have one signature, so the first is lost with the second. -/
theorem countingFilters_loses_condition :
    (onName (.str "") "BEAM").isUsable = true ∧ (onName .null "BEAM").isUsable = true ∧
    (onName (.str "") "BEAM").signature = (onName .null "BEAM").signature ∧
    (onName (.str "") "BEAM").condition = .error (.clause (.emptyLiteral "NAME")) ∧
    (onName .null "BEAM").condition =
      .ok (some (.compareText (.custom "NAME") .equals "BEAM")) ∧
    Query.ofSelection [⟨1, [onName (.str "") "BEAM", onName .null "BEAM"]⟩] =
      ⟨.or [.and [Criteria.phaseTest 1]], [.filter 1 (.clause (.emptyLiteral "NAME"))]⟩ := by
  decide +kernel

/-! ## A query with all repeats -/

/-- All filters that can be used for one phase. -/
def Criteria.withRepeats (selection : List Criteria) (n : Int32) : Criteria :=
  ⟨n, (filtersOf selection n).filter Filter.isUsable⟩

/-- What a filter asks for holds, if it asks for anything. -/
def Filter.satisfied (holds : Comparison → Bool) (f : Filter) : Bool :=
  f.condition?.all (·.eval holds)

theorem Filter.SameOutcome.satisfied_eq {f g : Filter} (same : f.SameOutcome g)
    {holds : Comparison → Bool} (blind : CaseBlind holds) :
    f.satisfied holds = g.satisfied holds := by
  have conditions := same.conditions
  unfold Filter.satisfied
  generalize f.condition? = p? at conditions ⊢
  generalize g.condition? = q? at conditions ⊢
  cases conditions with
  | none => rfl
  | some related => exact related holds blind

theorem Criteria.eval_group (c : Criteria) (holds : Comparison → Bool) :
    c.group.eval holds =
      ((phaseTest c.phase).eval holds && c.filters.all (Filter.satisfied holds)) := by
  rw [group, Predicate.eval, Predicate.evalAll_eq_all, List.all_cons, List.all_filterMap]
  rfl

theorem all_satisfied_countingFilters {filters : List Filter}
    (separable : SeparableFilters filters) {holds : Comparison → Bool} (blind : CaseBlind holds) :
    (countingFilters filters).all (Filter.satisfied holds) =
      (filters.filter Filter.isUsable).all (Filter.satisfied holds) := by
  rw [Bool.eq_iff_iff, List.all_eq_true, List.all_eq_true]
  constructor
  · intro kept f member
    obtain ⟨listed, usable⟩ := List.mem_filter.mp member
    obtain ⟨g, counts, -, alike⟩ := exists_counting_alike separable listed usable
    rw [← alike.sameOutcome.satisfied_eq blind]
    exact kept g counts
  · intro all_ f counts
    exact all_ f (List.mem_filter.mpr (mem_of_countingFilters counts))

/-- **The query asks for the same with all repeats in it.** -/
theorem Query.sameUpToCase_withRepeats {selection : List Criteria}
    (separable : ∀ n ∈ positivePhases selection, SeparableFilters (filtersOf selection n)) :
    (ofSelection selection).predicate.SameUpToCase
      (.or ((positivePhases selection).map fun n => (Criteria.withRepeats selection n).group)) := by
  intro holds blind
  -- the trees have groups for the same phases, so it is enough to compare them phase by phase
  have groups : ∀ n ∈ positivePhases selection,
      (Criteria.ofPhase selection n).group.eval holds =
        (Criteria.withRepeats selection n).group.eval holds := by
    intro n selected
    have filters := all_satisfied_countingFilters (separable n selected) blind
    rw [Criteria.eval_group, Criteria.eval_group]
    exact congrArg ((Criteria.phaseTest n).eval holds && ·) filters
  rw [predicate_ofSelection, Predicate.eval, Predicate.eval, Predicate.evalAny_eq_any,
    Predicate.evalAny_eq_any, List.any_map, List.any_map, Bool.eq_iff_iff, List.any_eq_true,
    List.any_eq_true]
  apply exists_congr
  intro n
  apply and_congr_right
  intro selected
  rw [Function.comp_apply, Function.comp_apply, groups n selected]

end PhaseTable
