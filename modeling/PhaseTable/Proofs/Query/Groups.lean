/-
# PhaseTable.Proofs.Query.Groups -- a group for each phase that is selected

The query for a selection has one group for each of its positive phases, ascending, and
the group of a phase begins with the test for its number.  No filter can take a group away
or add one: whatever becomes of the filters of a phase, its number is asked for
(`Query.groups_of_selectedPhases`).

Phase numbers are numbers of 32 bits, so tests for different phases differ
(`Criteria.phaseTest_inj`), and the group of a phase is found by its test.
-/
import PhaseTable.Proofs.Number.Integers
import PhaseTable.Proofs.Selection
import PhaseTable.Query

namespace PhaseTable

set_option autoImplicit false

namespace Criteria

theorem phaseTest_inj {m n : Int32} : phaseTest m = phaseTest n ↔ m = n := by
  constructor
  · intro same
    simp only [phaseTest, Predicate.compareNumber, Predicate.leaf.injEq, Comparison.mk.injEq,
      Test.number.injEq, true_and] at same
    exact Binary64.ofInt_int32_injective same
  · rintro rfl
    rfl

/-- What counts of a selection for one phase. -/
def ofPhase (selection : List Criteria) (n : Int32) : Criteria :=
  ⟨n, countingFilters (filtersOf selection n)⟩

theorem leafCount_group_pos (c : Criteria) : 0 < c.group.leafCount := by
  simp only [group, phaseTest, Predicate.compareNumber, Predicate.leafCount, Predicate.leafCounts]
  omega

end Criteria

/-- The phases of a selection that are phase numbers, ascending. -/
def positivePhases (selection : List Criteria) : List Int32 :=
  (selectionPhases selection).filter (0 < ·)

theorem mem_positivePhases {selection : List Criteria} {n : Int32} :
    n ∈ positivePhases selection ↔ 0 < n ∧ ∃ c ∈ selection, c.phase = n := by
  rw [positivePhases, List.mem_filter, mem_selectionPhases, decide_eq_true_eq, and_comm]

theorem ascending_positivePhases (selection : List Criteria) :
    (positivePhases selection).Pairwise (· < ·) :=
  (ascending_selectionPhases selection).filter _

theorem positivePhases_eq_nil_iff {selection : List Criteria} :
    positivePhases selection = [] ↔ ¬ ∃ c ∈ selection, 0 < c.phase := by
  rw [List.eq_nil_iff_forall_not_mem]
  constructor
  · rintro none_ ⟨c, member, positive⟩
    exact none_ c.phase (mem_positivePhases.mpr ⟨positive, c, member, rfl⟩)
  · intro none_ n listed
    obtain ⟨positive, c, member, rfl⟩ := mem_positivePhases.mp listed
    exact none_ ⟨c, member, positive⟩

namespace Query

theorem normalizeSelection_eq (selection : List Criteria) :
    normalizeSelection selection = (positivePhases selection).map (Criteria.ofPhase selection) :=
  rfl

theorem predicate_ofSelection (selection : List Criteria) :
    (ofSelection selection).predicate =
      .or ((positivePhases selection).map fun n => (Criteria.ofPhase selection n).group) := by
  simp only [ofSelection, normalizeSelection_eq, List.map_map, Function.comp_def]

theorem children_ofSelection (selection : List Criteria) :
    (ofSelection selection).predicate.children =
      (positivePhases selection).map fun n => (Criteria.ofPhase selection n).group := by
  rw [predicate_ofSelection, Predicate.children]

/-! ## The groups of a query -/

/-- The query has one group for each chosen phase number and no other, ascending, and the group of
a phase begins with the test for its number. -/
def HasGroups (q : Query) (chosen : Int32 → Prop) : Prop :=
  ∃ (phases : List Int32) (conditions : Int32 → List Predicate),
    phases.Pairwise (· < ·) ∧ (∀ n, n ∈ phases ↔ 0 < n ∧ chosen n) ∧
      q.predicate = .or (phases.map fun n => .and (Criteria.phaseTest n :: conditions n))

theorem hasGroups_ofSelection (selection : List Criteria) :
    (ofSelection selection).HasGroups fun n => ∃ c ∈ selection, c.phase = n :=
  ⟨positivePhases selection,
    fun n => (Criteria.ofPhase selection n).filters.filterMap Filter.condition?,
    ascending_positivePhases selection, fun _ => mem_positivePhases,
    predicate_ofSelection selection⟩

/-- The tree is empty only if no phase is selected: every group has its test. -/
theorem isEmpty_ofSelection_eq_false_iff {selection : List Criteria} :
    (ofSelection selection).predicate.isEmpty = false ↔ ∃ c ∈ selection, 0 < c.phase := by
  rw [← not_iff_not, ← positivePhases_eq_nil_iff, predicate_ofSelection, Predicate.isEmpty,
    Predicate.leafCount]
  cases positivePhases selection with
  | nil => simp [Predicate.leafCounts]
  | cons n rest =>
      have counted := (Criteria.ofPhase selection n).leafCount_group_pos
      have some_ : (Criteria.ofPhase selection n).group.leafCount ≠ 0 := by omega
      simp [Predicate.leafCounts, some_]

/-- What applying a query does depends on the phases of its selection only. -/
theorem outcome_ofSelection (selection : List Criteria) :
    ApplyOutcome.of selection (ofSelection selection).predicate =
      if selection = [] then .cleared
      else if ∃ c ∈ selection, 0 < c.phase then .applied
      else .noValidCriteria := by
  simp only [ApplyOutcome.of, children_ofSelection, List.isEmpty_iff, List.map_eq_nil_iff,
    positivePhases_eq_nil_iff, ite_not]

/-- **No selected phase is lost, and none is made up.**  The query for the selected rows of a table
has one group for each positive phase of a selected row, whatever the columns are, and that of any
selection one for each of its positive phases.  The outcome tells the three cases apart: nothing is
selected, some phase is (and the tree is not empty), or no phase is. -/
theorem groups_of_selectedPhases :
    (∀ rows columns, (ofSelection (collectSelection rows columns)).HasGroups fun n =>
      ∃ row ∈ rows, row.selected = true ∧ row.phase = some n) ∧
    ∀ selection : List Criteria,
      let predicate := (ofSelection selection).predicate
      let outcome := ApplyOutcome.of selection predicate
      (ofSelection selection).HasGroups (fun n => ∃ c ∈ selection, c.phase = n) ∧
      (outcome = .cleared ↔ selection = []) ∧
      (outcome = .applied ↔ ∃ c ∈ selection, 0 < c.phase) ∧
      (outcome = .applied ↔ predicate.isEmpty = false) ∧
      (outcome = .noValidCriteria ↔ selection ≠ [] ∧ ¬ ∃ c ∈ selection, 0 < c.phase) := by
  constructor
  · intro rows columns
    obtain ⟨phases, conditions, ascending, listed, same⟩ :=
      hasGroups_ofSelection (collectSelection rows columns)
    refine ⟨phases, conditions, ascending, fun n => (listed n).trans ?_, same⟩
    exact and_congr_right fun _ => phases_of_collectSelection
  · intro selection predicate outcome
    have classified : outcome = _ := outcome_ofSelection selection
    have filled : predicate.isEmpty = false ↔ _ := isEmpty_ofSelection_eq_false_iff
    refine ⟨hasGroups_ofSelection selection, ?_⟩
    rw [filled, classified]
    by_cases nothing : selection = []
    · simp [nothing]
    · by_cases some_ : ∃ c ∈ selection, 0 < c.phase
      · simp [nothing, some_]
      · simp only [nothing, some_, if_false, reduceCtorEq, not_false_eq_true, ne_eq, and_self]

end Query

end PhaseTable
