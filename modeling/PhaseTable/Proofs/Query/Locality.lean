/-
# PhaseTable.Proofs.Query.Locality -- the phases of a query do not touch each other

A query is compiled phase by phase.  `Query.groupsOf` and `Query.noticesOn` are its view of
one phase: the groups that begin with the test for its number, and what is said about it.
The view of a phase is the whole query for the criteria of that phase (`Query.view_eq`), so
two selections that have the same filters for the same phases, however their criteria are
split and interleaved, have one query (`Query.ofSelection_congr`).

A filter that is added last adds to the group of its phase or to no group at all
(`Query.group_concat`).
-/
import PhaseTable.Proofs.Query.Groups

namespace PhaseTable

set_option autoImplicit false

def QueryNotice.phase : QueryNotice → Int32
  | .invalidPhase phase => phase
  | .filter phase _ => phase

@[simp] theorem QueryNotice.phase_invalidPhase (n : Int32) : (invalidPhase n).phase = n := rfl

theorem Criteria.phase_of_notices {c : Criteria} {notice : QueryNotice}
    (said : notice ∈ c.notices) : notice.phase = c.phase := by
  obtain ⟨f, -, made⟩ := List.mem_filterMap.mp said
  obtain ⟨reason, -, rfl⟩ := Option.map_eq_some_iff.mp made
  rfl

/-! ## The view of one phase -/

/-- The tree is a group for the phase: its first member is the test for the number. -/
def Predicate.isGroupOf (phase : Int32) (p : Predicate) : Bool :=
  p.children.head? = some (Criteria.phaseTest phase)

theorem Criteria.isGroupOf_group (c : Criteria) (n : Int32) :
    c.group.isGroupOf n = decide (c.phase = n) := by
  simp [Predicate.isGroupOf, Criteria.group, Predicate.children, phaseTest_inj]

namespace Query

def groupsOf (q : Query) (n : Int32) : List Predicate :=
  q.predicate.children.filter (·.isGroupOf n)

def noticesOn (q : Query) (n : Int32) : List QueryNotice :=
  q.notices.filter (·.phase = n)

def groupsBeside (q : Query) (n : Int32) : List Predicate :=
  q.predicate.children.filter (!·.isGroupOf n)

def criteriaFor (selection : List Criteria) (n : Int32) : List Criteria :=
  selection.filter (·.phase = n)

theorem positivePhases_filter (selection : List Criteria) (p : Int32 → Bool) :
    positivePhases (selection.filter (p ·.phase)) = (positivePhases selection).filter p := by
  rw [positivePhases, positivePhases, selectionPhases_filter, List.filter_filter,
    List.filter_filter]
  simp only [Bool.and_comm]

theorem invalidPhases_filter (selection : List Criteria) (p : Int32 → Bool) :
    invalidPhases (selection.filter (p ·.phase)) = (invalidPhases selection).filter p := by
  rw [invalidPhases, invalidPhases, selectionPhases_filter, List.filter_filter,
    List.filter_filter]
  simp only [Bool.and_comm]

theorem notices_ofSelection (selection : List Criteria) :
    (ofSelection selection).notices = (invalidPhases selection).map .invalidPhase ++
      (positivePhases selection).flatMap fun n => (Criteria.ofPhase selection n).notices := by
  simp only [ofSelection, invalidPhaseNotices, normalizeSelection_eq, List.flatMap_map]

/-- What counts for a phase counts in its own criteria. -/
theorem ofPhase_criteriaFor (selection : List Criteria) (n : Int32) :
    Criteria.ofPhase (criteriaFor selection n) n = Criteria.ofPhase selection n := by
  rw [Criteria.ofPhase, criteriaFor, filtersOf_filter_self, Criteria.ofPhase]

theorem groupsOf_ofSelection (selection : List Criteria) (n : Int32) :
    (ofSelection selection).groupsOf n =
      ((positivePhases selection).filter (· = n)).map fun m =>
        (Criteria.ofPhase selection m).group := by
  rw [groupsOf, children_ofSelection, List.filter_map]
  simp only [Function.comp_def, Criteria.isGroupOf_group]
  rfl

theorem groupsBeside_ofSelection (selection : List Criteria) (n : Int32) :
    (ofSelection selection).groupsBeside n =
      ((positivePhases selection).filter (· ≠ n)).map fun m =>
        (Criteria.ofPhase selection m).group := by
  rw [groupsBeside, children_ofSelection, List.filter_map]
  simp only [Function.comp_def, Criteria.isGroupOf_group, decide_not]
  rfl

theorem filter_notices (c : Criteria) (n : Int32) :
    c.notices.filter (·.phase = n) = if c.phase = n then c.notices else [] := by
  split
  · next same =>
    refine List.filter_eq_self.mpr fun notice said => ?_
    simp [Criteria.phase_of_notices said, same]
  · next other =>
    refine List.filter_eq_nil_iff.mpr fun notice said => ?_
    simp [Criteria.phase_of_notices said, other]

theorem noticesOn_ofSelection (selection : List Criteria) (n : Int32) :
    (ofSelection selection).noticesOn n =
      ((invalidPhases selection).filter (· = n)).map .invalidPhase ++
        ((positivePhases selection).filter (· = n)).flatMap fun m =>
          (Criteria.ofPhase selection m).notices := by
  rw [noticesOn, notices_ofSelection, List.filter_append, List.filter_map, List.filter_flatMap,
    flatMap_filter]
  simp only [filter_notices, Function.comp_def, QueryNotice.phase_invalidPhase]
  rfl

/-! ## Selections with the same filters for the same phases -/

/-- The selections mention the same phases, and for each of them they have the same filters in the
same order; how these are spread over criteria may differ. -/
structure SamePhaseFilters (s t : List Criteria) : Prop where
  phases : ∀ n, (∃ c ∈ s, c.phase = n) ↔ ∃ c ∈ t, c.phase = n
  filters : ∀ n, filtersOf s n = filtersOf t n

theorem ofSelection_congr {s t : List Criteria} (same : SamePhaseFilters s t) :
    ofSelection s = ofSelection t := by
  have phases := selectionPhases_congr same.phases
  have counting : Criteria.ofPhase s = Criteria.ofPhase t := by
    funext n
    rw [Criteria.ofPhase, same.filters, Criteria.ofPhase]
  have normalized : normalizeSelection s = normalizeSelection t := by
    rw [normalizeSelection_eq, normalizeSelection_eq, counting, positivePhases, positivePhases,
      phases]
  simp only [ofSelection, normalized, invalidPhaseNotices, invalidPhases, phases]

/-- The view of a phase is the query for the criteria of the phase. -/
theorem view_eq (selection : List Criteria) (n : Int32) :
    (ofSelection selection).groupsOf n =
        (ofSelection (criteriaFor selection n)).predicate.children ∧
      (ofSelection selection).noticesOn n =
        (ofSelection (criteriaFor selection n)).notices := by
  -- both sides run over the phases that are `n`
  have own : ∀ m ∈ (positivePhases selection).filter (· = n),
      Criteria.ofPhase (criteriaFor selection n) m = Criteria.ofPhase selection m := by
    intro m listed
    obtain rfl : m = n := by simpa using (List.mem_filter.mp listed).2
    exact ofPhase_criteriaFor selection m
  have positive : positivePhases (criteriaFor selection n) =
      (positivePhases selection).filter (· = n) :=
    positivePhases_filter selection (· = n)
  have invalid : invalidPhases (criteriaFor selection n) =
      (invalidPhases selection).filter (· = n) :=
    invalidPhases_filter selection (· = n)
  constructor
  · rw [groupsOf_ofSelection, children_ofSelection, positive]
    exact List.map_congr_left fun m listed => by rw [own m listed]
  · rw [noticesOn_ofSelection, notices_ofSelection, positive, invalid]
    congr 1
    exact List.flatMap_congr fun m listed => by rw [own m listed]

/-- The notices on a phase number are those on its filters. -/
theorem noticesOn_of_mem {selection : List Criteria} {n : Int32}
    (listed : n ∈ positivePhases selection) :
    (ofSelection selection).noticesOn n = (Criteria.ofPhase selection n).notices := by
  have valid : (invalidPhases selection).filter (· = n) = [] := by
    refine List.filter_eq_nil_iff.mpr fun m refused => ?_
    have positive : 0 < n := (mem_positivePhases.mp listed).1
    have negative : m ≤ 0 := by simpa using (List.mem_filter.mp refused).2
    simpa using fun same : m = n => Int32.not_lt.mpr negative (same ▸ positive)
  rw [noticesOn_ofSelection, valid,
    OrderedMap.filter_of_ascending (ascending_positivePhases selection), if_pos listed]
  exact List.append_nil _

/-- **Phases are compiled each by itself.**  The groups for a phase and the notices on it are the
whole query for its own criteria; the notices on refused phases come first, and then those on the
others, both ascending.  So it does not matter how the filters of the phases are split over criteria
and interleaved: selections with the same filters for the same phases have one query. -/
theorem compiles_phase_by_phase :
    (∀ selection n,
      (ofSelection selection).groupsOf n =
          (ofSelection (criteriaFor selection n)).predicate.children ∧
        (ofSelection selection).noticesOn n =
          (ofSelection (criteriaFor selection n)).notices) ∧
    (∀ selection, ∃ refused phases : List Int32,
      refused.Pairwise (· < ·) ∧ (∀ n, n ∈ refused ↔ n ≤ 0 ∧ ∃ c ∈ selection, c.phase = n) ∧
      phases.Pairwise (· < ·) ∧ (∀ n, n ∈ phases ↔ 0 < n ∧ ∃ c ∈ selection, c.phase = n) ∧
      (ofSelection selection).notices =
        refused.map .invalidPhase ++ phases.flatMap (ofSelection selection).noticesOn) ∧
    ∀ s t, SamePhaseFilters s t → ofSelection s = ofSelection t := by
  refine ⟨view_eq, fun selection => ?_, fun _ _ => ofSelection_congr⟩
  refine ⟨invalidPhases selection, positivePhases selection,
    (ascending_selectionPhases selection).filter _, fun n => ?_,
    ascending_positivePhases selection, fun n => mem_positivePhases, ?_⟩
  · rw [invalidPhases, List.mem_filter, mem_selectionPhases, decide_eq_true_eq, and_comm]
  · rw [notices_ofSelection]
    congr 1
    exact List.flatMap_congr fun n listed => (noticesOn_of_mem listed).symm

def profiled (value : String) : Filter :=
  { Filter.blank with targetType := some .part, targetAttr := "profile", value }

/-- Criteria for two phases, one of them split and with a filter that repeats another. -/
def scattered : List Criteria :=
  [⟨4, [profiled "HEA200"]⟩, ⟨0, []⟩, ⟨2, []⟩, ⟨4, [profiled "hea200", profiled "IPE100"]⟩,
    ⟨2, [profiled ";"]⟩]

/-- The same filters with one criterion for each phase. -/
def gathered : List Criteria :=
  [⟨2, [profiled ";"]⟩, ⟨4, [profiled "HEA200", profiled "hea200", profiled "IPE100"]⟩, ⟨0, []⟩]

theorem ofSelection_scattered_gathered :
    SamePhaseFilters scattered gathered ∧ ofSelection scattered = ofSelection gathered := by
  have same : SamePhaseFilters scattered gathered := by
    refine ⟨fun n => ?_, fun n => ?_⟩
    · simp only [scattered, gathered, List.mem_cons, exists_eq_or_imp, exists_eq_left,
        List.not_mem_nil, or_false]
      tauto
    · simp only [filtersOf, scattered, gathered, List.filter_cons]
      by_cases four : 4 = n
      · subst four
        rfl
      · by_cases two : 2 = n
        · subst two
          rfl
        · by_cases zero : 0 = n
          · subst zero
            rfl
          · simp [four, two, zero]
  exact ⟨same, compiles_phase_by_phase.2.2 scattered gathered same⟩

/-! ## A filter that is added -/

/-- The criterion that is added says nothing about other phases. -/
theorem ofPhase_concat_of_ne {selection : List Criteria} {n m : Int32} (other : m ≠ n)
    (f : Filter) :
    Criteria.ofPhase (selection ++ [⟨n, [f]⟩]) m = Criteria.ofPhase selection m := by
  have nothing : filtersOf [⟨n, [f]⟩] m = [] :=
    filtersOf_eq_nil (by simpa using other.symm)
  rw [Criteria.ofPhase, filtersOf_append, nothing, List.append_nil, Criteria.ofPhase]

theorem positivePhases_concat_beside (selection : List Criteria) (n : Int32) (f : Filter) :
    (positivePhases (selection ++ [⟨n, [f]⟩])).filter (· ≠ n) =
      (positivePhases selection).filter (· ≠ n) := by
  rw [← positivePhases_filter, ← positivePhases_filter, List.filter_append]
  simp

/-- The group of a phase, after a filter for it is added, goes on as it was before. -/
theorem group_concat (selection : List Criteria) (n : Int32) (f : Filter) :
    ∃ extra, extra.length ≤ 1 ∧
      (Criteria.ofPhase (selection ++ [⟨n, [f]⟩]) n).group =
        .and ((Criteria.ofPhase selection n).group.children ++ extra) := by
  have own : filtersOf [⟨n, [f]⟩] n = [f] := by simp [filtersOf]
  obtain ⟨extra, added, counted⟩ := countingFilters_concat (filtersOf selection n) f
  refine ⟨extra.filterMap Filter.condition?, ?_, ?_⟩
  · refine Nat.le_trans (List.length_filterMap_le _ _) ?_
    rcases added with rfl | rfl <;> simp
  · simp only [Criteria.ofPhase, filtersOf_append, own, counted, Criteria.group,
      Predicate.children, List.filterMap_append, List.cons_append]

/-- **A filter that is added narrows its own phase only.**  The other groups stay as they are.  The
group of the phase has the members that it had, in their order, or the test for its number if there
was no such group, and at most one more. -/
theorem groups_concat {n : Int32} (positive : 0 < n) (selection : List Criteria) (f : Filter) :
    let before := ofSelection selection
    let after := ofSelection (selection ++ [⟨n, [f]⟩])
    after.groupsBeside n = before.groupsBeside n ∧
      ∃ kept extra : List Predicate, extra.length ≤ 1 ∧ after.groupsOf n = [.and (kept ++ extra)] ∧
        ((∃ c ∈ selection, c.phase = n) → before.groupsOf n = [.and kept]) ∧
        ((¬ ∃ c ∈ selection, c.phase = n) →
          before.groupsOf n = [] ∧ kept = [Criteria.phaseTest n]) := by
  intro before after
  constructor
  · show (ofSelection _).groupsBeside n = (ofSelection _).groupsBeside n
    rw [groupsBeside_ofSelection, groupsBeside_ofSelection, positivePhases_concat_beside]
    refine List.map_congr_left fun m listed => ?_
    have other : m ≠ n := by simpa using (List.mem_filter.mp listed).2
    rw [ofPhase_concat_of_ne other]
  · obtain ⟨extra, short, grown⟩ := group_concat selection n f
    have listed : n ∈ positivePhases (selection ++ [⟨n, [f]⟩]) :=
      mem_positivePhases.mpr ⟨positive, ⟨n, [f]⟩, by simp, rfl⟩
    refine ⟨(Criteria.ofPhase selection n).group.children, extra, short, ?_, ?_, ?_⟩
    · show (ofSelection _).groupsOf n = _
      rw [groupsOf_ofSelection, OrderedMap.filter_of_ascending (ascending_positivePhases _),
        if_pos listed, List.map_singleton, grown]
    · intro mentioned
      show (ofSelection _).groupsOf n = _
      rw [groupsOf_ofSelection, OrderedMap.filter_of_ascending (ascending_positivePhases _),
        if_pos (mem_positivePhases.mpr ⟨positive, mentioned⟩)]
      rfl
    · intro absent
      have nothing : filtersOf selection n = [] :=
        filtersOf_eq_nil fun c member same => absent ⟨c, member, same⟩
      constructor
      · show (ofSelection _).groupsOf n = _
        rw [groupsOf_ofSelection, OrderedMap.filter_of_ascending (ascending_positivePhases _),
          if_neg fun there => absent (mem_positivePhases.mp there).2]
        rfl
      · rw [Criteria.ofPhase, nothing]
        rfl

/-- A filter that asks for a profile is added to a phase that has one. -/
theorem groups_concat_gathered :
    (0 : Int32) < 4 ∧ ∃ kept extra : List Predicate,
      (ofSelection gathered).groupsOf 4 = [.and kept] ∧ kept.length = 3 ∧ extra.length ≤ 1 ∧
        (ofSelection (gathered ++ [⟨4, [profiled "HEB300"]⟩])).groupsOf 4 =
          [.and (kept ++ extra)] ∧
        (ofSelection (gathered ++ [⟨4, [profiled "HEB300"]⟩])).groupsBeside 4 =
          (ofSelection gathered).groupsBeside 4 := by
  have positive : (0 : Int32) < 4 := by decide
  obtain ⟨beside, kept, extra, short, grown, before, -⟩ :=
    groups_concat positive gathered (profiled "HEB300")
  have found := before (by decide)
  have three : ((ofSelection gathered).groupsOf 4).map (·.children.length) = [3] := by decide
  rw [found] at three
  exact ⟨positive, kept, extra, found, by simpa [Predicate.children] using three, short, grown,
    beside⟩

end Query

end PhaseTable
