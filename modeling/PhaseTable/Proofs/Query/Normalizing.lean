/-
# PhaseTable.Proofs.Query.Normalizing -- the normal form of a selection

The pass over the groups of a selection keeps the groups of phase numbers and tells of the others
(`run_normalize`): it leaves what `normalizeSelection` says.  Building a query begins with it
(`Query.build_eq`).

A selection is normal if its phases are phase numbers and ascend, and if the filters of a phase
are usable and have different signatures (`Normal`).  What is left of a selection is normal, and a
normal selection is left as it is (`normalizeSelection_of_normal`).
-/
import PhaseTable.Proofs.OrderedMap.Values
import PhaseTable.Proofs.Query.Building
import PhaseTable.Proofs.Query.Groups

namespace PhaseTable

set_option autoImplicit false

open Text

/-! ## One pass -/

theorem entries_groupFilters (selection : List Criteria) :
    (groupFilters selection).entries =
      (selectionPhases selection).map fun n => (n, filtersOf selection n) :=
  OrderedMap.entries_gather Criteria.phase Criteria.filters selection

def keptGroup? (phase : Int32) (filters : List Filter) : Option Criteria :=
  if 0 < phase then some ⟨phase, countingFilters filters⟩ else none

def groupNotices (phase : Int32) : List QueryNotice :=
  if phase ≤ 0 then [.invalidPhase phase] else []

theorem run_normalizeGroup (phase : Int32) (filters : List Filter) (said : List String) :
    (normalizeGroup phase filters).run said =
      some (keptGroup? phase filters, said ++ (groupNotices phase).map QueryNotice.message) := by
  unfold normalizeGroup keptGroup? groupNotices
  by_cases refused : phase ≤ 0
  · rw [if_pos refused, if_neg (Int32.not_lt.mpr refused), if_pos refused]
    rfl
  · rw [if_neg refused, if_pos (Int32.not_le.mp refused), if_neg refused, List.map_nil,
      List.append_nil]
    rfl

theorem filterMap_keptGroup? (selection : List Criteria) :
    (selectionPhases selection).filterMap (fun n => keptGroup? n (filtersOf selection n)) =
      normalizeSelection selection := by
  rw [normalizeSelection, ← List.filterMap_eq_map, List.filterMap_filter]
  simp only [keptGroup?, decide_eq_true_eq, Function.comp_apply]

theorem flatMap_groupNotices (selection : List Criteria) :
    (selectionPhases selection).flatMap groupNotices = invalidPhaseNotices selection := by
  rw [invalidPhaseNotices, invalidPhases, List.map_eq_flatMap, flatMap_filter]
  rfl

/-- One pass keeps the groups of phase numbers and tells of the others. -/
theorem run_normalize (selection : List Criteria) (said : List String) :
    (normalize selection).run said =
      some (normalizeSelection selection,
        said ++ (invalidPhaseNotices selection).map QueryNotice.message) := by
  have groups := Building.run_mapM
    (fun (group : Int32 × List Filter) said => run_normalizeGroup group.1 group.2 said)
    (groupFilters selection).entries said
  rw [normalize, StateT.run_bind, groups, entries_groupFilters, List.flatMap_map,
    ← List.map_flatMap, flatMap_groupNotices, Option.bind_eq_bind, Option.bind_some, List.map_map]
  rw [← filterMap_keptGroup?]
  simp only [StateT.run_pure, Option.pure_def, List.filterMap_map, Function.comp_def, id]

/-- Building a query begins with normalizing its selection. -/
theorem Query.build_eq (selection : List Criteria) :
    build selection = do
      let groups ← (← normalize selection).mapM Criteria.build
      return .or groups := by
  refine StateT.ext fun said => ?_
  rw [build, StateT.run_bind, run_tell, StateT.run_bind, run_normalize]
  rfl

/-! ## Normal selections -/

/-- A selection that is as normalizing leaves it. -/
structure Normal (selection : List Criteria) : Prop where
  ascending : selection.Pairwise (·.phase < ·.phase)
  positive : ∀ c ∈ selection, 0 < c.phase
  usable : ∀ c ∈ selection, ∀ f ∈ c.filters, f.isUsable = true
  distinct : ∀ c ∈ selection, (c.filters.map Filter.signature).Nodup

theorem map_phase_normalizeSelection (selection : List Criteria) :
    (normalizeSelection selection).map Criteria.phase = positivePhases selection := by
  rw [Query.normalizeSelection_eq, List.map_map]
  exact List.map_id _

theorem normal_normalizeSelection (selection : List Criteria) :
    Normal (normalizeSelection selection) where
  ascending := by
    rw [← List.pairwise_map, map_phase_normalizeSelection]
    exact ascending_positivePhases selection
  positive c member := by
    have listed : c.phase ∈ (normalizeSelection selection).map Criteria.phase :=
      List.mem_map_of_mem member
    rw [map_phase_normalizeSelection] at listed
    exact (mem_positivePhases.mp listed).1
  usable c member f filter := (filters_of_normalizeSelection member filter).1
  distinct c member := by
    obtain ⟨n, -, rfl⟩ := List.mem_map.mp member
    exact nodup_distinctBy _

namespace Normal

variable {selection : List Criteria}

theorem phases_eq (normal : Normal selection) :
    selectionPhases selection = selection.map Criteria.phase :=
  OrderedMap.eq_of_ascending (ascending_selectionPhases selection)
    (List.pairwise_map.mpr normal.ascending) fun n => by rw [mem_selectionPhases, List.mem_map]

theorem countingFilters_eq (normal : Normal selection) {c : Criteria} (member : c ∈ selection) :
    countingFilters c.filters = c.filters := by
  rw [countingFilters, List.filter_eq_self.mpr (normal.usable c member)]
  exact distinctBy_of_nodup (normal.distinct c member)

end Normal

/-- A normal selection is left as it is. -/
theorem normalizeSelection_of_normal {selection : List Criteria} (normal : Normal selection) :
    normalizeSelection selection = selection := by
  have nodup : (selection.map Criteria.phase).Nodup :=
    (List.pairwise_map.mpr normal.ascending).imp Int32.ne_of_lt
  have positive : ∀ n ∈ selection.map Criteria.phase, 0 < n :=
    List.forall_mem_map.mpr normal.positive
  have each : ∀ c ∈ selection, Criteria.ofPhase selection c.phase = c := by
    intro c member
    rw [Criteria.ofPhase, filtersOf_of_nodup nodup member, normal.countingFilters_eq member]
  calc normalizeSelection selection
      = ((selection.map Criteria.phase).filter (0 < ·)).map (Criteria.ofPhase selection) := by
        rw [← normal.phases_eq]
        rfl
    _ = selection.map fun c => Criteria.ofPhase selection c.phase := by
        rw [List.filter_eq_self.mpr (by simpa using positive), List.map_map]
        rfl
    _ = selection.map id := List.map_congr_left each
    _ = selection := List.map_id _

/-- Nothing is told about a normal selection. -/
theorem invalidPhases_of_normal {selection : List Criteria} (normal : Normal selection) :
    invalidPhases selection = [] := by
  rw [invalidPhases, normal.phases_eq, List.filter_eq_nil_iff]
  intro n listed
  obtain ⟨c, member, rfl⟩ := List.mem_map.mp listed
  simpa using normal.positive c member

theorem run_normalize_of_normal {selection : List Criteria} (normal : Normal selection)
    (said : List String) : (normalize selection).run said = some (selection, said) := by
  rw [run_normalize, normalizeSelection_of_normal normal, invalidPhaseNotices,
    invalidPhases_of_normal normal, List.map_nil, List.map_nil, List.append_nil]

theorem mem_invalidPhases {selection : List Criteria} {n : Int32} :
    n ∈ invalidPhases selection ↔ n ≤ 0 ∧ ∃ c ∈ selection, c.phase = n := by
  rw [invalidPhases, List.mem_filter, mem_selectionPhases, decide_eq_true_eq, and_comm]

/-- **A selection has one normal form, and normalizing finds it in one pass.**  The normal form has
one criterion for each phase number that the selection mentions, ascending.  Its filters are those
of the phase, in the order of the selection, that are usable and whose signature none of the usable
ones before has.  The other phases are told about, each once and ascending.  A second pass changes
nothing and tells nothing. -/
theorem normalize_exact (selection : List Criteria) (said : List String) :
    ∃ (normal : List Criteria) (refused : List Int32),
      (normalize selection).run said =
        some (normal, said ++ refused.map fun n => (QueryNotice.invalidPhase n).message) ∧
      normal = normalizeSelection selection ∧
      refused.map QueryNotice.invalidPhase = invalidPhaseNotices selection ∧
      normal.Pairwise (·.phase < ·.phase) ∧
      (∀ n, (∃ c ∈ normal, c.phase = n) ↔ 0 < n ∧ ∃ c ∈ selection, c.phase = n) ∧
      (∀ c ∈ normal, c.filters =
        firstsBy Filter.signature ((filtersOf selection c.phase).filter Filter.isUsable)) ∧
      refused.Pairwise (· < ·) ∧
      (∀ n, n ∈ refused ↔ n ≤ 0 ∧ ∃ c ∈ selection, c.phase = n) ∧
      ∀ told, (normalize normal).run told = some (normal, told) := by
  have normal := normal_normalizeSelection selection
  refine ⟨normalizeSelection selection, invalidPhases selection, ?run, rfl, rfl, normal.ascending,
    ?phases, ?filters, (ascending_selectionPhases selection).filter _, fun _ => mem_invalidPhases,
    run_normalize_of_normal normal⟩
  case run =>
    rw [run_normalize, invalidPhaseNotices, List.map_map]
    rfl
  case phases =>
    intro n
    rw [← mem_positivePhases, ← map_phase_normalizeSelection, List.mem_map]
  case filters =>
    intro c member
    obtain ⟨n, -, rfl⟩ := List.mem_map.mp member
    exact distinctBy_eq_firstsBy _

def onProfile (value : String) : Filter :=
  { Filter.blank with targetType := some .part, targetAttr := "profile", value := value }

/-- Criteria in no order, for two phases and for two phases that are none. -/
def scatteredProfiles : List Criteria :=
  [⟨3, [onProfile "HEA200"]⟩, ⟨0, [onProfile "RHS200"]⟩, ⟨1, [onProfile "IPE100"]⟩,
    ⟨3, [onProfile "hea200", onProfile "  ", onProfile "HEB300"]⟩, ⟨-2, []⟩, ⟨0, []⟩]

theorem normalize_scatteredProfiles :
    ∃ normal : List Criteria,
      (normalize scatteredProfiles).run ["Ready."] = some (normal,
        ["Ready.", "Phase -2: invalid phase number, criteria ignored.",
          "Phase 0: invalid phase number, criteria ignored."]) ∧
      normal = [⟨1, [onProfile "IPE100"]⟩, ⟨3, [onProfile "HEA200", onProfile "HEB300"]⟩] ∧
      ((⟨3, [onProfile "HEA200", onProfile "HEB300"]⟩ : Criteria) ∈ normal ∧
        [onProfile "HEA200", onProfile "HEB300"] =
          firstsBy Filter.signature ((filtersOf scatteredProfiles 3).filter Filter.isUsable)) ∧
      ∀ told, (normalize normal).run told = some (normal, told) := by
  have kept : normalizeSelection scatteredProfiles =
      [⟨1, [onProfile "IPE100"]⟩, ⟨3, [onProfile "HEA200", onProfile "HEB300"]⟩] := by
    decide +kernel
  have noticed : invalidPhaseNotices scatteredProfiles = [.invalidPhase (-2), .invalidPhase 0] := by
    decide
  obtain ⟨normal, refused, run, form, notices, -, -, filters, -, -, again⟩ :=
    normalize_exact scatteredProfiles ["Ready."]
  obtain rfl := form.trans kept
  obtain rfl : refused = [-2, 0] := by
    have injective : Function.Injective QueryNotice.invalidPhase :=
      fun _ _ => QueryNotice.invalidPhase.inj
    exact List.map_injective_iff.mpr injective (notices.trans noticed)
  have third : (⟨3, [onProfile "HEA200", onProfile "HEB300"]⟩ : Criteria) ∈
      [⟨1, [onProfile "IPE100"]⟩, ⟨3, [onProfile "HEA200", onProfile "HEB300"]⟩] :=
    List.mem_cons_of_mem _ List.mem_cons_self
  exact ⟨_, run, rfl, ⟨third, filters _ third⟩, again⟩

end PhaseTable
