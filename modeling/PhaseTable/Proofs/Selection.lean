/-
# PhaseTable.Proofs.Selection -- where criteria and their filters come from

The row of a phase is the first one that is selected for it (`mem_selectedRows_iff`).  A
criterion that is collected is that of the row of its phase, and its filters are those of
columns that add to the selection (`mem_collectSelection_iff`).  No phase of a selected row
is lost (`phases_of_collectSelection`).

Normalizing makes up no filter (`filters_of_normalizeSelection`).  It looks at a selection
through its phases and through the filters for each of them only, and both follow the
selection: the phases of a part of it are among its own (`selectionPhases_filter`), and
criteria that are added bring their filters last (`filtersOf_append`).
-/
import PhaseTable.Proofs.OrderedMap
import PhaseTable.Proofs.Text.Distinct
import PhaseTable.Selection

namespace PhaseTable

set_option autoImplicit false

open Text

/-! ## Rows -/

namespace EditedRow

/-- The row is selected for a phase. -/
def isSelectedFor (n : Int32) (row : EditedRow) : Bool :=
  row.selected && row.phase = some n

theorem isSelectedFor_iff {row : EditedRow} {n : Int32} :
    row.isSelectedFor n = true ↔ row.selected = true ∧ row.phase = some n := by
  simp only [isSelectedFor, Bool.and_eq_true, decide_eq_true_eq]

/-- What a row adds to the selected rows if it leads its phase. -/
def entry? (row : EditedRow) : Option (Int32 × EditedRow) :=
  if row.selected then row.phase.map (·, row) else none

theorem entry?_eq_some_iff {row other : EditedRow} {n : Int32} :
    row.entry? = some (n, other) ↔ row.isSelectedFor n = true ∧ row = other := by
  unfold entry? isSelectedFor
  cases row.selected with
  | true => cases row.phase <;> simp
  | false => simp

theorem any_entry? (row : EditedRow) (n : Int32) :
    row.entry?.any (·.1 = n) = row.isSelectedFor n := by
  unfold entry? isSelectedFor
  cases row.selected with
  | true => cases row.phase <;> simp
  | false => simp

theorem mem_map_entries {rows : List EditedRow} {n : Int32} :
    n ∈ (rows.filterMap entry?).map (·.1) ↔ ∃ row ∈ rows, row.isSelectedFor n = true := by
  rw [List.mem_map]
  constructor
  · rintro ⟨⟨_, row⟩, listed, rfl⟩
    obtain ⟨_, member, made⟩ := List.mem_filterMap.mp listed
    exact ⟨_, member, (entry?_eq_some_iff.mp made).1⟩
  · rintro ⟨row, member, selected⟩
    have made : row.entry? = some (n, row) := entry?_eq_some_iff.mpr ⟨selected, rfl⟩
    exact ⟨(n, row), List.mem_filterMap.mpr ⟨row, member, made⟩, rfl⟩

end EditedRow

open EditedRow

theorem selectedRows_eq (rows : List EditedRow) :
    selectedRows rows = distinctBy (·.1) (rows.filterMap entry?) :=
  rfl

/-- The row of a phase is the first one that is selected for it. -/
theorem mem_selectedRows_iff {rows : List EditedRow} {n : Int32} {row : EditedRow} :
    (n, row) ∈ selectedRows rows ↔ rows.find? (isSelectedFor n) = some row := by
  have look_up : (fun r : EditedRow => r.entry?.any fun entry => decide (entry.1 = n)) =
      isSelectedFor n := funext fun r => r.any_entry? n
  rw [selectedRows_eq, mem_distinctBy_iff, List.find?_filterMap, look_up, Option.bind_eq_some_iff]
  constructor
  · rintro ⟨other, found, made⟩
    obtain ⟨-, rfl⟩ := entry?_eq_some_iff.mp made
    exact found
  · intro found
    exact ⟨row, found, entry?_eq_some_iff.mpr ⟨List.find?_some found, rfl⟩⟩

/-! ## Collecting -/

theorem Column.filter?_eq_some_iff {c : Column} {row : EditedRow} {f : Filter} :
    c.filter? row = some f ↔ c.selects = true ∧ ∃ cell value,
      row.values.lookup c.key = some cell ∧ c.filterValue? cell = some value ∧
        f = .ofColumn c value := by
  unfold filter?
  by_cases selects : c.selects = true
  · rw [if_pos selects, Option.bind_eq_some_iff]
    constructor
    · rintro ⟨cell, found, made⟩
      obtain ⟨value, given, rfl⟩ := Option.map_eq_some_iff.mp made
      exact ⟨selects, cell, value, found, given, rfl⟩
    · rintro ⟨-, cell, value, found, given, rfl⟩
      exact ⟨cell, found, by rw [given, Option.map_some]⟩
  · simp [selects]

theorem mem_collectSelection_iff {rows : List EditedRow} {columns : List Column} {c : Criteria} :
    c ∈ collectSelection rows columns ↔
      ∃ row, rows.find? (isSelectedFor c.phase) = some row ∧
        c.filters = columns.filterMap (·.filter? row) := by
  constructor
  · intro member
    obtain ⟨⟨n, row⟩, selected, rfl⟩ := List.mem_map.mp member
    exact ⟨row, mem_selectedRows_iff.mp selected, rfl⟩
  · rintro ⟨row, found, filters⟩
    refine List.mem_map.mpr ⟨(c.phase, row), mem_selectedRows_iff.mpr found, ?_⟩
    show (⟨c.phase, columns.filterMap (·.filter? row)⟩ : Criteria) = c
    rw [← filters]

/-- Criteria are collected from selected rows, and their filters from columns. -/
theorem mem_collectSelection {rows : List EditedRow} {columns : List Column} {criteria : Criteria}
    (member : criteria ∈ collectSelection rows columns) :
    ∃ row ∈ rows, row.selected = true ∧ row.phase = some criteria.phase ∧
      criteria.filters = columns.filterMap (·.filter? row) := by
  obtain ⟨row, found, filters⟩ := mem_collectSelection_iff.mp member
  obtain ⟨selected, phase⟩ := isSelectedFor_iff.mp (List.find?_some found)
  exact ⟨row, List.mem_of_find?_eq_some found, selected, phase, filters⟩

/-- A filter that is collected is what a column makes of one of its cells. -/
theorem ofColumn_of_collectSelection {rows : List EditedRow} {columns : List Column}
    {criteria : Criteria} (member : criteria ∈ collectSelection rows columns) {f : Filter}
    (filter : f ∈ criteria.filters) :
    ∃ c ∈ columns, c.selects = true ∧
      ∃ cell value, c.filterValue? cell = some value ∧ f = .ofColumn c value := by
  obtain ⟨row, -, -, -, filters⟩ := mem_collectSelection member
  rw [filters] at filter
  obtain ⟨c, listed, made⟩ := List.mem_filterMap.mp filter
  obtain ⟨selects, cell, value, -, given, same⟩ := Column.filter?_eq_some_iff.mp made
  exact ⟨c, listed, selects, cell, value, given, same⟩

/-- The phases of the criteria are those of the selected rows. -/
theorem phases_of_collectSelection {rows : List EditedRow} {columns : List Column} {n : Int32} :
    (∃ c ∈ collectSelection rows columns, c.phase = n) ↔
      ∃ row ∈ rows, row.selected = true ∧ row.phase = some n := by
  constructor
  · rintro ⟨criteria, member, rfl⟩
    obtain ⟨row, listed, selected, found, -⟩ := mem_collectSelection member
    exact ⟨row, listed, selected, found⟩
  · rintro ⟨row, listed, selected⟩
    obtain ⟨first, found⟩ : ∃ first, rows.find? (isSelectedFor n) = some first :=
      Option.isSome_iff_exists.mp
        (List.find?_isSome.mpr ⟨row, listed, isSelectedFor_iff.mpr selected⟩)
    refine ⟨⟨n, columns.filterMap (·.filter? first)⟩, ?_, rfl⟩
    exact mem_collectSelection_iff.mpr ⟨first, found, rfl⟩

/-! ## Phases -/

theorem mem_selectionPhases {selection : List Criteria} {n : Int32} :
    n ∈ selectionPhases selection ↔ ∃ c ∈ selection, c.phase = n := by
  rw [selectionPhases, OrderedMap.mem_keysOf, List.mem_map]

theorem ascending_selectionPhases (selection : List Criteria) :
    (selectionPhases selection).Pairwise (· < ·) :=
  OrderedMap.ascending_keysOf _

/-- Selections that mention the same phases list the same phases. -/
theorem selectionPhases_congr {s t : List Criteria}
    (same : ∀ n, (∃ c ∈ s, c.phase = n) ↔ ∃ c ∈ t, c.phase = n) :
    selectionPhases s = selectionPhases t := by
  refine OrderedMap.eq_of_ascending (ascending_selectionPhases s) (ascending_selectionPhases t) ?_
  intro n
  rw [mem_selectionPhases, mem_selectionPhases, same]

/-- The criteria of some phases have those of the phases that occur. -/
theorem selectionPhases_filter (selection : List Criteria) (p : Int32 → Bool) :
    selectionPhases (selection.filter (p ·.phase)) = (selectionPhases selection).filter p := by
  refine OrderedMap.eq_of_ascending (ascending_selectionPhases _)
    ((ascending_selectionPhases selection).filter _) ?_
  intro n
  simp only [mem_selectionPhases, List.mem_filter]
  constructor
  · rintro ⟨c, ⟨member, chosen⟩, rfl⟩
    exact ⟨⟨c, member, rfl⟩, chosen⟩
  · rintro ⟨⟨c, member, rfl⟩, chosen⟩
    exact ⟨c, ⟨member, chosen⟩, rfl⟩

/-! ## Filters -/

theorem filtersOf_append (s t : List Criteria) (n : Int32) :
    filtersOf (s ++ t) n = filtersOf s n ++ filtersOf t n := by
  simp only [filtersOf, List.filter_append, List.flatMap_append]

/-- The filters for a phase come from its own criteria. -/
theorem filtersOf_filter_self (selection : List Criteria) (n : Int32) :
    filtersOf (selection.filter (·.phase = n)) n = filtersOf selection n := by
  simp only [filtersOf, List.filter_filter, Bool.and_self]

theorem filtersOf_eq_nil {selection : List Criteria} {n : Int32}
    (absent : ∀ c ∈ selection, c.phase ≠ n) : filtersOf selection n = [] := by
  have none_ : selection.filter (·.phase = n) = [] :=
    List.filter_eq_nil_iff.mpr fun c member => by simpa using absent c member
  rw [filtersOf, none_, List.flatMap_nil]

/-- Where phases do not repeat, the filters for a phase are those of its criteria. -/
theorem filtersOf_of_nodup {selection : List Criteria}
    (nodup : (selection.map Criteria.phase).Nodup) {c : Criteria} (member : c ∈ selection) :
    filtersOf selection c.phase = c.filters := by
  induction selection with
  | nil => cases member
  | cons first rest ih =>
      obtain ⟨once, nodup⟩ := List.nodup_cons.mp nodup
      have split : filtersOf (first :: rest) c.phase =
          filtersOf [first] c.phase ++ filtersOf rest c.phase :=
        filtersOf_append [first] rest c.phase
      rw [split]
      rcases List.mem_cons.mp member with rfl | later
      · have absent : ∀ d ∈ rest, d.phase ≠ c.phase :=
          fun d listed same => once (same ▸ List.mem_map_of_mem listed)
        rw [filtersOf_eq_nil absent]
        simp [filtersOf]
      · have other : first.phase ≠ c.phase :=
          fun same => once (same ▸ List.mem_map_of_mem later)
        rw [ih nodup later, filtersOf_eq_nil (by simpa using other), List.nil_append]

/-- A filter that is added last counts or does not, and those before it stay. -/
theorem countingFilters_concat (filters : List Filter) (f : Filter) :
    ∃ extra, (extra = [] ∨ extra = [f]) ∧
      countingFilters (filters ++ [f]) = countingFilters filters ++ extra := by
  rw [countingFilters, countingFilters, List.filter_append]
  by_cases usable : f.isUsable = true
  · rw [List.filter_cons_of_pos usable, List.filter_nil, distinctBy_concat]
    refine ⟨_, ?_, rfl⟩
    split
    · exact .inl rfl
    · exact .inr rfl
  · rw [List.filter_cons_of_neg usable, List.filter_nil, List.append_nil]
    exact ⟨[], .inl rfl, (List.append_nil _).symm⟩

/-! ## Normalizing -/

theorem mem_filtersOf {selection : List Criteria} {phase : Int32} {f : Filter} :
    f ∈ filtersOf selection phase ↔ ∃ c ∈ selection, c.phase = phase ∧ f ∈ c.filters := by
  simp [filtersOf, List.mem_flatMap, and_assoc]

theorem mem_of_countingFilters {filters : List Filter} {f : Filter}
    (counts : f ∈ countingFilters filters) : f ∈ filters ∧ f.isUsable = true :=
  List.mem_filter.mp ((distinctBy_sublist _).subset counts)

/-- The filters for a phase are usable ones of the selection for the same phase. -/
theorem filters_of_normalizeSelection {selection : List Criteria} {criteria : Criteria}
    (member : criteria ∈ normalizeSelection selection) {f : Filter}
    (filter : f ∈ criteria.filters) :
    f.isUsable = true ∧ ∃ c ∈ selection, c.phase = criteria.phase ∧ f ∈ c.filters := by
  obtain ⟨phase, -, rfl⟩ := List.mem_map.mp member
  obtain ⟨listed, usable⟩ := mem_of_countingFilters filter
  exact ⟨usable, mem_filtersOf.mp listed⟩

end PhaseTable
