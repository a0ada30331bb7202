/-
# PhaseTable.Proofs.Selection.FirstRows -- the rows that a selection is collected from

The first row that is selected for a phase leads it (`EditedRow.Leads`), and the selection is
collected from the rows that lead.  A row that leads adds its entry at the end
(`selectedRows_of_leads`), and one that does not has no influence, wherever it stands
(`selectedRows_of_not_leads`); so the entries are in the order of the rows
(`pairwise_selectedRows`), and that of a phase is what a look-up of the phase finds
(`mem_selectedRows_iff`).

No cell gives a filter a blank value (`Column.trimmed_of_filterValue?`).  What is collected is
therefore usable, and all that normalizing does to it is to put the phases in order and to leave out
those that are no phase numbers and the filters that repeat others (`collects_first_rows`).
-/
import PhaseTable.Proofs.Query.Normalizing
import PhaseTable.Proofs.Query.TypedNumbers

namespace PhaseTable

set_option autoImplicit false

open Text

/-! ## Rows -/

namespace EditedRow

/-- The row is selected for a phase, and no row before it is. -/
def Leads (before : List EditedRow) (row : EditedRow) : Prop :=
  ∃ n, row.isSelectedFor n = true ∧ ∀ other ∈ before, other.isSelectedFor n = false

instance (before : List EditedRow) (row : EditedRow) : Decidable (row.Leads before) :=
  decidable_of_iff
    (row.entry?.any fun entry => before.all fun other => !other.isSelectedFor entry.1) (by
      simp only [Leads, Option.any_eq_true, Prod.exists, entry?_eq_some_iff, List.all_eq_true,
        Bool.not_eq_true', exists_and_left, exists_eq_left', and_assoc])

end EditedRow

open EditedRow

theorem selectedRows_of_leads {before : List EditedRow} {row : EditedRow} {n : Int32}
    (selected : row.isSelectedFor n = true)
    (first : ∀ other ∈ before, other.isSelectedFor n = false) :
    selectedRows (before ++ [row]) = selectedRows before ++ [(n, row)] := by
  have made : row.entry? = some (n, row) := entry?_eq_some_iff.mpr ⟨selected, rfl⟩
  have fresh : n ∉ (before.filterMap entry?).map (·.1) := by
    rw [mem_map_entries]
    rintro ⟨other, listed, also⟩
    rw [first other listed] at also
    cases also
  rw [selectedRows_eq, List.filterMap_append, List.filterMap_cons_some made, List.filterMap_nil,
    distinctBy_concat, if_neg fresh, selectedRows_eq]

/-- A row that does not lead its phase has no influence. -/
theorem selectedRows_of_not_leads {before : List EditedRow} {row : EditedRow}
    (after : List EditedRow) (behind : ¬ row.Leads before) :
    selectedRows (before ++ row :: after) = selectedRows (before ++ after) := by
  rw [selectedRows_eq, selectedRows_eq, List.filterMap_append, List.filterMap_append]
  cases made : row.entry? with
  | none => rw [List.filterMap_cons_none made]
  | some entry =>
      obtain ⟨n, _⟩ := entry
      obtain ⟨selected, rfl⟩ := entry?_eq_some_iff.mp made
      rw [List.filterMap_cons_some made]
      refine distinctBy_remove _ (mem_map_entries.mpr ?_)
      by_contra none_
      refine behind ⟨n, selected, fun other listed => ?_⟩
      rw [Bool.eq_false_iff]
      exact fun also => none_ ⟨other, listed, also⟩

/-- The selected rows are in the order of the rows. -/
theorem pairwise_selectedRows (rows : List EditedRow) :
    (selectedRows rows).Pairwise fun a b =>
      rows.findIdx (isSelectedFor a.1) < rows.findIdx (isSelectedFor b.1) := by
  induction rows using List.reverseRecOn with
  | nil => exact .nil
  | append_singleton before row ih =>
      -- a place among the rows that are there already stays the same
      have place : ∀ entry ∈ selectedRows before,
          before.findIdx (isSelectedFor entry.1) < before.length ∧
            (before ++ [row]).findIdx (isSelectedFor entry.1) =
              before.findIdx (isSelectedFor entry.1) := by
        intro entry member
        have found := mem_selectedRows_iff.mp member
        have inside : before.findIdx (isSelectedFor entry.1) < before.length :=
          List.findIdx_lt_length_of_exists
            ⟨_, List.mem_of_find?_eq_some found, List.find?_some found⟩
        rw [List.findIdx_append, if_pos inside]
        exact ⟨inside, rfl⟩
      have kept : (selectedRows before).Pairwise fun a b =>
          (before ++ [row]).findIdx (isSelectedFor a.1) <
            (before ++ [row]).findIdx (isSelectedFor b.1) := by
        refine ih.imp_of_mem fun first second less => ?_
        rw [(place _ first).2, (place _ second).2]
        exact less
      by_cases leads : row.Leads before
      · obtain ⟨n, selected, first⟩ := leads
        rw [selectedRows_of_leads selected first, List.pairwise_append]
        refine ⟨kept, List.pairwise_singleton _ _, fun entry member last listed => ?_⟩
        obtain rfl := List.mem_singleton.mp listed
        obtain ⟨inside, same⟩ := place entry member
        have end_ : before.findIdx (isSelectedFor n) = before.length :=
          List.findIdx_eq_length.mpr first
        rw [same, List.findIdx_append, end_, if_neg (Nat.lt_irrefl _)]
        omega
      · have nothing := selectedRows_of_not_leads [] leads
        rw [List.append_nil] at nothing
        rw [nothing]
        exact kept

/-! ## Values -/

theorem trimmed_numberText (x : Binary64) : Trimmed (formatNumber x) := by
  cases x with
  | nan => decide
  | infinite negative => cases negative <;> decide
  | finite x => exact Binary64.trimmed_formatNumber rfl

namespace Column

variable {c : Column} {cell : Cell} {value : String}

/-- A Boolean column has the words for true and false as values. -/
theorem value_of_boolValue? (given : c.boolValue? cell = some value) :
    value = "true" ∨ value = "false" := by
  unfold boolValue? at given
  dsimp only at given
  split at given
  · exact .inl (Option.some.inj given).symm
  · split at given
    · exact .inr (Option.some.inj given).symm
    · cases given
  · split at given
    · exact .inl (Option.some.inj given).symm
    · split at given
      · exact .inr (Option.some.inj given).symm
      · split at given
        · exact .inr (Option.some.inj given).symm
        · cases given
  · cases given

theorem filterValue?_of_boolean (type : c.valueType = .boolean)
    (given : c.filterValue? cell = some value) : c.boolValue? cell = some value := by
  unfold filterValue? at given
  rw [type] at given
  exact given

theorem filterValue?_of_string (type : c.valueType = .string)
    (given : c.filterValue? cell = some value) : ∃ s, nonBlank? s = some value := by
  unfold filterValue? at given
  rw [type] at given
  cases cell with
  | string s => exact ⟨s, given⟩
  | empty | number | integer | boolean => cases given

/-- The value that a cell gives a filter is trimmed and not blank. -/
theorem trimmed_of_filterValue? (given : c.filterValue? cell = some value) : Trimmed value := by
  cases type : c.valueType with
  | boolean =>
      rcases value_of_boolValue? (filterValue?_of_boolean type given) with rfl | rfl
      · decide
      · decide
  | integer =>
      obtain ⟨i, -, rfl⟩ := filterValue?_of_integer type given
      exact trimmed_intText i.toInt
  | number =>
      obtain ⟨x, -, rfl⟩ := filterValue?_of_number type given
      exact trimmed_numberText x
  | string =>
      obtain ⟨s, found⟩ := filterValue?_of_string type given
      exact trimmed_of_nonBlank? found

theorem isUsable_of_filter? {row : EditedRow} {f : Filter} (made : c.filter? row = some f) :
    f.isUsable = true := by
  obtain ⟨selects, cell, value, -, given, rfl⟩ := filter?_eq_some_iff.mp made
  have targeted := (Bool.and_eq_true_iff.mp selects).2
  have filled := (trimmed_of_filterValue? given).not_blank
  rw [Filter.isUsable, Filter.ofColumn, targeted, filled]
  rfl

end Column

/-! ## What is collected -/

theorem isUsable_of_collectSelection {rows : List EditedRow} {columns : List Column} {c : Criteria}
    (member : c ∈ collectSelection rows columns) : ∀ f ∈ c.filters, f.isUsable = true := by
  intro f filter
  obtain ⟨row, -, filters⟩ := mem_collectSelection_iff.mp member
  rw [filters] at filter
  obtain ⟨column, -, made⟩ := List.mem_filterMap.mp filter
  exact Column.isUsable_of_filter? made

theorem nodup_phases_collectSelection (rows : List EditedRow) (columns : List Column) :
    ((collectSelection rows columns).map Criteria.phase).Nodup := by
  rw [collectSelection, List.map_map]
  exact nodup_distinctBy _

/-! ## What normalizing does to it -/

/-- Normalizing sorts criteria for different phases, drops those of invalid ones, and changes each
of the others by itself. -/
theorem normalizeSelection_perm_of_nodup {selection : List Criteria}
    (nodup : (selection.map Criteria.phase).Nodup) :
    (normalizeSelection selection).Perm
      ((selection.filter (0 < ·.phase)).map fun c => ⟨c.phase, countingFilters c.filters⟩) := by
  have phases : (positivePhases selection).Perm
      ((selection.filter (0 < ·.phase)).map Criteria.phase) := by
    have once : ((selection.filter (0 < ·.phase)).map Criteria.phase).Nodup :=
      nodup.sublist (List.filter_sublist.map Criteria.phase)
    rw [List.perm_ext_iff_of_nodup ((ascending_positivePhases selection).imp Int32.ne_of_lt) once]
    intro n
    rw [mem_positivePhases]
    simp only [List.mem_map, List.mem_filter, decide_eq_true_eq]
    constructor
    · rintro ⟨positive, c, member, rfl⟩
      exact ⟨c, ⟨member, positive⟩, rfl⟩
    · rintro ⟨c, ⟨member, positive⟩, rfl⟩
      exact ⟨positive, c, member, rfl⟩
  rw [Query.normalizeSelection_eq]
  refine (phases.map _).trans ?_
  rw [List.map_map]
  refine .of_eq (List.map_congr_left fun c kept => ?_)
  rw [Function.comp_apply, Criteria.ofPhase,
    filtersOf_of_nodup nodup (List.mem_filter.mp kept).1]

/-- **A selection is collected from the first selected row of each phase, and normalizing it loses
only what is invalid or repeated.**  The phases are different and in the order of their first
selected rows, and the filters of a phase are those of its first selected row; a row that is not the
first of its phase may be removed, or its values changed, without effect.  All filters are usable.
So the normal form has, up to the order of the phases, what was collected, without the phases that
are no phase numbers and without filters that repeat a signature of their phase. -/
theorem collects_first_rows (rows : List EditedRow) (columns : List Column) :
    ((collectSelection rows columns).map Criteria.phase).Nodup ∧
    (collectSelection rows columns).Pairwise (fun c d =>
      rows.findIdx (isSelectedFor c.phase) < rows.findIdx (isSelectedFor d.phase)) ∧
    (∀ c, c ∈ collectSelection rows columns ↔
      ∃ row, rows.find? (isSelectedFor c.phase) = some row ∧
        c.filters = columns.filterMap (·.filter? row)) ∧
    (∀ before row after, rows = before ++ row :: after → ¬ row.Leads before →
      collectSelection (before ++ after) columns = collectSelection rows columns ∧
      ∀ values, collectSelection (before ++ { row with values := values } :: after) columns =
        collectSelection rows columns) ∧
    (∀ c ∈ collectSelection rows columns, ∀ f ∈ c.filters, f.isUsable = true) ∧
    (normalizeSelection (collectSelection rows columns)).Perm
      (((collectSelection rows columns).filter (0 < ·.phase)).map fun c =>
        ⟨c.phase, firstsBy Filter.signature c.filters⟩) := by
  refine ⟨nodup_phases_collectSelection rows columns, ?order, fun c => mem_collectSelection_iff,
    ?hidden, fun c member => isUsable_of_collectSelection member, ?normal⟩
  case order => exact List.pairwise_map.mpr (pairwise_selectedRows rows)
  case hidden =>
    rintro before row after rfl behind
    have others : ∀ other : EditedRow, ¬ other.Leads before →
        collectSelection (before ++ other :: after) columns =
          collectSelection (before ++ after) columns := by
      intro other notLeading
      rw [collectSelection, selectedRows_of_not_leads after notLeading, collectSelection]
    exact ⟨(others row behind).symm,
      fun values => (others { row with values := values } behind).trans (others row behind).symm⟩
  case normal =>
    refine (normalizeSelection_perm_of_nodup (nodup_phases_collectSelection rows columns)).trans ?_
    refine .of_eq (List.map_congr_left fun c kept => ?_)
    have usable := isUsable_of_collectSelection (List.mem_filter.mp kept).1
    rw [countingFilters, List.filter_eq_self.mpr usable, distinctBy_eq_firstsBy]

/-- Two columns for one thing: the profile of parts. -/
def profileColumns : List Column :=
  ["first", "second"].map fun key =>
    { Column.blank with
      key := key, label := key, editable := true
      targetType := some .part, targetAttr := "profile" }

def profileRow (selected : Bool) (phase : Option Int32) (first second : String) : EditedRow :=
  ⟨selected, phase, .ofList [("first", .string first), ("second", .string second)]⟩

/-- Rows of which the first is not selected, and the last but one repeats a phase. -/
def profileRows : List EditedRow :=
  [profileRow false (some 2) "IPE100" "", profileRow true (some 2) "HEA200" " hea200 ",
    profileRow true none "IPE300" "", profileRow true (some 1) "HEB300" " ",
    profileRow true (some 2) "IPE500" "IPE600", profileRow true (some 0) "RHS200" ""]

theorem collects_first_rows_profiles :
    collectSelection profileRows profileColumns =
      [⟨2, [onProfile "HEA200", onProfile "hea200"]⟩, ⟨1, [onProfile "HEB300"]⟩,
        ⟨0, [onProfile "RHS200"]⟩] ∧
    ¬ (profileRow true (some 2) "IPE500" "IPE600").Leads (profileRows.take 4) ∧
    (∀ values,
      collectSelection (profileRows.take 4 ++
        { profileRow true (some 2) "IPE500" "IPE600" with values := values } ::
          profileRows.drop 5) profileColumns = collectSelection profileRows profileColumns) ∧
    (onProfile "hea200").isUsable = true ∧
    (normalizeSelection (collectSelection profileRows profileColumns)).Perm
      [⟨2, [onProfile "HEA200"]⟩, ⟨1, [onProfile "HEB300"]⟩] := by
  have collected : collectSelection profileRows profileColumns =
      [⟨2, [onProfile "HEA200", onProfile "hea200"]⟩, ⟨1, [onProfile "HEB300"]⟩,
        ⟨0, [onProfile "RHS200"]⟩] := by decide
  have behind : ¬ (profileRow true (some 2) "IPE500" "IPE600").Leads (profileRows.take 4) := by
    decide
  obtain ⟨-, -, -, hidden, usable, normal⟩ := collects_first_rows profileRows profileColumns
  rw [collected] at usable normal
  have kept : (([⟨2, [onProfile "HEA200", onProfile "hea200"]⟩, ⟨1, [onProfile "HEB300"]⟩,
      ⟨0, [onProfile "RHS200"]⟩] : List Criteria).filter (0 < ·.phase)).map
        (fun c => (⟨c.phase, firstsBy Filter.signature c.filters⟩ : Criteria)) =
      [⟨2, [onProfile "HEA200"]⟩, ⟨1, [onProfile "HEB300"]⟩] := by decide +kernel
  refine ⟨collected, behind, (hidden _ _ _ rfl behind).2, ?_, ?_⟩
  · exact usable _ List.mem_cons_self _ (by decide)
  · rw [collected]
    exact kept ▸ normal

end PhaseTable
