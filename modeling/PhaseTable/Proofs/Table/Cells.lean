/-
# PhaseTable.Proofs.Table.Cells -- what the cells of a row show

The cells of a row come from a list of writes: of the objects, of each entry of the catalog, and of
the known number of objects.  The keys of columns differ, so no column writes to the cell of
another (`Snapshot.filter_cellWrites`), and the last write of a column is its cell.
`Snapshot.shown` says which one that is, and `Table.get?_cells` finds it in the rows of a table.

From that follows what a row has for its columns (`Row.Fits`), and that the columns that count
agree with the number of objects of the row, wherever that number comes from.
-/
import PhaseTable.Proofs.Config.FixedPoint
import PhaseTable.Proofs.Table.Merging

namespace PhaseTable

set_option autoImplicit false

open Text

theorem Config.WellFormed.config_check {config : Config} (wellFormed : config.WellFormed) :
    (Config.check (some config)).config = config := by
  rw [Config.check_of_wellFormed wellFormed]

theorem Config.WellFormed.keys_nodup {config : Config} (wellFormed : config.WellFormed) :
    (config.columns.map Column.key).Nodup := by
  have lower : ((config.columns.map Column.key).map lowerCase).Nodup := by
    rw [List.map_map]
    exact wellFormed.keys_distinct
  exact List.Nodup.of_map lowerCase lower

/-! ## The writes of a column -/

namespace Column

/-- An attribute of the phase in any case is found as it is stored. -/
theorem source?_of_showsPhase {c : Column} {attr : String} (stored : attr ∈ phaseAttributes)
    (showing : c.showsPhase attr = true) : c.source? = some (.phase, .of .phase attr) := by
  obtain ⟨trimmed, small⟩ := phaseAttributes_stored attr stored
  obtain ⟨type, same⟩ := Bool.and_eq_true_iff.mp showing
  have lower : asciiLower c.attr = attr := (sameIgnoringAsciiCase_iff.mp same).trans small
  have resolved : ModelSource.resolve .phase c.attr = .ok (.of .phase attr) := by
    simp only [ModelSource.resolve, (trimmed.of_sameIgnoringAsciiCase same).1, lower, if_pos stored]
  rw [source?, of_decide_eq_true type, Option.bind_some, resolved]

/-- A column of an attribute of the phase shows that attribute of an object's phase. -/
theorem valueIn_of_showsPhase {c : Column} {attr : String} (stored : attr ∈ phaseAttributes)
    (showing : c.showsPhase attr = true) (o : ObjectRecord) :
    c.valueIn o = o.phaseValue (.of .phase attr) := by
  rw [valueIn, source?_of_showsPhase stored showing]
  rfl

/-- What an entry of the catalog says for a column that does not count. -/
def entryValue? (c : Column) (e : CatalogEntry) : Option Cell :=
  if c.showsPhase "number" then some (.ofInt32 e.phase)
  else if c.showsPhase "name" && !Text.blank e.phaseName then some (.text e.phaseName)
  else none

section Writes

variable {c : Column}

theorem entryWrite?_of_counts (counted : c.counts = true) (objectCount : Nat) (e : CatalogEntry) :
    c.entryWrite? objectCount e = some (c.write (.ofCount objectCount)) :=
  if_pos counted

theorem entryWrite?_of_plain (plain : c.counts = false) (objectCount : Nat) (e : CatalogEntry) :
    c.entryWrite? objectCount e = (c.entryValue? e).map c.write := by
  rw [entryWrite?, plain, entryValue?]
  simp only [Bool.false_eq_true, if_false]
  split
  · rfl
  · split <;> rfl

theorem key_of_entryWrite? {objectCount : Nat} {e : CatalogEntry} {write : CellWrite}
    (written : c.entryWrite? objectCount e = some write) : write.1 = c.key := by
  cases counted : c.counts with
  | true =>
      rw [entryWrite?_of_counts counted] at written
      cases written
      rfl
  | false =>
      rw [entryWrite?_of_plain counted] at written
      obtain ⟨cell, -, rfl⟩ := Option.map_eq_some_iff.mp written
      rfl

theorem key_of_countWrite? {objectCount : Nat} {write : CellWrite}
    (written : c.countWrite? objectCount = some write) : write.1 = c.key := by
  rw [countWrite?] at written
  split at written
  · cases written
    rfl
  · cases written

end Writes

end Column

section Keys

variable {columns : List Column} {c : Column}

/-- Where keys differ, a key is that of one column. -/
theorem filter_key (nodup : (columns.map Column.key).Nodup) (member : c ∈ columns) :
    columns.filter (·.key = c.key) = [c] := by
  induction columns with
  | nil => cases member
  | cons d rest ih =>
      obtain ⟨fresh, nodup⟩ := List.nodup_cons.mp nodup
      rcases List.mem_cons.mp member with rfl | later
      · have others : rest.filter (·.key = c.key) = [] := by
          rw [List.filter_eq_nil_iff]
          intro d listed same
          have equal : d.key = c.key := of_decide_eq_true same
          exact fresh (equal ▸ List.mem_map_of_mem listed)
        rw [List.filter_cons, if_pos (decide_eq_true rfl), others]
      · have other : d.key ≠ c.key := fun equal => fresh (equal ▸ List.mem_map_of_mem later)
        rw [List.filter_cons_of_neg (by simpa using other), ih nodup later]

/-- If each column writes under its own key, one column has written what is under a key. -/
theorem filter_writes (nodup : (columns.map Column.key).Nodup) (member : c ∈ columns)
    {f : Column → Option CellWrite} (own : ∀ d write, f d = some write → write.1 = d.key) :
    (columns.filterMap f).filter (·.1 = c.key) = [c].filterMap f := by
  -- The test of a write is a test of the column that made it.
  have each : ∀ d, ((f d).filter fun write => write.1 = c.key) =
      if d.key = c.key then f d else none := by
    intro d
    cases written : f d with
    | none => simp
    | some write => simp [Option.filter_some, own d write written]
  rw [List.filter_filterMap, ← filter_key nodup member, List.filterMap_filter]
  simp only [each, decide_eq_true_eq]

end Keys

/-! ## The cell of a column -/

namespace Snapshot

variable {columns : List Column} {c : Column}

/-- What a phase shows in a column, before it is converted: a column that counts shows the number of
objects, any other one what the last entry of the catalog says, or else its objects. -/
def shown (s : Snapshot) (c : Column) (n : Int32) : Cell :=
  if c.counts then .ofCount (s.objectCount n)
  else ((s.catalogOf n).filterMap c.entryValue?).getLast?.getD
    (c.aggregate.reduce ((s.objectsOf n).map c.valueIn) (s.objectsOf n).length)

/-- **Columns do not touch each other's cells.** -/
theorem filter_cellWrites (nodup : (columns.map Column.key).Nodup) (member : c ∈ columns)
    (s : Snapshot) (n : Int32) :
    (s.cellWrites columns n).filter (·.1 = c.key) = s.cellWrites [c] n := by
  have objects : ∀ os, (columns.map (·.objectsWrite os)).filter (·.1 = c.key) =
      [c].map (·.objectsWrite os) := by
    intro os
    rw [List.filter_map, ← filter_key nodup member]
    rfl
  have entry : ∀ k e, (columns.filterMap (·.entryWrite? k e)).filter (·.1 = c.key) =
      [c].filterMap (·.entryWrite? k e) :=
    fun k e => filter_writes nodup member fun _ _ => Column.key_of_entryWrite?
  have count : ∀ k, (columns.filterMap (·.countWrite? k)).filter (·.1 = c.key) =
      [c].filterMap (·.countWrite? k) :=
    fun k => filter_writes nodup member fun _ _ => Column.key_of_countWrite?
  simp only [cellWrites, List.filter_append, objects, List.filter_flatMap, entry]
  cases s.objectCounts.get? n with
  | none => rfl
  | some k => simp only [count]

theorem cellWrites_singleton (s : Snapshot) (c : Column) (n : Int32) :
    s.cellWrites [c] n = c.objectsWrite (s.objectsOf n) ::
      ((s.catalogOf n).filterMap (c.entryWrite? (s.objectsOf n).length) ++
        ((s.objectCounts.get? n).bind (c.countWrite? ·.toNat)).toList) := by
  have entries : (s.catalogOf n).flatMap (fun e => [c].filterMap
      (·.entryWrite? (s.objectsOf n).length e)) =
      (s.catalogOf n).filterMap (c.entryWrite? (s.objectsOf n).length) :=
    (List.filterMap_eq_flatMap_toList _ _).symm
  rw [cellWrites, entries]
  cases s.objectCounts.get? n with
  | none => rfl
  | some k => rfl

/-- The numbers of objects of a phase that a column which counts shows, one after the other. -/
def countsShown (s : Snapshot) (n : Int32) : List Nat :=
  (s.objectsOf n).length :: (s.catalogOf n).map (fun _ => (s.objectsOf n).length) ++
    ((s.objectCounts.get? n).map UInt64.toNat).toList

/-- The entries of the catalog repeat the number that was counted; the known one comes last. -/
theorem getLast?_countsShown (s : Snapshot) (n : Int32) :
    (s.countsShown n).getLast? = some (s.objectCount n) := by
  rw [countsShown, objectCount]
  cases s.objectCounts.get? n with
  | some k => rw [Option.map_some, Option.toList_some, List.getLast?_concat]
  | none =>
      rw [Option.map_none, Option.toList_none, List.append_nil, List.getLast?_cons,
        List.getLast?_map]
      cases (s.catalogOf n).getLast? <;> rfl

theorem cellWrites_of_counts (counted : c.counts = true) (s : Snapshot) (n : Int32) :
    s.cellWrites [c] n = (s.countsShown n).map fun k => c.write (.ofCount k) := by
  have first : c.objectsWrite (s.objectsOf n) = c.write (.ofCount (s.objectsOf n).length) := by
    rw [Column.objectsWrite, Column.counts_iff.mp counted]
    rfl
  have entries : (s.catalogOf n).filterMap (c.entryWrite? (s.objectsOf n).length) =
      (s.catalogOf n).map fun _ => c.write (.ofCount (s.objectsOf n).length) := by
    rw [← List.filterMap_eq_map]
    exact List.filterMap_congr fun e _ => Column.entryWrite?_of_counts counted _ e
  have known : ∀ k, c.countWrite? k = some (c.write (.ofCount k)) := fun k => if_pos counted
  rw [cellWrites_singleton, first, entries, countsShown, List.map_append, List.map_cons,
    List.map_map]
  cases s.objectCounts.get? n with
  | none => rfl
  | some k =>
      rw [Option.bind_some, known]
      rfl

theorem cellWrites_of_plain (plain : c.counts = false) (s : Snapshot) (n : Int32) :
    s.cellWrites [c] n =
      (c.aggregate.reduce ((s.objectsOf n).map c.valueIn) (s.objectsOf n).length ::
        (s.catalogOf n).filterMap c.entryValue?).map c.write := by
  have entries : (s.catalogOf n).filterMap (c.entryWrite? (s.objectsOf n).length) =
      ((s.catalogOf n).filterMap c.entryValue?).map c.write := by
    rw [List.map_filterMap]
    exact List.filterMap_congr fun e _ => Column.entryWrite?_of_plain plain _ e
  have uncounted : (s.objectCounts.get? n).bind (c.countWrite? ·.toNat) = none := by
    refine Option.bind_eq_none_iff.mpr fun k _ => ?_
    rw [Column.countWrite?, plain]
    rfl
  rw [cellWrites_singleton, entries, uncounted, Option.toList_none, List.append_nil]
  rfl

/-- The last write of a column is what the phase shows in it. -/
theorem getLast?_cellWrites (s : Snapshot) (c : Column) (n : Int32) :
    (s.cellWrites [c] n).getLast? = some (c.write (s.shown c n)) := by
  rw [shown]
  cases counted : c.counts with
  | true =>
      rw [cellWrites_of_counts counted, List.getLast?_map, getLast?_countsShown]
      rfl
  | false =>
      rw [cellWrites_of_plain counted, List.getLast?_map, List.getLast?_cons]
      rfl

theorem get?_cells_row (nodup : (columns.map Column.key).Nodup) (member : c ∈ columns)
    (s : Snapshot) (n : Int32) :
    (s.row columns n).cells.get? c.key = some ((s.shown c n).convert c.valueType) := by
  show (OrderedMap.ofList (s.cellWrites columns n)).get? c.key = _
  rw [OrderedMap.get?_ofList, filter_cellWrites nodup member, getLast?_cellWrites]
  rfl

/-- All writes are those of columns. -/
theorem key_of_mem_cellWrites {s : Snapshot} {n : Int32} {write : CellWrite}
    (written : write ∈ s.cellWrites columns n) : write.1 ∈ columns.map Column.key := by
  simp only [cellWrites, List.mem_append, List.mem_flatMap] at written
  rcases written with (objects | ⟨e, -, entry⟩) | count
  · obtain ⟨c, member, rfl⟩ := List.mem_map.mp objects
    exact List.mem_map.mpr ⟨c, member, rfl⟩
  · obtain ⟨c, member, own⟩ := List.mem_filterMap.mp entry
    exact List.mem_map.mpr ⟨c, member, (Column.key_of_entryWrite? own).symm⟩
  · split at count
    · obtain ⟨c, member, own⟩ := List.mem_filterMap.mp count
      exact List.mem_map.mpr ⟨c, member, (Column.key_of_countWrite? own).symm⟩
    · cases count

theorem mem_keys_row (s : Snapshot) (columns : List Column) (n : Int32) {k : String} :
    k ∈ (s.row columns n).cells.keys ↔ k ∈ columns.map Column.key := by
  have empty : k ∉ (∅ : OrderedMap String Cell).keys := List.not_mem_nil
  show k ∈ (OrderedMap.ofList (s.cellWrites columns n)).keys ↔ _
  rw [OrderedMap.ofList, OrderedMap.mem_keys_foldl, or_iff_right empty]
  constructor
  · intro written
    obtain ⟨write, member, rfl⟩ := List.mem_map.mp written
    exact key_of_mem_cellWrites member
  · intro listed
    obtain ⟨c, member, rfl⟩ := List.mem_map.mp listed
    have first : c.objectsWrite (s.objectsOf n) ∈ s.cellWrites columns n := by
      simp only [cellWrites, List.mem_append]
      exact .inl (.inl (List.mem_map_of_mem member))
    exact List.mem_map.mpr ⟨_, first, rfl⟩

theorem keys_row_perm (nodup : (columns.map Column.key).Nodup) (s : Snapshot) (n : Int32) :
    (s.row columns n).cells.keys.Perm (columns.map Column.key) := by
  have once : (s.row columns n).cells.keys.Nodup :=
    (OrderedMap.ascending_keys _).imp String.ne_of_lt
  rw [List.perm_ext_iff_of_nodup once nodup]
  exact fun k => s.mem_keys_row columns n

theorem shown_of_count (count : c.aggregate = .count) (s : Snapshot) (n : Int32) :
    s.shown c n = .ofCount (s.objectCount n) :=
  if_pos (Column.counts_iff.mpr count)

theorem shown_of_ne_count (plain : c.aggregate ≠ .count) (s : Snapshot) (n : Int32) :
    s.shown c n = ((s.catalogOf n).filterMap c.entryValue?).getLast?.getD
      (c.aggregate.reduce ((s.objectsOf n).map c.valueIn) (s.objectsOf n).length) := by
  rw [shown, Column.counts_eq_false_iff.mpr plain]
  rfl

/-- Where values are put in, neither an object nor the catalog has any. -/
theorem shown_of_editable (wellFormed : c.WellFormed) (editable : c.editable = true)
    (plain : c.aggregate ≠ .count) (s : Snapshot) (n : Int32) : s.shown c n = .empty := by
  have unbound : c.objectType = none := (wellFormed.editable editable).objectType
  have entries : (s.catalogOf n).filterMap c.entryValue? = [] := by
    rw [List.filterMap_eq_nil_iff]
    intro e _
    simp [Column.entryValue?, Column.showsPhase, unbound]
  have values : ∀ cell ∈ (s.objectsOf n).map c.valueIn, cell = .empty := by
    intro cell listed
    obtain ⟨o, -, rfl⟩ := List.mem_map.mp listed
    simp [Column.valueIn, Column.source?, unbound]
  rw [shown_of_ne_count plain, entries, c.aggregate.reduce_of_empty plain values]
  rfl

end Snapshot

/-! ## Rows of a table -/

/-- What a row has for its columns. -/
structure Row.Fits (r : Row) (columns : List Column) : Prop where
  /-- There is one cell for each column, and no other. -/
  keys : r.cells.keys.Perm (columns.map Column.key)
  /-- A value has the type of its column. -/
  typed : ∀ c ∈ columns, ∃ cell, r.cells.get? c.key = some cell ∧ cell.OfType c.valueType
  /-- Where values are put in, none is shown. -/
  vacant : ∀ c ∈ columns, c.editable = true → c.aggregate ≠ .count →
    r.cells.get? c.key = some .empty

namespace Table

theorem mem_rows_iff {s : Snapshot} {columns : List Column} {r : Row} :
    r ∈ (ofSnapshot s columns).rows ↔
      columns ≠ [] ∧ r.phase ∈ s.phases ∧ r = s.row columns r.phase := by
  rw [rows_ofSnapshot]
  by_cases listed : columns = []
  · simp [listed]
  · simp only [ne_eq, listed, not_false_eq_true, if_false, true_and]
    constructor
    · intro member
      obtain ⟨n, named, rfl⟩ := List.mem_map.mp member
      exact ⟨named, rfl⟩
    · rintro ⟨named, row⟩
      exact row ▸ List.mem_map_of_mem named

section Checked

variable {config : Config} {s : Snapshot} {r : Row}

/-- **A cell is what the phase of the row shows in its column.** -/
theorem get?_cells (wellFormed : config.WellFormed)
    (member : r ∈ (ofSnapshot s config.columns).rows) {c : Column} (listed : c ∈ config.columns) :
    r.cells.get? c.key = some ((s.shown c r.phase).convert c.valueType) := by
  have row := (mem_rows_iff.mp member).2.2
  have cell := Snapshot.get?_cells_row wellFormed.keys_nodup listed s r.phase
  rwa [← row] at cell

theorem fits_of_mem (wellFormed : config.WellFormed)
    (member : r ∈ (ofSnapshot s config.columns).rows) : r.Fits config.columns := by
  constructor
  case keys =>
    rw [(mem_rows_iff.mp member).2.2]
    exact s.keys_row_perm wellFormed.keys_nodup r.phase
  case typed =>
    intro c listed
    exact ⟨_, get?_cells wellFormed member listed, Cell.ofType_convert _ _⟩
  case vacant =>
    intro c listed editable plain
    rw [get?_cells wellFormed member listed,
      Snapshot.shown_of_editable (wellFormed.columns c listed) editable plain, Cell.convert_empty]

end Checked

/-- Columns that count, one for the model and one that takes input, beside a phase and a note. -/
def tally : Config where
  version := 2
  phaseKey := "number"
  actions := ["select"]
  columns := [
    .ofPhase "phase" "Phase" .integer "number" 1 [],
    { Column.blank with
      key := "parts", label := "Parts", objectType := some .part, attr := "name"
      aggregate := .count, order := 2 },
    { Column.blank with
      key := "limit", label := "Limit", valueType := .number, editable := true
      aggregate := .count, order := 3 },
    { Column.blank with
      key := "note", label := "Note", editable := true, targetType := some .part
      targetAttr := "name", order := 4 }]

/-- Phases with objects, in the catalog, and with known numbers of objects, in all combinations. -/
def survey : Snapshot :=
  ⟨[⟨2, "Roof", ∅⟩, ⟨-1, "", ∅⟩, ⟨2, "", ∅⟩], [⟨2, "Top"⟩, ⟨7, "Yard"⟩, ⟨7, ""⟩, ⟨8, "Pit"⟩],
    .ofList [(2, 5), (7, 4)]⟩

theorem check_tally : (Config.check (some tally)).config = tally :=
  Config.WellFormed.config_check (by decide)

/-- **Every row fits the columns.**  Whatever configuration was written and whatever was found in
the model, a row has one cell for each column of the checked configuration and no other; the cell is
empty or has the type of its column, and it is empty where values are put in, unless the column
counts. -/
theorem rows_fit (raw : Option Config) (s : Snapshot) :
    ∀ r ∈ (ofSnapshot s (Config.check raw).config.columns).rows,
      r.Fits (Config.check raw).config.columns :=
  fun _ member => fits_of_mem (Config.wellFormed_check raw) member

/-- A phase that only the catalog names fits columns of all kinds. -/
theorem rows_fit_survey :
    ∃ r ∈ (ofSnapshot survey (Config.check (some tally)).config.columns).rows,
      r.phase = 8 ∧ r.Fits tally.columns := by
  have fit := rows_fit (some tally) survey
  rw [check_tally] at fit ⊢
  have member : survey.row tally.columns 8 ∈ (ofSnapshot survey tally.columns).rows :=
    mem_rows_iff.mpr ⟨List.cons_ne_nil _ _, by decide, rfl⟩
  exact ⟨_, member, rfl, fit _ member⟩

/-- **Columns that count agree with their row.**  Whatever configuration was written and whatever
was found in the model, a column that counts shows the number of objects of its row, converted to
the type of the column: the number may be counted or known, and the phase may be that of objects, of
entries of the catalog, or of both. -/
theorem counts_agree (raw : Option Config) (s : Snapshot) :
    ∀ r ∈ (ofSnapshot s (Config.check raw).config.columns).rows,
      ∀ c ∈ (Config.check raw).config.columns, c.aggregate = .count →
        r.cells.get? c.key = some ((Cell.ofCount r.objectCount).convert c.valueType) := by
  intro r member c listed count
  -- The number of the row and the last write of the column are made of the same counts.
  have row := (mem_rows_iff.mp member).2.2
  have number : r.objectCount = s.objectCount r.phase := congrArg Row.objectCount row
  rw [get?_cells (Config.wellFormed_check raw) member listed, Snapshot.shown_of_count count, number]

/-- A known number takes the place of the counted one in columns of all types. -/
theorem counts_agree_survey :
    ∃ r ∈ (ofSnapshot survey (Config.check (some tally)).config.columns).rows,
      r.phase = 2 ∧ r.objectCount = 5 ∧ r.cells.get? "parts" = some (.string "5") ∧
        r.cells.get? "limit" = some (.number (.ofInt 5)) := by
  have agree := counts_agree (some tally) survey
  rw [check_tally] at agree ⊢
  have member : survey.row tally.columns 2 ∈ (ofSnapshot survey tally.columns).rows :=
    mem_rows_iff.mpr ⟨List.cons_ne_nil _ _, by decide, rfl⟩
  refine ⟨_, member, rfl, by decide, ?_, ?_⟩
  · exact agree _ member (tally.columns[1]) (by decide) rfl
  · exact agree _ member (tally.columns[2]) (by decide) rfl

end Table

end PhaseTable
