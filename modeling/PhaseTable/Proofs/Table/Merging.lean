/-
# PhaseTable.Proofs.Table.Merging -- the pass over a snapshot makes its rows

The pass that makes a table changes rows in their places: an entry of the catalog goes into the
row of its phase, or into a new one.  What it makes are the rows that the snapshot describes
(`Snapshot.row`), and the steps to that follow the pass:

* one entry changes the row of its phase and no other (`Snapshot.row_scan_concat`), so if the rows
  are those of the entries so far, in any order, they are so with the next one
  (`Snapshot.HasRows.merge`), and by induction after all of them (`Snapshot.hasRows_foldl`);
* the known numbers of objects complete each row for itself (`Snapshot.recount_row`);
* different rows have different phases, so the sort leaves one order
  (`Snapshot.HasRows.mergeSort`).

`Table.ofSnapshot_eq` puts this together with the reading of the objects.
-/
import PhaseTable.Proofs.Reduction
import PhaseTable.Proofs.Table.Reading
import PhaseTable.Proofs.Text.Trimming

namespace PhaseTable

set_option autoImplicit false

open Text

/-! ## One row -/

namespace Column

/-- What a column that does not count makes of no objects. -/
theorem objectsWrite_nil {c : Column} (plain : c.counts = false) :
    c.objectsWrite [] = (c.key, .empty) := by
  have reduced : c.aggregate.reduce [] 0 = .empty :=
    Aggregate.reduce_of_empty (counts_eq_false_iff.mp plain) (List.forall_mem_nil _) 0
  show c.write (c.aggregate.reduce [] 0) = _
  rw [reduced, write, Cell.convert_empty]

theorem key_mem_entryWrites {columns : List Column} {c : Column} (member : c ∈ columns)
    (counted : c.counts) (objectCount : Nat) (e : CatalogEntry) :
    c.key ∈ (columns.filterMap (·.entryWrite? objectCount e)).map (·.1) := by
  have written : c.entryWrite? objectCount e = some (c.write (.ofCount objectCount)) := by
    rw [entryWrite?, if_pos counted]
  exact List.mem_map.mpr ⟨_, List.mem_filterMap.mpr ⟨c, member, written⟩, rfl⟩

end Column

namespace Row

/-- Under a key that no column counts for, a row without objects is empty. -/
theorem get?_vacantCells {columns : List Column} {k : String}
    (plain : ∀ c ∈ columns, c.key = k → c.counts = false) :
    (OrderedMap.ofList (columns.map fun c => (c.key, Cell.empty))).get? k =
      (OrderedMap.ofList (columns.map (·.objectsWrite []))).get? k := by
  have keys : ∀ c : Column, (c.objectsWrite []).1 = c.key := fun _ => rfl
  simp only [OrderedMap.get?_ofList_map, keys]
  cases last : columns.reverse.find? (·.key = k) with
  | none => rfl
  | some c =>
      have member : c ∈ columns := List.mem_reverse.mp (List.mem_of_find?_eq_some last)
      have named : c.key = k := by simpa using List.find?_some last
      rw [Option.map_some, Option.map_some, Column.objectsWrite_nil (plain c member named)]

/-- A row without objects shows the same of an entry, whether it is made for the entry or read. -/
theorem identify_vacant (columns : List Column) (n : Int32) (name : String) :
    (vacant columns n).identify columns name =
      (⟨n, "", 0, .ofList (columns.map (·.objectsWrite []))⟩ : Row).identify columns name := by
  have emptied : vacant columns n =
      ⟨n, "", 0, .ofList (columns.map fun c => (c.key, Cell.empty))⟩ :=
    putAll_eq _ _
  simp only [emptied, identify, rename, blank_empty, if_true, putAll_eq]
  congr 1
  refine OrderedMap.foldl_insert_congr fun k unwritten => get?_vacantCells fun c member named => ?_
  by_contra counted
  rw [Bool.not_eq_false] at counted
  exact unwritten (named ▸ Column.key_mem_entryWrites member counted 0 ⟨n, name⟩)

end Row

namespace Snapshot

variable {columns : List Column}

/-- The row of a phase depends on what belongs to the phase. -/
theorem row_congr {s t : Snapshot} {n : Int32} (objects : s.objectsOf n = t.objectsOf n)
    (catalog : s.catalogOf n = t.catalogOf n)
    (counts : s.objectCounts.get? n = t.objectCounts.get? n) :
    s.row columns n = t.row columns n := by
  simp only [row, phaseName, objectCount, cellWrites, objects, catalog, counts]

theorem phaseName_scan_concat (s : Snapshot) (catalog : List CatalogEntry) (e : CatalogEntry) :
    (s.scan (catalog ++ [e])).phaseName e.phase =
      if Text.blank ((s.scan catalog).phaseName e.phase) then
        (nonBlank? e.phaseName).getD ((s.scan catalog).phaseName e.phase)
      else (s.scan catalog).phaseName e.phase := by
  let names := (s.objectsOf e.phase).map ObjectRecord.phaseName ++
    (catalog.filter (·.phase = e.phase)).map CatalogEntry.phaseName
  have before : (s.scan catalog).phaseName e.phase = (names.findSome? nonBlank?).getD "" := rfl
  have after : (s.scan (catalog ++ [e])).phaseName e.phase =
      ((names.findSome? nonBlank?).or (nonBlank? e.phaseName)).getD "" := by
    simp [phaseName, names, List.filter_append, List.findSome?_append, Option.or_assoc]
  rw [before, after]
  cases first : names.findSome? nonBlank? with
  | none => simp
  | some name =>
      obtain ⟨given, -, trimmed⟩ := List.exists_of_findSome?_eq_some first
      simp [(trimmed_of_nonBlank? trimmed).not_blank]

theorem cellWrites_scan_concat (s : Snapshot) (catalog : List CatalogEntry) (e : CatalogEntry) :
    (s.scan (catalog ++ [e])).cellWrites columns e.phase =
      (s.scan catalog).cellWrites columns e.phase ++
        columns.filterMap (·.entryWrite? (s.objectsOf e.phase).length e) := by
  simp [cellWrites, List.filter_append]

/-- An entry of the catalog changes the row of its phase and no other. -/
theorem row_scan_concat (s : Snapshot) (catalog : List CatalogEntry) (e : CatalogEntry)
    (n : Int32) :
    (s.scan (catalog ++ [e])).row columns n =
      if n = e.phase then ((s.scan catalog).row columns n).identify columns e.phaseName
      else (s.scan catalog).row columns n := by
  split
  · next own =>
    subst own
    let before := (s.scan catalog).row columns e.phase
    have entry : (⟨before.phase, e.phaseName⟩ : CatalogEntry) = e := rfl
    have name : before.phaseName = (s.scan catalog).phaseName e.phase := rfl
    have count : before.objectCount = (s.objectsOf e.phase).length := rfl
    show _ = before.identify columns e.phaseName
    rw [row, phaseName_scan_concat, cellWrites_scan_concat, OrderedMap.ofList_append,
      Row.identify, name, entry, count, Row.putAll_eq]
    by_cases unnamed : Text.blank ((s.scan catalog).phaseName e.phase)
    · simp only [unnamed, if_true]
      rfl
    · simp only [unnamed]
      rfl
  · next other =>
    have catalog : (catalog ++ [e]).filter (·.phase = n) = catalog.filter (·.phase = n) := by
      simp [List.filter_append, Ne.symm other]
    exact row_congr rfl catalog rfl

theorem row_eq_of_unnamed {s : Snapshot} {n : Int32} (unnamed : n ∉ s.phases)
    (uncounted : s.objectCounts.get? n = none) :
    s.row columns n = ⟨n, "", 0, .ofList (columns.map (·.objectsWrite []))⟩ := by
  rw [mem_phases, not_or] at unnamed
  have objects : s.objectsOf n = [] := s.objectsOf_eq_nil_iff.mpr unnamed.1
  have catalog : s.catalogOf n = [] := by simpa [catalogOf] using unnamed.2
  simp [row, phaseName, objectCount, cellWrites, objects, catalog, uncounted]

/-! ## All rows -/

/-- The rows are those of the snapshot, in some order. -/
def HasRows (s : Snapshot) (columns : List Column) (rows : List Row) : Prop :=
  rows.Perm (s.phases.map (s.row columns))

theorem nodup_phases (s : Snapshot) : s.phases.Nodup :=
  s.ascending_phases.imp Int32.ne_of_lt

theorem map_phase_row (s : Snapshot) : (s.phases.map (s.row columns)).map Row.phase = s.phases := by
  rw [List.map_map]
  exact List.map_id s.phases

namespace HasRows

variable {s : Snapshot} {rows : List Row}

theorem phases_perm (has : s.HasRows columns rows) : (rows.map Row.phase).Perm s.phases := by
  have perm := List.Perm.map Row.phase has
  rwa [map_phase_row] at perm

theorem nodup (has : s.HasRows columns rows) : (rows.map Row.phase).Nodup :=
  has.phases_perm.nodup_iff.mpr s.nodup_phases

end HasRows

end Snapshot

/-- To modify the first row of a phase is to modify all of them if there is but one. -/
theorem modify_findIdx? {f : Row → Row} {n : Int32} :
    ∀ {rows : List Row} {i : Nat}, (rows.map Row.phase).Nodup →
      rows.findIdx? (·.phase = n) = some i →
      rows.modify i f = rows.map fun r => if r.phase = n then f r else r
  | r :: rest, i, nodup, found => by
      rw [List.map_cons, List.nodup_cons] at nodup
      rw [List.findIdx?_cons] at found
      by_cases own : r.phase = n
      · have others : ∀ x ∈ rest, x.phase ≠ n := by
          intro x member same
          exact nodup.1 (own ▸ same ▸ List.mem_map_of_mem member)
        have unchanged : (rest.map fun r => if r.phase = n then f r else r) = rest := by
          refine (List.map_congr_left fun x member => ?_).trans rest.map_id
          exact if_neg (others x member)
        obtain rfl : 0 = i := by simpa [own] using found
        rw [List.map_cons, if_pos own, unchanged]
        rfl
      · obtain ⟨j, later, rfl⟩ : ∃ j, rest.findIdx? (·.phase = n) = some j ∧ j + 1 = i := by
          simpa [own] using found
        rw [List.map_cons, if_neg own, ← modify_findIdx? nodup.2 later]
        rfl

namespace Snapshot

variable {columns : List Column}

theorem mem_phases_scan_concat {s : Snapshot} {catalog : List CatalogEntry} {e : CatalogEntry}
    {n : Int32} :
    n ∈ (s.scan (catalog ++ [e])).phases ↔ n ∈ (s.scan catalog).phases ∨ n = e.phase := by
  have entries : (∃ x ∈ catalog ++ [e], x.phase = n) ↔
      (∃ x ∈ catalog, x.phase = n) ∨ n = e.phase := by
    simp [or_and_right, exists_or, eq_comm]
  rw [mem_phases, mem_phases, or_assoc]
  exact or_congr Iff.rfl entries

namespace HasRows

variable {s : Snapshot} {catalog : List CatalogEntry} {rows : List Row}

/-- An entry for a phase that has a row goes into that row. -/
theorem identify (has : (s.scan catalog).HasRows columns rows) {e : CatalogEntry}
    (named : e.phase ∈ (s.scan catalog).phases) :
    (s.scan (catalog ++ [e])).HasRows columns
      (rows.map fun r => if r.phase = e.phase then r.identify columns e.phaseName else r) := by
  have phases : (s.scan (catalog ++ [e])).phases = (s.scan catalog).phases := by
    refine OrderedMap.eq_of_ascending (ascending_phases _) (ascending_phases _) fun n => ?_
    rw [mem_phases_scan_concat]
    exact or_iff_left_of_imp fun own => own ▸ named
  rw [HasRows, phases]
  refine (List.Perm.map _ has).trans (List.Perm.of_eq ?_)
  rw [List.map_map]
  exact List.map_congr_left fun n _ => (row_scan_concat s catalog e n).symm

/-- An entry for a phase without a row makes one. -/
theorem concat (has : (s.scan catalog).HasRows columns rows) {e : CatalogEntry}
    (unnamed : e.phase ∉ (s.scan catalog).phases) :
    (s.scan (catalog ++ [e])).HasRows columns
      (rows ++ [(Row.vacant columns e.phase).identify columns e.phaseName]) := by
  have phases :
      (s.scan (catalog ++ [e])).phases.Perm ((s.scan catalog).phases ++ [e.phase]) := by
    have nodup : ((s.scan catalog).phases ++ [e.phase]).Nodup := by
      rw [List.nodup_append]
      refine ⟨nodup_phases _, List.pairwise_singleton _ _, fun n member m last => ?_⟩
      rw [List.mem_singleton.mp last]
      exact fun own => unnamed (own ▸ member)
    rw [List.perm_ext_iff_of_nodup (nodup_phases _) nodup]
    intro n
    rw [mem_phases_scan_concat, List.mem_append, List.mem_singleton]
  have old : (s.scan catalog).phases.map ((s.scan (catalog ++ [e])).row columns) =
      (s.scan catalog).phases.map ((s.scan catalog).row columns) := by
    refine List.map_congr_left fun n member => ?_
    have other : n ≠ e.phase := fun own => unnamed (own ▸ member)
    rw [row_scan_concat, if_neg other]
  have new : (s.scan (catalog ++ [e])).row columns e.phase =
      (Row.vacant columns e.phase).identify columns e.phaseName := by
    rw [row_scan_concat, if_pos rfl, row_eq_of_unnamed unnamed rfl, Row.identify_vacant]
  have all : (rows ++ [(Row.vacant columns e.phase).identify columns e.phaseName]).Perm
      (((s.scan catalog).phases ++ [e.phase]).map ((s.scan (catalog ++ [e])).row columns)) := by
    rw [List.map_append, old, List.map_singleton, new]
    exact List.Perm.append_right _ has
  exact all.trans (List.Perm.map _ phases.symm)

/-- If the rows are those of the entries so far, they are so with the next one. -/
theorem merge (has : (s.scan catalog).HasRows columns rows) (e : CatalogEntry) :
    (s.scan (catalog ++ [e])).HasRows columns (mergeEntry columns rows e) := by
  have listed : e.phase ∈ rows.map Row.phase ↔ e.phase ∈ (s.scan catalog).phases :=
    has.phases_perm.mem_iff
  rw [mergeEntry]
  cases found : rows.findIdx? (·.phase = e.phase) with
  | some i =>
      have named : e.phase ∈ rows.map Row.phase := by
        obtain ⟨inside, own, -⟩ := List.findIdx?_eq_some_iff_getElem.mp found
        rw [← of_decide_eq_true own]
        exact List.mem_map_of_mem (List.getElem_mem inside)
      show HasRows _ _ (rows.modify i fun r => r.identify columns e.phaseName)
      rw [modify_findIdx? has.nodup found]
      exact has.identify (listed.mp named)
  | none =>
      have unnamed : e.phase ∉ rows.map Row.phase := by simpa using found
      exact has.concat (mt listed.mpr unnamed)

end HasRows

/-- After all entries of a catalog the rows are those of the catalog. -/
theorem hasRows_foldl (s : Snapshot) (catalog : List CatalogEntry) :
    (s.scan catalog).HasRows columns
      (catalog.foldl (mergeEntry columns) ((s.scan []).phases.map ((s.scan []).row columns))) := by
  induction catalog using List.reverseRecOn with
  | nil => exact .refl _
  | append_singleton catalog e ih =>
      rw [List.foldl_append, List.foldl_cons, List.foldl_nil]
      exact ih.merge e

/-! ## Known numbers and order -/

/-- A known number of objects completes the row of its phase. -/
theorem recount_row (s : Snapshot) (n : Int32) :
    ((s.scan s.catalog).row columns n).recount columns s.objectCounts = s.row columns n := by
  have phase : ((s.scan s.catalog).row columns n).phase = n := rfl
  rw [Row.recount, phase]
  cases known : s.objectCounts.get? n with
  | none => exact row_congr rfl rfl known.symm
  | some count =>
      have catalog : (s.scan s.catalog).catalogOf n = s.catalogOf n := rfl
      have writes : s.cellWrites columns n = (s.scan s.catalog).cellWrites columns n ++
          columns.filterMap (·.countWrite? count.toNat) := by
        simp [cellWrites, known, catalog]
      have number : s.objectCount n = count.toNat := by rw [objectCount, known]
      show Row.putAll { (s.scan s.catalog).row columns n with objectCount := count.toNat } _ = _
      rw [Row.putAll_eq, row, row, writes, number, OrderedMap.ofList_append]
      rfl

theorem HasRows.recount {s : Snapshot} {rows : List Row}
    (has : (s.scan s.catalog).HasRows columns rows) :
    s.HasRows columns (rows.map (Row.recount columns s.objectCounts)) := by
  have each : ((s.scan s.catalog).phases.map ((s.scan s.catalog).row columns)).map
      (Row.recount columns s.objectCounts) = s.phases.map (s.row columns) := by
    rw [List.map_map]
    exact List.map_congr_left fun n _ => s.recount_row n
  exact (List.Perm.map _ has).trans (List.Perm.of_eq each)

end Snapshot

namespace Row

theorem comesBefore_iff {r t : Row} :
    r.comesBefore t ↔
      r.phase < t.phase ∨ r.phase = t.phase ∧ lowerCase r.phaseName ≤ lowerCase t.phaseName := by
  simp [comesBefore]

theorem comesBefore_trans (r t u : Row) (first : r.comesBefore t) (second : t.comesBefore u) :
    r.comesBefore u := by
  rw [comesBefore_iff] at *
  rcases first with less | ⟨same, name⟩
  · rcases second with less' | ⟨same', -⟩
    · exact .inl (Int32.lt_trans less less')
    · exact .inl (same' ▸ less)
  · rcases second with less' | ⟨same', name'⟩
    · exact .inl (same ▸ less')
    · exact .inr ⟨same.trans same', String.le_trans name name'⟩

theorem comesBefore_total (r t : Row) : r.comesBefore t || t.comesBefore r := by
  rw [Bool.or_eq_true, comesBefore_iff, comesBefore_iff]
  by_cases less : r.phase < t.phase
  · exact .inl (.inl less)
  · by_cases same : r.phase = t.phase
    · rcases String.le_total (lowerCase r.phaseName) (lowerCase t.phaseName) with name | name
      · exact .inl (.inr ⟨same, name⟩)
      · exact .inr (.inr ⟨same.symm, name⟩)
    · exact .inr (.inl (KeyOrder.connected less same))

end Row

namespace Snapshot

variable {columns : List Column}

/-- Sorting leaves the rows of a snapshot in the order of its phases. -/
theorem HasRows.mergeSort {s : Snapshot} {rows : List Row} (has : s.HasRows columns rows) :
    rows.mergeSort Row.comesBefore = s.phases.map (s.row columns) := by
  have sorted : (s.phases.map (s.row columns)).Pairwise fun r t => r.comesBefore t := by
    rw [List.pairwise_map]
    refine s.ascending_phases.imp fun less => ?_
    exact Row.comesBefore_iff.mpr (.inl less)
  have perm : (rows.mergeSort Row.comesBefore).Perm (s.phases.map (s.row columns)) :=
    (List.mergeSort_perm _ _).trans has
  refine perm.eq_of_pairwise ?_
    (List.pairwise_mergeSort Row.comesBefore_trans Row.comesBefore_total rows) sorted
  intro r t left right before after
  -- Rows that come before each other have one phase, and the snapshot has one row for it.
  have same : r.phase = t.phase := by
    rw [Row.comesBefore_iff] at before after
    rcases before with less | ⟨same, -⟩
    · rcases after with more | ⟨same, -⟩
      · exact absurd more (Int32.lt_asymm less)
      · exact same.symm
    · exact same
  obtain ⟨n, -, rfl⟩ := List.mem_map.mp (perm.mem_iff.mp left)
  obtain ⟨m, -, rfl⟩ := List.mem_map.mp right
  exact congrArg (s.row columns) same

/-- The pass after the reading of the objects makes the rows of the snapshot. -/
theorem completeRows_eq (s : Snapshot) (columns : List Column) :
    s.completeRows columns ((s.scan []).phases.map ((s.scan []).row columns)) =
      s.phases.map (s.row columns) := by
  have merged : (s.scan s.catalog).HasRows columns
      (s.catalog.foldl (mergeEntry columns) ((s.scan []).phases.map ((s.scan []).row columns))) :=
    s.hasRows_foldl s.catalog
  exact merged.recount.mergeSort

end Snapshot

/-! ## Tables -/

namespace Table

/-- The pass makes the table that the snapshot describes: the rows of its phases, ascending, and
the log of the values that stand in for others. -/
theorem ofSnapshot_eq (s : Snapshot) (columns : List Column) :
    ofSnapshot s columns =
      if s.isEmpty then empty
      else if columns.isEmpty then { empty with notices := [.noColumn] }
      else
        { rows := s.phases.map (s.row columns)
          notices := []
          standInSources :=
            distinctBy (lowerCase ·.key) ((s.standIns columns).map StandIn.source) } := by
  rw [ofSnapshot, s.run_readRows columns]
  simp only [s.completeRows_eq columns]

theorem rows_ofSnapshot (s : Snapshot) (columns : List Column) :
    (ofSnapshot s columns).rows = if columns = [] then [] else s.phases.map (s.row columns) := by
  rw [ofSnapshot_eq]
  by_cases listed : columns = []
  · rw [if_pos listed, listed]
    split <;> rfl
  · have some : columns.isEmpty = false := by simpa using listed
    rw [if_neg listed, some]
    by_cases vacant : s.isEmpty
    · rw [if_pos vacant, (s.isEmpty_iff.mp vacant).1]
      rfl
    · rw [if_neg vacant]
      rfl

end Table

end PhaseTable
