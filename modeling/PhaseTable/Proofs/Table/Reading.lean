/-
# PhaseTable.Proofs.Table.Reading -- what reading the objects gives

Reading the objects of a snapshot makes the rows of their phases and notes the sources for which
a part stood in for its assembly.  `Reads x a sources` says what a step of it does: it gives `a`,
whatever the log is, and the log afterwards has `sources` noted one by one.  So no value that is
read depends on what was read before, though all steps share the log.

There is one rule for each way to put steps together and one lemma for each function, up to
`Snapshot.reads_readRows`: the rows are those of the phases that the objects name.
-/
import Mathlib.Data.List.Induction
import PhaseTable.Proofs.OrderedMap.Values
import PhaseTable.Proofs.Text.Distinct
import PhaseTable.Table

namespace PhaseTable

set_option autoImplicit false

open Text

/-! ## The log -/

def StandInLog.noteAll (log : StandInLog) (sources : List ModelSource) : StandInLog :=
  sources.foldl note log

namespace StandInLog

theorem noteAll_append (log : StandInLog) (first second : List ModelSource) :
    log.noteAll (first ++ second) = (log.noteAll first).noteAll second :=
  List.foldl_append

theorem note_eq (log : StandInLog) (source : ModelSource) :
    log.note source =
      log ++ if lowerCase source.key ∈ log.map (lowerCase ·.key) then [] else [source] := by
  have known : (log.any fun known => lowerCase known.key = lowerCase source.key) =
      decide (lowerCase source.key ∈ log.map (lowerCase ·.key)) := by
    rw [Bool.eq_iff_iff]
    simp
  rw [note, known]
  by_cases listed : lowerCase source.key ∈ log.map (lowerCase ·.key)
  · simp [listed]
  · simp [listed]

/-- The log of all sources has each of them once up to case. -/
theorem noteAll_empty (sources : List ModelSource) :
    noteAll [] sources = distinctBy (lowerCase ·.key) sources := by
  induction sources using List.reverseRecOn with
  | nil => rfl
  | append_singleton sources source ih =>
      have listed : lowerCase source.key ∈
            (distinctBy (lowerCase ·.key) sources).map (lowerCase ·.key) ↔
          lowerCase source.key ∈ sources.map (lowerCase ·.key) :=
        mem_map_distinctBy
      rw [noteAll_append, ih, distinctBy_concat, noteAll, List.foldl_cons, List.foldl_nil, note_eq]
      simp only [listed]

end StandInLog

/-! ## Steps of reading -/

/-- The step gives `a` and notes `sources`, whatever the log is. -/
def Reads {α : Type} (x : Reading α) (a : α) (sources : List ModelSource) : Prop :=
  ∀ log : StandInLog, x.run log = (a, log.noteAll sources)

namespace Reads

variable {α β : Type} {a : α} {b : β} {first second : List ModelSource}

theorem pure (a : α) : Reads (Pure.pure a) a [] :=
  fun _ => rfl

theorem bind {x : Reading α} {f : α → Reading β} (before : Reads x a first)
    (after : Reads (f a) b second) : Reads (x >>= f) b (first ++ second) := by
  intro log
  rw [StateT.run_bind, before log, StandInLog.noteAll_append, ← after (log.noteAll first)]
  rfl

theorem map {x : Reading α} (f : α → β) (read : Reads x a first) : Reads (f <$> x) (f a) first := by
  intro log
  rw [StateT.run_map, read log]
  rfl

theorem mapM {f : α → Reading β} {value : α → β} {sources : α → List ModelSource} (xs : List α)
    (each : ∀ x, Reads (f x) (value x) (sources x)) :
    Reads (xs.mapM f) (xs.map value) (xs.flatMap sources) := by
  induction xs with
  | nil => exact pure []
  | cons x xs ih =>
      rw [List.mapM_cons, List.map_cons, List.flatMap_cons]
      refine (each x).bind ?_
      have rest := ih.map (value x :: ·)
      rwa [map_eq_pure_bind] at rest

theorem foldlM {f : β → α → Reading β} {step : β → α → β} {sources : α → List ModelSource}
    (xs : List α) (each : ∀ b x, Reads (f b x) (step b x) (sources x)) (start : β) :
    Reads (xs.foldlM f start) (xs.foldl step start) (xs.flatMap sources) := by
  induction xs generalizing start with
  | nil => exact pure start
  | cons x xs ih =>
      rw [List.foldlM_cons, List.foldl_cons, List.flatMap_cons]
      exact (each start x).bind (ih (step start x))

theorem note (source : ModelSource) :
    Reads (modify fun log : StandInLog => log.note source) ⟨⟩ [source] :=
  fun _ => rfl

end Reads

/-! ## Objects -/

/-- Reading an attribute notes its source if a part stands in. -/
theorem ObjectRecord.reads_readAttribute (o : ObjectRecord) (type : ObjectType)
    (source : ModelSource) :
    Reads (o.readAttribute type source)
      (((o.value? source.key).or ((o.standIn? type source).map StandIn.value)).getD .empty)
      ((o.standIn? type source).toList.map StandIn.source) := by
  rw [readAttribute]
  cases present : o.value? source.key with
  | some value =>
      have own : o.standIn? type source = none := by simp [standIn?, present]
      rw [own]
      exact .pure value
  | none =>
      cases o.standIn? type source with
      | some standIn => exact (Reads.note standIn.source).bind (.pure standIn.value)
      | none => exact .pure Cell.empty

theorem ObjectRecord.reads_readValue (o : ObjectRecord) (type : ObjectType) (source : ModelSource) :
    Reads (o.readValue type source) (o.sourceValue type source)
      ((o.standIn? type source).toList.map StandIn.source) := by
  cases type with
  | phase => exact .pure (o.phaseValue source)
  | part => exact o.reads_readAttribute .part source
  | assembly => exact o.reads_readAttribute .assembly source
  | bolt => exact o.reads_readAttribute .bolt source

namespace Column

theorem counts_iff {c : Column} : c.counts = true ↔ c.aggregate = .count :=
  decide_eq_true_iff

theorem counts_eq_false_iff {c : Column} : c.counts = false ↔ c.aggregate ≠ .count :=
  decide_eq_false_iff_not

/-- The sources that are noted when the column is read in the objects of a phase. -/
def sourcesNoted (c : Column) (objects : List ObjectRecord) : List ModelSource :=
  if c.counts then [] else (objects.filterMap c.standInFor?).map StandIn.source

theorem reads_readValue (c : Column) (o : ObjectRecord) :
    Reads (c.readValue o) (c.valueIn o) ((c.standInFor? o).toList.map StandIn.source) := by
  rw [readValue, valueIn, standInFor?]
  cases c.source? with
  | none => exact .pure Cell.empty
  | some found => exact o.reads_readValue found.1 found.2

theorem reads_readWrite (c : Column) (objects : List ObjectRecord) :
    Reads (c.readWrite objects) (c.objectsWrite objects) (c.sourcesNoted objects) := by
  rw [readWrite, sourcesNoted, objectsWrite]
  by_cases counted : c.counts
  · have count : c.aggregate = .count := counts_iff.mp counted
    rw [if_pos counted, if_pos counted, count]
    exact .pure _
  · rw [if_neg counted, if_neg counted]
    have values := Reads.mapM objects c.reads_readValue
    rw [← List.map_flatMap, ← List.filterMap_eq_flatMap_toList] at values
    rw [← List.append_nil (List.map StandIn.source _)]
    exact values.bind (.pure _)

end Column

/-! ## Groups -/

/-- The group of a phase has its objects, in their order. -/
theorem entries_groupObjects (objects : List ObjectRecord) :
    (groupObjects objects).entries =
      (OrderedMap.keysOf (objects.map ObjectRecord.phase)).map fun n =>
        (n, objects.filter (·.phase = n)) := by
  have groups : (groupObjects objects).entries = _ :=
    OrderedMap.entries_gather ObjectRecord.phase (fun o => [o]) objects
  simpa only [List.flatMap_singleton'] using groups

/-! ## Rows -/

namespace Snapshot

/-- What is left of the snapshot if the catalog has these entries and no count is known. -/
def scan (s : Snapshot) (catalog : List CatalogEntry) : Snapshot :=
  ⟨s.objects, catalog, ∅⟩

@[simp] theorem objectsOf_scan (s : Snapshot) (catalog : List CatalogEntry) (n : Int32) :
    (s.scan catalog).objectsOf n = s.objectsOf n :=
  rfl

@[simp] theorem catalogOf_scan (s : Snapshot) (catalog : List CatalogEntry) (n : Int32) :
    (s.scan catalog).catalogOf n = catalog.filter (·.phase = n) :=
  rfl

@[simp] theorem get?_objectCounts_scan (s : Snapshot) (catalog : List CatalogEntry) (n : Int32) :
    (s.scan catalog).objectCounts.get? n = none :=
  rfl

def sourcesNoted (s : Snapshot) (columns : List Column) (phase : Int32) : List ModelSource :=
  columns.flatMap (·.sourcesNoted (s.objectsOf phase))

end Snapshot

namespace Row

/-- Cells that are put under keys change nothing but the cells. -/
theorem putAll_eq (r : Row) (writes : List CellWrite) :
    r.putAll writes =
      { r with
        cells := writes.foldl (fun cells write => cells.insert write.1 write.2) r.cells } := by
  induction writes generalizing r with
  | nil => rfl
  | cons write rest ih => exact ih (r.put write)

theorem reads_ofObjects (s : Snapshot) (columns : List Column) (n : Int32) :
    Reads (ofObjects columns n (s.objectsOf n)) ((s.scan []).row columns n)
      (s.sourcesNoted columns n) := by
  let start : Row :=
    ⟨n, (((s.objectsOf n).map ObjectRecord.phaseName).findSome? nonBlank?).getD "",
      (s.objectsOf n).length, ∅⟩
  have row : (s.scan []).row columns n =
      columns.foldl (fun r c => r.put (c.objectsWrite (s.objectsOf n))) start := by
    have writes : (s.scan []).cellWrites columns n =
        columns.map (·.objectsWrite (s.objectsOf n)) := by
      simp [Snapshot.cellWrites]
    have name : (s.scan []).phaseName n = start.phaseName := by
      simp [Snapshot.phaseName, start]
    calc (s.scan []).row columns n
        = putAll start (columns.map (·.objectsWrite (s.objectsOf n))) := by
          rw [putAll_eq, Snapshot.row, writes, name]
          rfl
      _ = _ := List.foldl_map
  rw [row]
  exact Reads.foldlM columns (fun r c => (c.reads_readWrite _).map (put r)) start

end Row

/-- Reading the objects gives the rows of the phases that they name. -/
theorem Snapshot.reads_readRows (s : Snapshot) (columns : List Column) :
    Reads (s.readRows columns) ((s.scan []).phases.map ((s.scan []).row columns))
      ((s.scan []).phases.flatMap (s.sourcesNoted columns)) := by
  have phases : (s.scan []).phases = OrderedMap.keysOf (s.objects.map ObjectRecord.phase) := by
    simp [Snapshot.phases, scan]
  rw [readRows, entries_groupObjects, List.mapM_map, phases]
  exact Reads.mapM _ fun n => Row.reads_ofObjects s columns n

/-! ## The sources that are noted -/

namespace Snapshot

theorem sourcesNoted_eq (s : Snapshot) (columns : List Column) (n : Int32) :
    s.sourcesNoted columns n =
      ((columns.filter (!·.counts)).flatMap fun c =>
        (s.objectsOf n).filterMap c.standInFor?).map StandIn.source := by
  induction columns with
  | nil => rfl
  | cons c rest ih =>
      have next : s.sourcesNoted (c :: rest) n =
          c.sourcesNoted (s.objectsOf n) ++ s.sourcesNoted rest n := rfl
      rw [next, ih, Column.sourcesNoted]
      cases counted : c.counts <;> simp [counted]

theorem mem_phases (s : Snapshot) {n : Int32} :
    n ∈ s.phases ↔ (∃ o ∈ s.objects, o.phase = n) ∨ ∃ e ∈ s.catalog, e.phase = n := by
  simp [phases, OrderedMap.mem_keysOf]

theorem ascending_phases (s : Snapshot) : s.phases.Pairwise (· < ·) :=
  OrderedMap.ascending_keysOf _

theorem objectsOf_eq_nil_iff (s : Snapshot) {n : Int32} :
    s.objectsOf n = [] ↔ ¬∃ o ∈ s.objects, o.phase = n := by
  simp [objectsOf]

theorem isEmpty_iff (s : Snapshot) :
    s.isEmpty ↔ s.phases = [] ∧ s.objectCounts.entries = [] := by
  have phases : s.phases = [] ↔ s.objects = [] ∧ s.catalog = [] := by
    simp only [List.eq_nil_iff_forall_not_mem, mem_phases, not_or, not_exists, not_and]
    constructor
    · intro unnamed
      exact ⟨fun o member => (unnamed o.phase).1 o member rfl,
        fun e member => (unnamed e.phase).2 e member rfl⟩
    · intro vacant n
      exact ⟨fun o member => absurd member (vacant.1 o), fun e member => absurd member (vacant.2 e)⟩
  simp [isEmpty, phases]

/-- A phase that only the catalog names adds no source. -/
theorem flatMap_sourcesNoted (s : Snapshot) (columns : List Column) :
    (s.scan []).phases.flatMap (s.sourcesNoted columns) =
      (s.standIns columns).map StandIn.source := by
  have scanned : (s.scan []).phases = s.phases.filter fun n => s.objectsOf n ≠ [] := by
    refine OrderedMap.eq_of_ascending (ascending_phases _) (s.ascending_phases.filter _) fun n => ?_
    simp only [List.mem_filter, mem_phases, decide_eq_true_eq, ne_eq, objectsOf_eq_nil_iff, not_not,
      scan, List.not_mem_nil, false_and, exists_false, or_false]
    exact ⟨fun object => ⟨.inl object, object⟩, And.right⟩
  rw [scanned, flatMap_filter, standIns, List.map_flatMap]
  congr 1
  funext n
  rw [← sourcesNoted_eq]
  by_cases vacant : s.objectsOf n = []
  · simp [vacant, sourcesNoted_eq]
  · simp [vacant]

/-- Reading the objects gives the rows of the phases that they name, and the log of the values
that stand in for others. -/
theorem run_readRows (s : Snapshot) (columns : List Column) :
    (s.readRows columns).run [] =
      ((s.scan []).phases.map ((s.scan []).row columns),
        distinctBy (lowerCase ·.key) ((s.standIns columns).map StandIn.source)) := by
  rw [s.reads_readRows columns [], flatMap_sourcesNoted, StandInLog.noteAll_empty]

end Snapshot

end PhaseTable
