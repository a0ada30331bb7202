/-
# PhaseTable.Proofs.Table.StandIns -- each source is warned of once

Where an object lacks a value of its assembly and has that of the part, the part stands in, and
making the table warns of the source.  All phases, columns and objects share the log of what was
warned of.  The warnings can be read off the entries that are logged (`Table.warnedKeys`): no two
of them have the same key up to case, and there is one for a key exactly if a part stands in for it
in some column and some object (`Snapshot.mem_standIns`), whatever was read before.

What is read does not depend on the log (`Column.run_readValue`), so a warning that was given
before changes no cell.
-/
import PhaseTable.Log
import PhaseTable.Proofs.Config.FixedPoint
import PhaseTable.Proofs.Table.Merging

namespace PhaseTable

set_option autoImplicit false

open Text

/-! ## Warnings -/

/-- The key of the source that the entry names, if it warns that a part stands in. -/
def LogEntry.standInKey? (e : LogEntry) : Option String :=
  if e.level = .warn ∧ e.message = "assembly main-part value unavailable, using part value" then
    match e.fields.lookup "source" with
    | some (.text key) => some key
    | _ => none
  else none

/-- The keys of the sources that making the table of a snapshot warns of. -/
def Table.warnedKeys (t : Table) (s : Snapshot) : List String :=
  (t.log s).filterMap LogEntry.standInKey?

theorem standInKey?_standInEntry (source : ModelSource) :
    source.standInEntry.standInKey? = some source.key := by
  rw [LogEntry.standInKey?, if_pos ⟨rfl, rfl⟩]
  rfl

/-- Making a table of something warns of the sources in its log. -/
theorem Table.warnedKeys_of_notices {t : Table} {s : Snapshot} (found : s.isEmpty = false)
    (made : t.notices = []) : t.warnedKeys s = t.standInSources.map ModelSource.key := by
  have warned : ∀ sources : List ModelSource,
      (sources.map ModelSource.standInEntry).filterMap LogEntry.standInKey? =
        sources.map ModelSource.key := by
    intro sources
    rw [List.filterMap_map, ← List.filterMap_eq_map]
    exact List.filterMap_congr fun source _ => standInKey?_standInEntry source
  have built : ∀ fields, LogEntry.standInKey? ⟨.debug, "built phase rows", fields⟩ = none :=
    fun _ => rfl
  rw [warnedKeys, log, found, made]
  simp only [Bool.false_eq_true, if_false, ne_eq, not_true_eq_false, List.filterMap_append, warned,
    List.filterMap_cons, built, List.filterMap_nil, List.append_nil]

/-! ## Values that stand in -/

/-- The object has an attribute under a key, exactly or up to the case of ASCII letters. -/
def ObjectRecord.Has (o : ObjectRecord) (key : String) : Prop :=
  ∃ k ∈ o.attributes.keys, k = key ∨ sameIgnoringAsciiCase k key = true

namespace ObjectRecord

theorem value?_eq_none_iff {o : ObjectRecord} {key : String} :
    o.value? key = none ↔ ¬ o.Has key := by
  constructor
  · rintro lacks ⟨k, listed, same⟩
    obtain ⟨entry, member, rfl⟩ := List.mem_map.mp listed
    have similar : sameIgnoringAsciiCase entry.1 key = true := by
      rcases same with same | similar
      · rw [same, sameIgnoringAsciiCase_self]
      · exact similar
    obtain ⟨-, unfound⟩ := Option.or_eq_none_iff.mp lacks
    exact List.find?_eq_none.mp (Option.map_eq_none_iff.mp unfound) entry member similar
  · intro lacks
    refine OrderedMap.lookup_eq_none fun entry member => ?_
    by_contra similar
    rw [Bool.not_eq_false] at similar
    exact lacks ⟨entry.1, List.mem_map_of_mem member, .inr similar⟩

/-- A part stands in for a source of an assembly that the object lacks. -/
theorem exists_standIn?_iff {o : ObjectRecord} {type : ObjectType} {source noted : ModelSource} :
    (∃ standIn, o.standIn? type source = some standIn ∧ standIn.source = noted) ↔
      type = .assembly ∧ noted = source ∧ ¬ o.Has source.key ∧ o.Has source.partFallbackKey := by
  have has : o.Has source.partFallbackKey ↔ ∃ value, o.value? source.partFallbackKey = some value :=
    by rw [← not_iff_not, ← value?_eq_none_iff, Option.eq_none_iff_forall_ne_some, not_exists]
  rw [← value?_eq_none_iff, has, standIn?]
  constructor
  · rintro ⟨standIn, found, rfl⟩
    split at found
    · next lacks =>
      obtain ⟨value, part, rfl⟩ := Option.map_eq_some_iff.mp found
      exact ⟨lacks.1, rfl, lacks.2, value, part⟩
    · cases found
  · rintro ⟨assembly, rfl, lacks, value, part⟩
    exact ⟨⟨noted, value⟩, by rw [if_pos ⟨assembly, lacks⟩, part, Option.map_some], rfl⟩

end ObjectRecord

theorem Column.source?_eq_some_iff {c : Column} {type : ObjectType} {source : ModelSource} :
    c.source? = some (type, source) ↔
      c.objectType = some type ∧ ModelSource.resolve type c.attr = .ok source := by
  rw [source?, Option.bind_eq_some_iff]
  constructor
  · rintro ⟨own, bound, found⟩
    split at found
    · next resolved =>
      cases found
      exact ⟨bound, resolved⟩
    · cases found
  · rintro ⟨bound, resolved⟩
    exact ⟨type, bound, by rw [resolved]⟩

/-- The column shows a source of assemblies, for which the part stands in where the object lacks
it. -/
theorem Column.exists_standInFor?_iff {c : Column} {o : ObjectRecord} {source : ModelSource} :
    (∃ standIn, c.standInFor? o = some standIn ∧ standIn.source = source) ↔
      c.objectType = some .assembly ∧ ModelSource.resolve .assembly c.attr = .ok source ∧
        ¬ o.Has source.key ∧ o.Has source.partFallbackKey := by
  constructor
  · rintro ⟨standIn, found, noted⟩
    obtain ⟨⟨type, own⟩, showing, standsIn⟩ := Option.bind_eq_some_iff.mp found
    obtain ⟨rfl, rfl, lacks⟩ := ObjectRecord.exists_standIn?_iff.mp ⟨standIn, standsIn, noted⟩
    obtain ⟨bound, resolved⟩ := source?_eq_some_iff.mp showing
    exact ⟨bound, resolved, lacks⟩
  · rintro ⟨bound, resolved, lacks⟩
    obtain ⟨standIn, standsIn, noted⟩ :=
      ObjectRecord.exists_standIn?_iff.mpr ⟨rfl, rfl, lacks⟩
    have showing := source?_eq_some_iff.mpr ⟨bound, resolved⟩
    exact ⟨standIn, Option.bind_eq_some_iff.mpr ⟨_, showing, standsIn⟩, noted⟩

/-- The sources for which a part stands in, in some column that does not count and some object. -/
theorem Snapshot.mem_standIns {s : Snapshot} {columns : List Column} {source : ModelSource} :
    source ∈ (s.standIns columns).map StandIn.source ↔
      ∃ c ∈ columns, c.aggregate ≠ .count ∧ c.objectType = some .assembly ∧
        ModelSource.resolve .assembly c.attr = .ok source ∧
          ∃ o ∈ s.objects, ¬ o.Has source.key ∧ o.Has source.partFallbackKey := by
  constructor
  · intro noted
    obtain ⟨standIn, listed, same⟩ := List.mem_map.mp noted
    obtain ⟨n, -, inPhase⟩ := List.mem_flatMap.mp listed
    obtain ⟨c, shown, inColumn⟩ := List.mem_flatMap.mp inPhase
    obtain ⟨o, member, found⟩ := List.mem_filterMap.mp inColumn
    obtain ⟨column, plain⟩ := List.mem_filter.mp shown
    obtain ⟨bound, resolved, lacks⟩ := Column.exists_standInFor?_iff.mp ⟨standIn, found, same⟩
    rw [Bool.not_eq_true'] at plain
    exact ⟨c, column, Column.counts_eq_false_iff.mp plain, bound, resolved, o,
      (List.mem_filter.mp member).1, lacks⟩
  · rintro ⟨c, column, uncounted, bound, resolved, o, member, lacks⟩
    obtain ⟨standIn, found, same⟩ := Column.exists_standInFor?_iff.mpr ⟨bound, resolved, lacks⟩
    have plain : (!c.counts) = true := by
      rw [Bool.not_eq_true', Column.counts_eq_false_iff]
      exact uncounted
    have phase : o.phase ∈ s.phases := s.mem_phases.mpr (.inl ⟨o, member, rfl⟩)
    have own : o ∈ s.objectsOf o.phase := List.mem_filter.mpr ⟨member, decide_eq_true rfl⟩
    refine List.mem_map.mpr ⟨standIn, List.mem_flatMap.mpr ⟨o.phase, phase, ?_⟩, same⟩
    refine List.mem_flatMap.mpr ⟨c, List.mem_filter.mpr ⟨column, plain⟩, ?_⟩
    exact List.mem_filterMap.mpr ⟨o, own, found⟩

/-! ## The log does not matter -/

/-- The value that is read for a column is that of the object, whatever was warned of before. -/
theorem Column.run_readValue (c : Column) (o : ObjectRecord) (log : StandInLog) :
    ((c.readValue o).run log).1 = c.valueIn o := by
  rw [c.reads_readValue o log]

/-- The rows are made of what is read, whatever was warned of before. -/
theorem Table.rows_of_log (s : Snapshot) {columns : List Column} (listed : columns ≠ [])
    (log : StandInLog) :
    s.completeRows columns ((s.readRows columns).run log).1 = (ofSnapshot s columns).rows := by
  rw [s.reads_readRows columns log, rows_ofSnapshot, if_neg listed]
  exact s.completeRows_eq columns

/-! ## Tables -/

/-- The keys that are warned of are those of the values that stand in, each once up to case. -/
theorem Table.warnedKeys_ofSnapshot (s : Snapshot) {columns : List Column}
    (listed : columns ≠ []) :
    (ofSnapshot s columns).warnedKeys s =
      (distinctBy (lowerCase ·.key) ((s.standIns columns).map StandIn.source)).map
        ModelSource.key := by
  cases found : s.isEmpty with
  | true =>
      have silent : (ofSnapshot s columns).log s = [] := by rw [log, if_pos found]
      have nothing : s.phases = [] := (s.isEmpty_iff.mp found).1
      rw [warnedKeys, silent, Snapshot.standIns, nothing]
      rfl
  | false =>
      have some_ : columns.isEmpty = false := by simpa using listed
      have made : ofSnapshot s columns = _ := ofSnapshot_eq s columns
      rw [found, some_, if_neg Bool.false_ne_true, if_neg Bool.false_ne_true] at made
      rw [made]
      exact warnedKeys_of_notices found rfl

namespace Table

/-- **Each source for which a part stands in is warned of once.**  Whatever configuration was
written and whatever was found in the model, no two warnings of making the table have keys that are
equal in lower case, and there is one with a key if a column of assemblies that does not count shows
a source with the key, and some object has no attribute under the key of the source and has one
under that of the part.  A warning that was given before changes no value that is read and no row. -/
theorem standIns_told_once (raw : Option Config) (s : Snapshot) :
    (((ofSnapshot s (Config.check raw).config.columns).warnedKeys s).map lowerCase).Nodup ∧
    (∀ key, key ∈ ((ofSnapshot s (Config.check raw).config.columns).warnedKeys s).map lowerCase ↔
      ∃ c ∈ (Config.check raw).config.columns,
        c.aggregate ≠ .count ∧ c.objectType = some .assembly ∧
          ∃ source, ModelSource.resolve .assembly c.attr = .ok source ∧
            lowerCase source.key = key ∧
              ∃ o ∈ s.objects, ¬ o.Has source.key ∧ o.Has source.partFallbackKey) ∧
    (∀ (c : Column) (o : ObjectRecord) (log : StandInLog),
      ((c.readValue o).run log).1 = ((c.readValue o).run []).1) ∧
    ∀ log : StandInLog,
      s.completeRows (Config.check raw).config.columns
          ((s.readRows (Config.check raw).config.columns).run log).1 =
        (ofSnapshot s (Config.check raw).config.columns).rows := by
  have listed := (Config.wellFormed_check raw).columns_ne_nil
  generalize (Config.check raw).config.columns = columns at listed
  have keys : ((ofSnapshot s columns).warnedKeys s).map lowerCase =
      (distinctBy (lowerCase ·.key) ((s.standIns columns).map StandIn.source)).map
        (lowerCase ·.key) := by
    rw [warnedKeys_ofSnapshot s listed, List.map_map]
    rfl
  rw [keys]
  refine ⟨nodup_distinctBy _, fun key => ?_, fun c o log => ?_, rows_of_log s listed⟩
  · rw [mem_map_distinctBy, List.mem_map]
    simp only [Snapshot.mem_standIns]
    constructor
    · rintro ⟨source, ⟨c, column, uncounted, bound, resolved, lacks⟩, same⟩
      exact ⟨c, column, uncounted, bound, source, resolved, same, lacks⟩
    · rintro ⟨c, column, uncounted, bound, source, resolved, same, lacks⟩
      exact ⟨source, ⟨c, column, uncounted, bound, resolved, lacks⟩, same⟩
  · rw [c.run_readValue, c.run_readValue]

/-- Two columns of one source, which is written in two ways. -/
def weights : List Column :=
  [{ Column.blank with
      key := "max", objectType := some .assembly, attr := "WEIGHT", aggregate := .max },
    { Column.blank with
      key := "min", objectType := some .assembly, attr := " weight", aggregate := .min }]

/-- Three objects, the first of which has the value of its assembly. -/
def weighed : Snapshot :=
  ⟨[⟨2, "Roof", .ofList [("assembly.Weight", .integer 7)]⟩,
    ⟨2, "Roof", .ofList [("part.WEIGHT", .integer 5)]⟩,
    ⟨1, "Base", .ofList [("part.weight", .integer 4)]⟩], [], ∅⟩

example : (ofSnapshot weighed weights).warnedKeys weighed = ["assembly.WEIGHT"] := by decide

end Table

end PhaseTable
