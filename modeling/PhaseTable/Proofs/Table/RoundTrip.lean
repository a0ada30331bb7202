/-
# PhaseTable.Proofs.Table.RoundTrip -- selections and snapshots are read as they were written

What the table takes in is written as JSON and read again: a selection with the filters of each
phase, and a snapshot with the cells of its objects and its counts.  Each record has a lemma that
says that what is written is JSON (`valid_toJson`), and one that says that it is read as it was
(`read_toJson`).  A cell names its kind beside its value, so an integer is never read as a number
(`Cell.read_toJson`).  Counts are written under the texts of their phases, in the order of texts,
and are read in the order of numbers again (`read_countsToJson`).
-/
import PhaseTable.Proofs.Config.RoundTrip
import PhaseTable.Proofs.Json.IntegerKeys
import PhaseTable.Proofs.Json.Valid
import PhaseTable.Selection
import PhaseTable.Snapshot

namespace PhaseTable

set_option autoImplicit false

open Shape

/-! ## Rules -/

/-- The value of every clause of the rule is one that JSON has. -/
def Rule.Valid (r : Rule) : Prop :=
  ∀ branch c, r.branch branch = some c → c.value.Valid

theorem Rule.Valid.ordered {r : Rule} (valid : r.Valid) : r.Ordered :=
  fun branch c found => (valid branch c found).ordered

theorem Clause.valid_toJson {c : Clause} (valid : c.value.Valid) : c.toJson.Valid := by
  rw [toJson_eq]
  have ascending : List.Pairwise (· < ·) ["field", "op", "value"] := by decide
  exact Json.valid_ofMembers ascending (by simp [entries, valid])

theorem Rule.valid_toJson {r : Rule} (valid : r.Valid) : r.toJson.Valid := by
  have clause (key : String) (branch : Branch) :
      Entry.Valid (key, (r.branch branch).map Clause.toJson) :=
    Entry.valid_map fun c found => Clause.valid_toJson (valid branch c found)
  rw [toJson_eq]
  have ascending : List.Pairwise (· < ·) ["onFalse", "onTrue", "onValue"] := by decide
  have each : ∀ e ∈ r.entries, e.Valid := by
    simpa [entries] using ⟨clause _ .onFalse, clause _ .onTrue, clause _ .onValue⟩
  exact Json.valid_ofMembers ascending each

/-! ## Selections -/

namespace Filter

def entries (f : Filter) : List Entry := [
  ("applyRule", f.rule.map Rule.toJson),
  ("booleanMode", some (.str f.booleanMode)),
  ("targetAttribute", some (.str f.targetAttr)),
  ("targetObjectType", f.targetType.map ObjectType.toJson),
  ("value", some (.str f.value)),
  ("valueType", some f.valueType.toJson)]

theorem toJson_eq (f : Filter) : f.toJson = .ofMembers (f.entries.map Entry.member) := by
  simp only [toJson, entries, List.map_cons, List.map_nil, Entry.member, Option.map_map,
    Option.map_some, Function.comp_def]

/-- The rule of the filter, if it has one, holds values that JSON has. -/
def Valid (f : Filter) : Prop :=
  ∀ r, f.rule = some r → r.Valid

theorem valid_toJson {f : Filter} (valid : f.Valid) : f.toJson.Valid := by
  have rule : Entry.Valid ("applyRule", f.rule.map Rule.toJson) :=
    Entry.valid_map fun r found => Rule.valid_toJson (valid r found)
  have targetType : Entry.Valid ("targetObjectType", f.targetType.map ObjectType.toJson) :=
    Entry.valid_map fun _ _ => .str _
  have valueType : f.valueType.toJson.Valid := .str _
  rw [toJson_eq]
  have ascending : List.Pairwise (· < ·) ["applyRule", "booleanMode", "targetAttribute",
      "targetObjectType", "value", "valueType"] := by decide
  exact Json.valid_ofMembers ascending (by simp [entries, rule, targetType, valueType])

/-- A filter is read as it was written, with a rule and an object type or without. -/
theorem read_toJson (origin : Origin) {f : Filter} (valid : f.Valid) :
    decode origin (.ofJson f.toJson) = .ok f := by
  have rule : ∀ r, f.rule = some r →
      Decode.optional ((Rule.shape origin).decode origin) (.ofJson r.toJson) = .ok (some r) :=
    fun r found => Decode.optional_ofJson nofun (Rule.decode_toJson origin (valid r found).ordered)
  have targetType : ∀ type, f.targetType = some type →
      Decode.optional ObjectType.decode (.ofJson type.toJson) = .ok (some type) := by
    intro type _
    cases type <;> rfl
  have valueType : ValueType.decode (.ofJson f.valueType.toJson) = .ok f.valueType := by
    cases f.valueType <;> rfl
  rw [toJson_eq, decode, decode_entries origin rfl (by simp [entries, shape]) (by simp [entries])]
  refine foldlM_step (setEntry_option (fun _ => rfl) (by rfl) rule) ?_
  refine foldlM_step rfl ?_
  refine foldlM_step rfl ?_
  refine foldlM_step (setEntry_option (fun _ => rfl) (by rfl) targetType) ?_
  refine foldlM_step rfl ?_
  exact foldlM_step (setEntry_some (fun _ => rfl) valueType) rfl

end Filter

namespace Criteria

def entries (c : Criteria) : List Entry :=
  [("attributeFilters", some (.arr (c.filters.map Filter.toJson))),
    ("phaseNumber", some (.int c.phase.toInt))]

theorem toJson_eq (c : Criteria) : c.toJson = .ofMembers (c.entries.map Entry.member) :=
  rfl

theorem valid_toJson {c : Criteria} (valid : ∀ f ∈ c.filters, f.Valid) : c.toJson.Valid := by
  have filters : (Json.arr (c.filters.map Filter.toJson)).Valid :=
    Json.valid_list fun f listed => Filter.valid_toJson (valid f listed)
  rw [toJson_eq]
  have ascending : List.Pairwise (· < ·) ["attributeFilters", "phaseNumber"] := by decide
  exact Json.valid_ofMembers ascending (by simp [entries, filters])

theorem read_toJson (origin : Origin) {c : Criteria} (valid : ∀ f ∈ c.filters, f.Valid) :
    (shape origin).decode origin (.ofJson c.toJson) = .ok c := by
  have filters : Decode.list (Filter.decode origin) (.ofJson (.arr (c.filters.map Filter.toJson))) =
      .ok c.filters :=
    Decode.list_ofJson fun f listed => Filter.read_toJson origin (valid f listed)
  rw [toJson_eq, decode_entries_of_written origin (by simp [entries, shape, writtenKeys])
    (by simp [entries, shape]) (by simp [entries])]
  refine foldlM_step (setEntry_some (fun _ => rfl) filters) ?_
  exact foldlM_step (setEntry_some (fun _ => rfl) (Decode.int32_ofJson _)) rfl

end Criteria

def selectionToJson (selection : List Criteria) : Json :=
  .arr (selection.map Criteria.toJson)

/-! ## Cells -/

namespace Cell

/-- The value is one that JSON has: a number is finite. -/
def Finite : Cell → Prop
  | .number x => x.isFinite = true
  | _ => True

instance : (cell : Cell) → Decidable cell.Finite
  | .number x => inferInstanceAs (Decidable (x.isFinite = true))
  | .empty | .string _ | .integer _ | .boolean _ => .isTrue trivial

theorem valid_toJson {cell : Cell} (finite : cell.Finite) : cell.toJson.Valid := by
  have payload : Entry.Valid ("value", cell.payload?) := by
    cases cell with
    | empty => exact nofun
    | string s => rintro _ ⟨⟩; exact .str s
    | number x => rintro _ ⟨⟩; exact .number finite
    | integer i => rintro _ ⟨⟩; exact .number (JsonNumber.valid_int64 i)
    | boolean b => rintro _ ⟨⟩; exact .bool b
  have written : cell.toJson = .ofMembers
      ([("type", some (.str cell.kind)), ("value", cell.payload?)].map Entry.member) := rfl
  rw [written]
  have ascending : List.Pairwise (· < ·) ["type", "value"] := by decide
  exact Json.valid_ofMembers ascending (by simp [payload])

theorem kind_mem (cell : Cell) : cell.kind ∈ kinds := by
  cases cell <;> simp [kind, kinds]

/-- The value beside the kind of a cell is read as one of that kind. -/
theorem decode_of_payload (origin : Origin) {cell : Cell} {value : Json}
    (read : decodePayload cell.kind (.ofJson value) = .ok cell) :
    decode origin (.ofJson (.obj [("type", .str cell.kind), ("value", value)])) = .ok cell := by
  have first : Draft.add origin .nothing "type" (.text (some cell.kind)) =
      .ok (.kind cell.kind) := by
    show Draft.kind <$> knownKind cell.kind = .ok (.kind cell.kind)
    rw [knownKind, if_pos cell.kind_mem]
    rfl
  have second : Draft.add origin (.kind cell.kind) "value" (.ofJson value) = .ok (.done cell) := by
    show Draft.done <$> decodePayload cell.kind (.ofJson value) = .ok (.done cell)
    rw [read]
    rfl
  have keys : Decode.keyText ⟨.ok "type", "type".toList⟩ = .ok "type" ∧
      Decode.keyText ⟨.ok "value", "value".toList⟩ = .ok "value" := ⟨rfl, rfl⟩
  simp only [Document.ofJson, Document.ofMembers, decode, Draft.addMembers, keys.1, keys.2, bind,
    Except.bind, first, second]
  rfl

/-- A cell is read as it was written, as a value of its kind and no other. -/
theorem read_toJson (origin : Origin) (cell : Cell) :
    decode origin (.ofJson cell.toJson) = .ok cell := by
  cases cell with
  | empty => rfl
  | string s => exact decode_of_payload origin rfl
  | number x => exact decode_of_payload origin rfl
  | integer i =>
      refine decode_of_payload origin ?_
      show Cell.integer <$> Decode.int64 (.ofJson (.int i.toInt)) = .ok (.integer i)
      rw [Decode.int64_ofJson]
      rfl
  | boolean b => exact decode_of_payload origin rfl

end Cell

/-! ## Snapshots -/

theorem valid_cellsToJson {cells : OrderedMap String Cell}
    (finite : ∀ entry ∈ cells.entries, entry.2.Finite) : (cellsToJson cells).Valid := by
  refine .obj (List.pairwise_map.mpr cells.ascending) ?_
  exact List.forall_mem_map.mpr fun entry listed => Cell.valid_toJson (finite entry listed)

theorem read_cellsToJson (origin : Origin) (cells : OrderedMap String Cell) :
    decodeCells origin (.ofJson (cellsToJson cells)) = .ok cells :=
  Decode.map_of_perm (fun entry _ => ⟨rfl, Cell.read_toJson origin entry.2⟩) (.refl _)

namespace ObjectRecord

def entries (o : ObjectRecord) : List Entry :=
  [("attributes", some (cellsToJson o.attributes)), ("phaseName", some (.str o.phaseName)),
    ("phaseNumber", some (.int o.phase.toInt))]

theorem toJson_eq (o : ObjectRecord) : o.toJson = .ofMembers (o.entries.map Entry.member) :=
  rfl

theorem valid_toJson {o : ObjectRecord} (finite : ∀ entry ∈ o.attributes.entries, entry.2.Finite) :
    o.toJson.Valid := by
  rw [toJson_eq]
  have ascending : List.Pairwise (· < ·) ["attributes", "phaseName", "phaseNumber"] := by decide
  exact Json.valid_ofMembers ascending (by simp [entries, valid_cellsToJson finite])

theorem read_toJson (origin : Origin) (o : ObjectRecord) :
    (shape origin).decode origin (.ofJson o.toJson) = .ok o := by
  rw [toJson_eq, decode_entries_of_written origin (by simp [entries, shape, writtenKeys])
    (by simp [entries, shape]) (by simp [entries])]
  refine foldlM_step (setEntry_some (fun _ => rfl) (read_cellsToJson origin o.attributes)) ?_
  refine foldlM_step rfl ?_
  exact foldlM_step (setEntry_some (fun _ => rfl) (Decode.int32_ofJson _)) rfl

end ObjectRecord

namespace CatalogEntry

def entries (e : CatalogEntry) : List Entry :=
  [("phaseName", some (.str e.phaseName)), ("phaseNumber", some (.int e.phase.toInt))]

theorem toJson_eq (e : CatalogEntry) : e.toJson = .ofMembers (e.entries.map Entry.member) :=
  rfl

theorem valid_toJson (e : CatalogEntry) : e.toJson.Valid := by
  rw [toJson_eq]
  have ascending : List.Pairwise (· < ·) ["phaseName", "phaseNumber"] := by decide
  exact Json.valid_ofMembers ascending (by simp [entries])

theorem read_toJson (origin : Origin) (e : CatalogEntry) :
    shape.decode origin (.ofJson e.toJson) = .ok e := by
  rw [toJson_eq, decode_entries_of_written origin (by simp [entries, shape, writtenKeys])
    (by simp [entries, shape]) (by simp [entries])]
  refine foldlM_step rfl ?_
  exact foldlM_step (setEntry_some (fun _ => rfl) (Decode.int32_ofJson _)) rfl

end CatalogEntry

/-- The JSON form of numbers of objects, under the texts of their phases. -/
def countsToJson (counts : OrderedMap Int32 UInt64) : Json :=
  .ofEntries (counts.entries.map fun entry => (intText entry.1.toInt, .int entry.2.toNat))

theorem countsToJson_perm (counts : OrderedMap Int32 UInt64) :
    (OrderedMap.ofList (counts.entries.map fun entry =>
      (intText entry.1.toInt, Json.int entry.2.toNat))).entries.Perm
      (counts.entries.map fun entry => (intText entry.1.toInt, Json.int entry.2.toNat)) := by
  refine OrderedMap.ofList_perm ?_
  have names : (counts.entries.map fun entry =>
      (intText entry.1.toInt, Json.int entry.2.toNat)).map (·.1) =
      counts.keys.map fun phase => intText phase.toInt := by
    rw [OrderedMap.keys, List.map_map, List.map_map]
    rfl
  rw [names]
  refine counts.nodup_keys.map fun i j same => ?_
  exact Int32.toInt_inj.mp (intText_injective same)

theorem valid_countsToJson (counts : OrderedMap Int32 UInt64) : (countsToJson counts).Valid := by
  refine .obj (OrderedMap.ascending _) fun m listed => ?_
  obtain ⟨entry, -, rfl⟩ := List.mem_map.mp ((countsToJson_perm counts).subset listed)
  exact .number (JsonNumber.valid_uint64 _)

/-- Counts are read as they were written, though the order of texts is not that of numbers. -/
theorem read_countsToJson (counts : OrderedMap Int32 UInt64) :
    Decode.map (Decode.keyInt32 .value) Decode.count (.ofJson (countsToJson counts)) =
      .ok counts := by
  have each : ∀ entry ∈ counts.entries, Decode.ReadsMember (Decode.keyInt32 .value) Decode.count
      (intText entry.1.toInt, .int entry.2.toNat) entry :=
    fun entry _ => ⟨Decode.keyInt32_intText entry.1, Decode.count_ofJson entry.2⟩
  exact Decode.map_of_perm each (countsToJson_perm counts)

namespace Snapshot

def entries (s : Snapshot) : List Entry :=
  [("allPhases", some (.arr (s.catalog.map CatalogEntry.toJson))),
    ("objects", some (.arr (s.objects.map ObjectRecord.toJson))),
    ("phaseObjectCounts", some (countsToJson s.objectCounts))]

theorem toJson_eq (s : Snapshot) : s.toJson = .ofMembers (s.entries.map Entry.member) :=
  rfl

/-- Every number among the attributes is finite. -/
def Finite (s : Snapshot) : Prop :=
  ∀ o ∈ s.objects, ∀ entry ∈ o.attributes.entries, entry.2.Finite

instance (s : Snapshot) : Decidable s.Finite :=
  inferInstanceAs (Decidable (∀ o ∈ s.objects, ∀ entry ∈ o.attributes.entries, entry.2.Finite))

theorem valid_toJson {s : Snapshot} (finite : s.Finite) : s.toJson.Valid := by
  have catalog : (Json.arr (s.catalog.map CatalogEntry.toJson)).Valid :=
    Json.valid_list fun e _ => e.valid_toJson
  have objects : (Json.arr (s.objects.map ObjectRecord.toJson)).Valid :=
    Json.valid_list fun o listed => ObjectRecord.valid_toJson (finite o listed)
  have counts : (countsToJson s.objectCounts).Valid := valid_countsToJson s.objectCounts
  rw [toJson_eq]
  have ascending : List.Pairwise (· < ·) ["allPhases", "objects", "phaseObjectCounts"] := by decide
  exact Json.valid_ofMembers ascending (by simp [entries, catalog, objects, counts])

theorem read_toJson (s : Snapshot) : decode .value (.ofJson s.toJson) = .ok s := by
  have objects : Decode.list ((ObjectRecord.shape .value).decode .value)
      (.ofJson (.arr (s.objects.map ObjectRecord.toJson))) = .ok s.objects :=
    Decode.list_ofJson fun o _ => ObjectRecord.read_toJson .value o
  have catalog : Decode.list (CatalogEntry.shape.decode .value)
      (.ofJson (.arr (s.catalog.map CatalogEntry.toJson))) = .ok s.catalog :=
    Decode.list_ofJson fun e _ => CatalogEntry.read_toJson .value e
  rw [toJson_eq, decode, decode_entries .value rfl (by simp [entries, shape]) (by simp [entries])]
  refine foldlM_step (setEntry_some (fun _ => rfl) catalog) ?_
  refine foldlM_step (setEntry_some (fun _ => rfl) objects) ?_
  exact foldlM_step (setEntry_some (fun _ => rfl) (read_countsToJson s.objectCounts)) rfl

end Snapshot

/-- **Selections and snapshots are read as they were written.**  If the rules of a selection hold
values that JSON has, and the numbers in a snapshot are finite, both are written as values that JSON
has, and each is read from its value as it was. -/
theorem read_as_written {selection : List Criteria} {snapshot : Snapshot}
    (valid : ∀ c ∈ selection, ∀ f ∈ c.filters, f.Valid) (finite : snapshot.Finite) :
    ((selectionToJson selection).Valid ∧
      ∀ origin, decodeSelection origin (.ofJson (selectionToJson selection)) = .ok selection) ∧
    (snapshot.toJson.Valid ∧ Snapshot.decode .value (.ofJson snapshot.toJson) = .ok snapshot) := by
  refine ⟨⟨?_, fun origin => ?_⟩, snapshot.valid_toJson finite, snapshot.read_toJson⟩
  · exact Json.valid_list fun c listed => Criteria.valid_toJson (valid c listed)
  · exact Decode.list_ofJson fun c listed => Criteria.read_toJson origin (valid c listed)

/-- A selection of two phases.  One filter has an object type and a rule, the other has neither. -/
def mixedSelection : List Criteria :=
  [⟨4, [⟨some .assembly, "MARK", "", some ⟨none, none, some ⟨"", "in", .texts ["A", "B"]⟩⟩,
      .string, "any"⟩, ⟨none, "", "", none, .boolean, "false"⟩]⟩, ⟨-1, []⟩]

/-- A snapshot with a cell of each kind, and with counts for phases on both sides of zero. -/
def mixedSnapshot : Snapshot where
  objects := [⟨-3, "", ⟨[("A", .boolean true), ("B", .empty), ("C", .integer 7),
    ("D", .number (.ofInt 7)), ("E", .string "7")], by decide⟩⟩]
  catalog := [⟨2147483647, " Roof "⟩]
  objectCounts := ⟨[(-12, 5), (-3, 1), (0, 0), (4, 18446744073709551615)], by decide⟩

theorem read_as_written_mixed :
    (∀ c ∈ mixedSelection, ∀ f ∈ c.filters, f.Valid) ∧ mixedSnapshot.Finite ∧
    decodeSelection .value (.ofJson (selectionToJson mixedSelection)) = .ok mixedSelection ∧
    Snapshot.decode .value (.ofJson mixedSnapshot.toJson) = .ok mixedSnapshot := by
  have list : (Json.texts ["A", "B"]).Valid := Json.valid_list fun s _ => .str s
  have valid : ∀ c ∈ mixedSelection, ∀ f ∈ c.filters, f.Valid := by
    simp only [mixedSelection, List.forall_mem_cons, List.not_mem_nil, false_implies, implies_true,
      and_true]
    refine ⟨?_, nofun⟩
    rintro _ ⟨⟩ branch c found
    cases branch <;> cases found
    exact list
  have finite : mixedSnapshot.Finite := by decide
  obtain ⟨⟨-, selection⟩, -, snapshot⟩ := read_as_written valid finite
  exact ⟨valid, finite, selection .value, snapshot⟩

end PhaseTable
