/-
# PhaseTable.Proofs.Config.RoundTrip -- configurations are read as they were written

What is unset in a column is left out when the column is written, and the variants of its settings
are written by name; they are read as texts first.  `ColumnText.ofColumn` is what stands between:
reading a written column gives it (`ColumnText.decode_toJson`), and its column is the one that was
written (`ColumnText.toColumn_ofColumn`).  From this a whole configuration is read as it was
written (`Config.decode_as_written`), however it comes: as a text or as a value.
-/
import PhaseTable.Proofs.Json.Ordered
import PhaseTable.Proofs.Json.Record
import PhaseTable.Proofs.Setting

namespace PhaseTable

set_option autoImplicit false

open Shape

/-! ## Rules -/

namespace Clause

def entries (c : Clause) : List Entry :=
  [("field", some (.str c.field)), ("op", some (.str c.op)), ("value", some c.value)]

theorem toJson_eq (c : Clause) : c.toJson = .ofMembers (c.entries.map Entry.member) :=
  rfl

/-- A clause is read as it was written, with any value, null among them. -/
theorem decode_toJson (origin : Origin) {c : Clause} (ordered : c.value.Ordered) :
    shape.decode origin (.ofJson c.toJson) = .ok c := by
  have value : Decode.anyValue (.ofJson c.value) = .ok c.value := by
    rw [Decode.anyValue, Document.toJson_ofJson ordered]
    rfl
  rw [toJson_eq, decode_entries origin rfl (by simp [entries, shape]) (by simp [entries])]
  refine foldlM_step rfl ?_
  refine foldlM_step rfl ?_
  exact foldlM_step (setEntry_some (fun _ => rfl) value) rfl

end Clause

namespace Rule

def entries (r : Rule) : List Entry :=
  [("onFalse", r.onFalse.map Clause.toJson), ("onTrue", r.onTrue.map Clause.toJson),
    ("onValue", r.onValue.map Clause.toJson)]

theorem toJson_eq (r : Rule) : r.toJson = .ofMembers (r.entries.map Entry.member) := by
  simp only [toJson, entries, List.map_cons, List.map_nil, Entry.member, Option.map_map,
    Function.comp_def]

/-- The value of every clause is an ordered one. -/
def Ordered (r : Rule) : Prop :=
  ∀ branch c, r.branch branch = some c → c.value.Ordered

/-- A rule is read as it was written, also one without a branch. -/
theorem decode_toJson (origin : Origin) {r : Rule} (ordered : r.Ordered) :
    (shape origin).decode origin (.ofJson r.toJson) = .ok r := by
  have clause : ∀ branch c, r.branch branch = some c →
      Decode.optional (Clause.shape.decode origin) (.ofJson c.toJson) = .ok (some c) :=
    fun branch c found =>
      Decode.optional_ofJson nofun (Clause.decode_toJson origin (ordered branch c found))
  rw [toJson_eq, decode_entries origin rfl (by simp [entries, shape]) (by simp [entries])]
  refine foldlM_step (setEntry_option (fun _ => rfl) (by rfl) (clause .onFalse)) ?_
  refine foldlM_step (setEntry_option (fun _ => rfl) (by rfl) (clause .onTrue)) ?_
  exact foldlM_step (setEntry_option (fun _ => rfl) (by rfl) (clause .onValue)) rfl

end Rule

/-! ## Columns -/

namespace Column

def entries (c : Column) : List Entry := [
  ("aggregate", some c.aggregate.toJson),
  ("applyRule", c.rule.map Rule.toJson),
  textEntry "attribute" c.attr,
  textEntry "booleanMode" c.booleanMode,
  ("editable", some (.bool c.editable)),
  ("filterOps", some (.texts c.filterOps)),
  ("key", some (.str c.key)),
  ("label", some (.str c.label)),
  ("objectType", (c.objectType.map ObjectType.name).map .str),
  ("order", some (.int c.order.toInt)),
  textEntry "targetAttribute" c.targetAttr,
  ("targetObjectType", (c.targetType.map ObjectType.name).map .str),
  ("type", some c.valueType.toJson),
  ("visibleByDefault", some (.bool c.visible))]

theorem toJson_eq (c : Column) : c.toJson = .ofMembers (c.entries.map Entry.member) := by
  simp only [toJson, entries, List.map_cons, List.map_nil, member_textEntry]
  simp only [Entry.member, Option.map_map, Option.map_some, Function.comp_def, ObjectType.toJson]

end Column

namespace ColumnText

/-- A column as it is written.  The settings that name a variant are texts beside the column. -/
def ofColumn (c : Column) : ColumnText where
  column := { c with
    valueType := .string, objectType := none, targetType := none, aggregate := .first
    unrecognized := [] }
  valueType := some c.valueType.name
  objectType := c.objectType.map ObjectType.name
  targetType := c.targetType.map ObjectType.name
  aggregate := some c.aggregate.name

/-- The texts of a column are read as they were written. -/
theorem decode_toJson (origin : Origin) {c : Column}
    (ordered : ∀ r, c.rule = some r → r.Ordered) :
    (shape origin).decode origin (.ofJson c.toJson) = .ok (.ofColumn c) := by
  have rule : ∀ r, c.rule = some r →
      Decode.optional ((Rule.shape origin).decode origin) (.ofJson r.toJson) = .ok (some r) :=
    fun r found => Decode.optional_ofJson nofun (Rule.decode_toJson origin (ordered r found))
  have name : ∀ (type? : Option ObjectType) (s : String), type?.map ObjectType.name = some s →
      Decode.optional Decode.text (.ofJson (.str s)) = .ok (some s) := fun _ _ _ => rfl
  have filterOps : Decode.orNull [] (Decode.list Decode.text) (.ofJson (.texts c.filterOps)) =
      .ok c.filterOps := Decode.orNull_ofJson nofun (Decode.texts_ofJson _)
  rw [Column.toJson_eq, decode_entries origin rfl (by simp [Column.entries, textEntry, shape])
    (by simp [Column.entries, textEntry])]
  show c.entries.foldlM (shape origin).setEntry (⟨⟨"", "", .string, false, none, "", none, "", "",
    none, .first, 0, true, [], []⟩, none, none, none, none⟩ : ColumnText) = _
  -- The keys come in their order.  `dsimp` keeps the column between two of them one record.
  refine foldlM_step rfl ?_
  dsimp only
  refine foldlM_step (setEntry_option (fun _ => rfl) (by rfl) rule) ?_
  dsimp only
  refine foldlM_step (setEntry_text (fun _ => rfl) (by rfl) _) ?_
  dsimp only
  refine foldlM_step (setEntry_text (fun _ => rfl) (by rfl) _) ?_
  dsimp only
  refine foldlM_step rfl ?_
  dsimp only
  refine foldlM_step (setEntry_some (fun _ => rfl) filterOps) ?_
  dsimp only
  refine foldlM_step rfl ?_
  dsimp only
  refine foldlM_step rfl ?_
  dsimp only
  refine foldlM_step (setEntry_option (fun _ => rfl) (by rfl) (name _)) ?_
  dsimp only
  refine foldlM_step (setEntry_some (fun _ => rfl) (Decode.int32_ofJson _)) ?_
  dsimp only
  refine foldlM_step (setEntry_text (fun _ => rfl) (by rfl) _) ?_
  dsimp only
  refine foldlM_step (setEntry_option (fun _ => rfl) (by rfl) (name _)) ?_
  dsimp only
  refine foldlM_step rfl ?_
  exact foldlM_step rfl rfl

/-- The names of the settings give the column back. -/
theorem toColumn_ofColumn {c : Column} (recognized : c.unrecognized = []) :
    (ofColumn c).toColumn = c := by
  have valueType : named? ValueType.parse (some c.valueType.name) = some c.valueType :=
    named?_map ValueType.parse_name ValueType.blank_name (some c.valueType)
  have aggregate : named? Aggregate.parse (some c.aggregate.name) = some c.aggregate :=
    named?_map Aggregate.parse_name Aggregate.blank_name (some c.aggregate)
  have objects : ∀ type?, named? ObjectType.parse (type?.map ObjectType.name) = type? :=
    named?_map ObjectType.parse_name ObjectType.blank_name
  have valueTypeKnown : unnamed? .valueType ValueType.parse (some c.valueType.name) = none :=
    unnamed?_map .valueType ValueType.parse_name (some c.valueType)
  have aggregateKnown : unnamed? .aggregate Aggregate.parse (some c.aggregate.name) = none :=
    unnamed?_map .aggregate Aggregate.parse_name (some c.aggregate)
  have objectsKnown : ∀ setting (type? : Option ObjectType),
      unnamed? setting ObjectType.parse (type?.map ObjectType.name) = none := fun setting =>
    unnamed?_map setting ObjectType.parse_name
  simp only [toColumn, ofColumn, valueType, aggregate, objects, valueTypeKnown, aggregateKnown,
    objectsKnown, Option.getD_some]
  exact congrArg (fun settings => { c with unrecognized := settings }) recognized.symm

end ColumnText

/-- A column is read as it was written. -/
theorem Column.decode_toJson (origin : Origin) {c : Column} (recognized : c.unrecognized = [])
    (ordered : ∀ r, c.rule = some r → r.Ordered) :
    decode origin (.ofJson c.toJson) = .ok c := by
  rw [decode, ColumnText.decode_toJson origin ordered]
  exact congrArg Except.ok (ColumnText.toColumn_ofColumn recognized)

/-! ## Configurations -/

namespace Config

def entries (config : Config) : List Entry :=
  [("actions", some (.texts config.actions)),
    ("columns", some (.arr (config.columns.map Column.toJson))),
    ("phaseKey", some (.str config.phaseKey)), ("version", some (.int config.version.toInt))]

theorem toJson_eq (config : Config) :
    config.toJson = .ofMembers (config.entries.map Entry.member) :=
  rfl

/-- **A configuration is read as it was written.**  If each of its columns has no unrecognized
setting, and the clauses of its rule have JSON values with their members in order, the JSON form of
the configuration is read as the same configuration. -/
theorem decode_as_written (origin : Origin) {config : Config}
    (recognized : ∀ c ∈ config.columns, c.unrecognized = [])
    (ordered : ∀ c ∈ config.columns, ∀ r, c.rule = some r → r.Ordered) :
    decode origin (.ofJson config.toJson) = .ok config := by
  have actions : Decode.orNull [] (Decode.list Decode.text) (.ofJson (.texts config.actions)) =
      .ok config.actions := Decode.orNull_ofJson nofun (Decode.texts_ofJson _)
  have columns : Decode.orNull [] (Decode.list (Column.decode origin))
      (.ofJson (.arr (config.columns.map Column.toJson))) = .ok config.columns :=
    Decode.orNull_ofJson nofun <| Decode.list_ofJson fun c listed =>
      Column.decode_toJson origin (recognized c listed) (ordered c listed)
  rw [toJson_eq, decode, decode_entries origin rfl (by simp [entries, shape]) (by simp [entries])]
  refine foldlM_step (setEntry_some (fun _ => rfl) actions) ?_
  refine foldlM_step (setEntry_some (fun _ => rfl) columns) ?_
  refine foldlM_step rfl ?_
  exact foldlM_step (setEntry_some (fun _ => rfl) (Decode.int32_ofJson _)) rfl

def assorted : Json :=
  .arr [.null, .bool true, .int (-1), .number (.float (.ofParts false (twoPow 52) (-52))), .str "",
    .obj [("", .arr []), ("a", .null), ("b", .obj [("é", .obj [])])]]

theorem ordered_assorted : assorted.Ordered := by
  have inner : (Json.obj [("", .arr []), ("a", .null), ("b", .obj [("é", .obj [])])]).Ordered := by
    refine .obj (by decide) ?_
    simp only [List.forall_mem_cons, List.not_mem_nil, false_implies, implies_true, and_true]
    exact ⟨.arr (by simp), .null, .obj (by simp) (by simpa using .obj .nil nofun)⟩
  refine .arr ?_
  simp only [List.forall_mem_cons, List.not_mem_nil, false_implies, implies_true, and_true]
  exact ⟨.null, .bool _, .number _, .number _, .str _, inner⟩

/-- A configuration of another version, with a column that has all settings and an empty one that
has a rule without a branch. -/
def various : Config where
  version := -1
  phaseKey := ""
  actions := ["select", "", "select"]
  columns := [
    { key := " K ", label := "", valueType := .integer, editable := true
      objectType := some .bolt, attr := "A", targetType := some .assembly, targetAttr := "\"T"
      booleanMode := " ", rule := some ⟨some ⟨"", "?", .null⟩, none, some ⟨"F", "", assorted⟩⟩
      aggregate := .max, order := -2147483648, visible := false, filterOps := ["", "eq"]
      unrecognized := [] },
    { Column.blank with rule := some .empty }]

theorem ordered_various : ∀ c ∈ various.columns, ∀ r, c.rule = some r → r.Ordered := by
  simp only [various, List.forall_mem_cons, List.not_mem_nil, false_implies, implies_true, and_true,
    Option.some.injEq, forall_eq']
  refine ⟨fun branch c found => ?_, fun branch c found => ?_⟩
  · cases branch with
    | onTrue => cases found; exact .null
    | onFalse => cases found
    | onValue => cases found; exact ordered_assorted
  · cases branch <;> cases found

theorem decode_various : decode .value (.ofJson various.toJson) = .ok various :=
  decode_as_written .value (by decide) ordered_various

end Config

end PhaseTable
