/-
# PhaseTable.Proofs.Config.UnknownSettings -- an unknown setting costs its own column

A text that names no variant can stand in a setting of a column whatever else the column says.  The
column is read all the same (`Column.decode_write`): its key is what it was, and it remembers the
text, for which it is dropped.  The other columns are read as before, and so is everything else
(`Config.decode_editColumns`); that the keys stand in another text then makes no difference
(`Config.decode_unplaced`).  Columns share nothing but their keys, so where these are distinct the
configuration is what it would be without the column (`Config.check_unknown_setting`).
-/
import PhaseTable.Proofs.Config.ColumnOrder
import PhaseTable.Proofs.Json.Editing
import PhaseTable.Proofs.Json.Places

namespace PhaseTable

set_option autoImplicit false

open Text

namespace NamedSetting

def names : NamedSetting → String → Bool
  | .valueType, s => (ValueType.parse s).isSome
  | .objectType, s | .targetType, s => (ObjectType.parse s).isSome
  | .aggregate, s => (Aggregate.parse s).isSome

/-- The text is not blank and names no variant. -/
def Unknown (setting : NamedSetting) (s : String) : Prop :=
  blank s = false ∧ setting.names s = false

instance (setting : NamedSetting) (s : String) : Decidable (setting.Unknown s) :=
  inferInstanceAs (Decidable (_ ∧ _))

def written : NamedSetting → ColumnText → Option String
  | .valueType, t => t.valueType
  | .objectType, t => t.objectType
  | .targetType, t => t.targetType
  | .aggregate, t => t.aggregate

end NamedSetting

namespace ColumnText

variable (origin : Origin)

theorem regular : (shape origin).Regular where
  free := rfl
  nodup := by simp [shape]
  uniform record next key d := by
    simp only [shape]
    split <;> exact Decode.isOk_map _ _ _

theorem kept_of_set {origin : Origin} {t next : ColumnText} {key : String} {d : Document}
    (set_ : (shape origin).set t key d = .ok next) :
    (key ≠ "key" → next.column.key = t.column.key) ∧
      ∀ setting : NamedSetting, key ≠ setting.key → setting.written next = setting.written t := by
  simp only [shape] at set_
  split at set_ <;> obtain ⟨b, read, rfl⟩ := Decode.read_of_map set_ <;>
    refine ⟨?_, fun setting different => ?_⟩
  all_goals first
    | (cases setting <;> first | rfl | exact absurd rfl different)
    | exact fun _ => rfl
    | exact fun different => absurd rfl different

def keyField : (shape origin).Field "key" String where
  get t := t.column.key
  read := shape.textOr
  own _ _ := Decode.map_map_eq _ fun _ => rfl
  other _ different set_ := (kept_of_set set_).1 different

def settingField (setting : NamedSetting) :
    (shape origin).Field setting.key (Option String) where
  get := setting.written
  read := Decode.optional Decode.text
  own _ _ := by cases setting <;> exact Decode.map_map_eq _ fun _ => rfl
  other _ different set_ := (kept_of_set set_).2 setting different

/-- Null can stand for each value that comes before a setting. -/
theorem takes_null (setting : NamedSetting) :
    ∀ key ∈ (shape origin).keys.take ((shape origin).keys.idxOf setting.key),
      (shape origin).Takes key .null := by
  have start : ∀ key ∈ (shape origin).keys.take ((shape origin).keys.idxOf setting.key),
      ((shape origin).set (shape origin).start key .null).isOk = true := by
    cases origin <;> cases setting <;> decide
  exact fun key before => (regular origin).takes_of_isOk (start key before)

/-- A setting that is unknown is remembered. -/
theorem mem_unrecognized {setting : NamedSetting} {s : String} (unknown : setting.Unknown s)
    {t : ColumnText} (held : setting.written t = some s) :
    (setting, s) ∈ t.toColumn.unrecognized := by
  obtain ⟨present, unnamed⟩ := unknown
  cases setting <;> simp_all [NamedSetting.names, NamedSetting.written, toColumn, unnamed?]

end ColumnText

/-! ## One column -/

namespace Column

variable {origin : Origin} {d : Document} {c : Column}

/-- A column that remembers an unknown setting is not kept. -/
theorem fit?_of_unrecognized (remembered : c.unrecognized ≠ []) : c.fit? = none := by
  obtain ⟨⟨setting, s⟩, others, listed⟩ := List.exists_cons_of_ne_nil remembered
  simp only [fit?, checkColumn, check, listed]
  cases nonBlank? c.key <;> simp

theorem decode_eq_ok_iff :
    Column.decode origin d = .ok c ↔
      ∃ t, (ColumnText.shape origin).decode origin d = .ok t ∧ t.toColumn = c := by
  rw [Column.decode]
  cases (ColumnText.shape origin).decode origin d <;> simp [bind, Except.bind, pure, Except.pure]

/-- What a column is where an unknown text is written in one of its settings: it remembers the text,
and has the key that it had. -/
def Spoiled (setting : NamedSetting) (s : String) (c changed : Column) : Prop :=
  (setting, s) ∈ changed.unrecognized ∧ changed.takenKey? = c.takenKey?

theorem Spoiled.unfit {setting : NamedSetting} {s : String} {changed : Column}
    (spoiled : Spoiled setting s c changed) : changed.fit? = none :=
  fit?_of_unrecognized (List.ne_nil_of_mem spoiled.1)

/-- A column with a key is still read where an unknown text is written in one of its settings. -/
theorem decode_write {setting : NamedSetting} {s : String} (unknown : setting.Unknown s)
    (decodes : Column.decode origin d = .ok c) :
    ∃ changed, Column.decode origin
        ((ColumnText.shape origin).write setting.key (.text (some s)) d) = .ok changed ∧
      (c.takenKey? ≠ none → Spoiled setting s c changed) := by
  obtain ⟨t, written, rfl⟩ := decode_eq_ok_iff.mp decodes
  have known : setting.key ∈ (ColumnText.shape origin).keys := by
    cases setting <;> simp [ColumnText.shape, NamedSetting.key]
  have read : (ColumnText.settingField origin setting).read (.text (some s)) = .ok (some s) := rfl
  obtain ⟨next, rewritten, held, kept⟩ := (ColumnText.regular origin).decode_write origin known
    (ColumnText.settingField origin setting) written read (ColumnText.takes_null origin setting)
  refine ⟨next.toColumn, decode_eq_ok_iff.mpr ⟨next, rewritten, rfl⟩, fun named =>
    ⟨ColumnText.mem_unrecognized unknown held, ?_⟩⟩
  have other : "key" ≠ setting.key := by cases setting <;> decide
  -- a key that is not blank is one that the document gives
  have given : t.column.key ≠ "" := fun unset =>
    named (congrArg (fun key => (nonBlank? key).map lowerCase) unset)
  have key : next.column.key = t.column.key := kept (ColumnText.keyField origin) other given
  exact congrArg (fun key => (nonBlank? key).map lowerCase) key

end Column

/-! ## Where keys stand -/

theorem Clause.decode_unplaced (origin : Origin) : Decode.Placeless (shape.decode origin) := by
  refine Shape.decode_unplaced (fun c key d => ?_) origin
  simp only [shape, Decode.orNull_unplaced Decode.text_unplaced "" d, Decode.anyValue_unplaced d]

theorem Rule.decode_unplaced (origin : Origin) :
    Decode.Placeless ((shape origin).decode origin) := by
  refine Shape.decode_unplaced (fun r key d => ?_) origin
  simp only [shape, Decode.optional_unplaced (Clause.decode_unplaced origin) d]

theorem ColumnText.decode_unplaced (origin : Origin) :
    Decode.Placeless ((shape origin).decode origin) := by
  refine Shape.decode_unplaced (fun t key d => ?_) origin
  simp only [shape, shape.textOr, Decode.orNull_unplaced Decode.text_unplaced "" d,
    Decode.optional_unplaced Decode.text_unplaced d,
    Decode.orNull_unplaced Decode.bool_unplaced false d, Decode.bool_unplaced d,
    Decode.optional_unplaced (Rule.decode_unplaced origin) d,
    Decode.int32, Decode.integer_unplaced int32? "i32" d,
    Decode.orNull_unplaced (Decode.list_unplaced Decode.text_unplaced) [] d]

theorem Column.decode_unplaced (origin : Origin) : Decode.Placeless (Column.decode origin) := by
  intro d
  rw [Column.decode, Column.decode, ColumnText.decode_unplaced origin d]

/-- A configuration does not hang on where its keys stand. -/
theorem Config.decode_unplaced (origin : Origin) : Decode.Placeless (Config.decode origin) := by
  refine Shape.decode_unplaced (fun config key d => ?_) origin
  simp only [shape, Decode.int32, Decode.integer_unplaced int32? "i32" d,
    Decode.orNull_unplaced Decode.text_unplaced "" d,
    Decode.orNull_unplaced (Decode.list_unplaced Decode.text_unplaced) [] d,
    Decode.orNull_unplaced (Decode.list_unplaced (Column.decode_unplaced origin)) [] d]

namespace Config

variable {origin : Origin} {d : Document} {config : Config}

/-! ## The columns of a document -/

theorem regular (origin : Origin) : (shape origin).Regular where
  free := rfl
  nodup := by simp [shape]
  uniform record next key d := by
    simp only [shape]
    split <;> exact Decode.isOk_map _ _ _

theorem kept_of_set {next : Config} {key : String}
    (set_ : (shape origin).set config key d = .ok next) :
    (key ≠ "version" → next.version = config.version) ∧
      (key ≠ "phaseKey" → next.phaseKey = config.phaseKey) ∧
      (key ≠ "actions" → next.actions = config.actions) ∧
      (key ∈ (shape origin).keys → key ≠ "columns" → next.columns = config.columns) := by
  simp only [shape] at set_
  split at set_ <;> obtain ⟨b, read, rfl⟩ := Decode.read_of_map set_ <;> simp_all [shape]

def versionField (origin : Origin) : (shape origin).Field "version" Int32 where
  get := version
  read := Decode.int32
  own _ _ := Decode.map_map_eq _ fun _ => rfl
  other _ different set_ := (kept_of_set set_).1 different

def phaseKeyField (origin : Origin) : (shape origin).Field "phaseKey" String where
  get := phaseKey
  read := Decode.orNull "" Decode.text
  own _ _ := Decode.map_map_eq _ fun _ => rfl
  other _ different set_ := (kept_of_set set_).2.1 different

def actionsField (origin : Origin) : (shape origin).Field "actions" (List String) where
  get := actions
  read := Decode.orNull [] (Decode.list Decode.text)
  own _ _ := Decode.map_map_eq _ fun _ => rfl
  other _ different set_ := (kept_of_set set_).2.2.1 different

def columnsField (origin : Origin) : (shape origin).Field "columns" (List Column) where
  get := columns
  read := Decode.orNull [] (Decode.list (Column.decode origin))
  own _ _ := Decode.map_map_eq _ fun _ => rfl
  other known different set_ := (kept_of_set set_).2.2.2 known different

def editColumns (origin : Origin) (f : List Document → List Document) : Document → Document :=
  (shape origin).modify "columns" (Document.mapItems f)

/-- Where the columns are edited, everything else is read as before. -/
theorem decode_editColumns {f : List Document → List Document}
    {Changed : List Column → List Column → Prop}
    (changed : ∀ items columns, items.map (Column.decode origin) = columns.map .ok →
      ∃ others, (f items).map (Column.decode origin) = others.map .ok ∧ Changed columns others)
    (nothing : Changed [] []) (decodes : Config.decode origin d = .ok config) :
    ∃ columns, Config.decode origin (editColumns origin f d) = .ok { config with columns } ∧
      Changed config.columns columns := by
  have each : ∀ old columns, (columnsField origin).read old = .ok columns →
      ∃ others, (columnsField origin).read (old.mapItems f) = .ok others ∧
        Changed columns others :=
    fun _ _ read => Decode.list_mapItems changed nothing read
  obtain ⟨next, edited, change, kept⟩ := (regular origin).decode_modify origin
    (by simp [shape]) (columnsField origin) decodes each nothing
  have same : next = { config with columns := next.columns } := by
    have version := kept (versionField origin) (by decide)
    have phaseKey := kept (phaseKeyField origin) (by decide)
    have actions := kept (actionsField origin) (by decide)
    cases next
    cases version
    cases phaseKey
    cases actions
    rfl
  exact ⟨next.columns, edited.trans (congrArg Except.ok same), change⟩

/-- The document of a configuration with a text written in a setting of one of its columns. -/
def writeSetting (origin : Origin) (setting : NamedSetting) (s : String) (i : Nat) :
    Document → Document :=
  editColumns origin
    (·.modify i ((ColumnText.shape origin).write setting.key (.text (some s))))

def dropColumn (origin : Origin) (i : Nat) : Document → Document :=
  editColumns origin (·.eraseIdx i)

theorem decode_dropColumn (decodes : Config.decode origin d = .ok config) (i : Nat) :
    Config.decode origin (dropColumn origin i d) =
      .ok { config with columns := config.columns.eraseIdx i } := by
  have each : ∀ (items : List Document) (columns : List Column),
      items.map (Column.decode origin) = columns.map .ok →
      ∃ others, (items.eraseIdx i).map (Column.decode origin) = others.map .ok ∧
        others = columns.eraseIdx i := fun items columns read =>
    ⟨columns.eraseIdx i, by rw [← List.eraseIdx_map, read, List.eraseIdx_map], rfl⟩
  obtain ⟨columns, dropped, rfl⟩ := decode_editColumns each rfl decodes
  exact dropped

theorem decode_writeSetting (decodes : Config.decode origin d = .ok config)
    {setting : NamedSetting} {s : String} (unknown : setting.Unknown s) {i : Nat} {c : Column}
    (place : config.columns[i]? = some c) (named : c.takenKey? ≠ none) :
    ∃ changed, c.Spoiled setting s changed ∧
      Config.decode origin (writeSetting origin setting s i d) =
        .ok { config with columns := config.columns.set i changed } := by
  have each : ∀ (items : List Document) (columns : List Column),
      items.map (Column.decode origin) = columns.map .ok →
      ∃ others, (items.modify i ((ColumnText.shape origin).write setting.key (.text (some s)))).map
          (Column.decode origin) = others.map .ok ∧
        ∀ c, columns[i]? = some c → c.takenKey? ≠ none →
          ∃ changed, c.Spoiled setting s changed ∧ others = columns.set i changed := by
    intro items columns read
    cases place : columns[i]? with
    | none => exact ⟨columns, Decode.map_modify_none read place, by simp⟩
    | some c =>
        obtain ⟨item, decodes, replace⟩ := Decode.map_modify_some read place
        obtain ⟨changed, writes, spoiled⟩ := Column.decode_write unknown decodes
        refine ⟨columns.set i changed, replace _ writes, ?_⟩
        rintro _ ⟨⟩ named
        exact ⟨changed, spoiled named, rfl⟩
  obtain ⟨columns, writes, change⟩ := decode_editColumns each (by simp) decodes
  obtain ⟨changed, spoiled, rfl⟩ := change c place named
  exact ⟨changed, spoiled, writes⟩

/-! ## Checking -/

/-- With distinct keys, what is kept of each column is kept of the configuration. -/
theorem config_check_of_distinct (version : config.version = supportedVersion)
    {columns : List Column} (distinct_ : (columns.filterMap Column.takenKey?).Nodup) :
    (check (some { config with columns })).config =
      config.ofKept (columns.filterMap Column.fit?) := by
  have supported : { config with columns }.version = supportedVersion := version
  exact (check_of_distinct supported distinct_).1

/-- What is kept of a column hangs on no other column, so one that is not fit may be left out. -/
theorem check_set_unfit (version : config.version = supportedVersion)
    (distinct_ : (config.columns.filterMap Column.takenKey?).Nodup) {i : Nat} {c changed : Column}
    (place : config.columns[i]? = some c) (same : changed.takenKey? = c.takenKey?)
    (unfit : changed.fit? = none) :
    (check (some { config with columns := config.columns.set i changed })).config =
      (check (some { config with columns := config.columns.eraseIdx i })).config := by
  obtain ⟨inside, rfl⟩ := List.getElem?_eq_some_iff.mp place
  have columns : config.columns = config.columns.take i ++ config.columns[i] ::
      config.columns.drop (i + 1) := by
    rw [List.getElem_cons_drop, List.take_append_drop]
  have replaced : config.columns.set i changed =
      config.columns.take i ++ changed :: config.columns.drop (i + 1) := by
    rw [List.set_eq_take_append_cons_drop, if_pos inside]
  have left : config.columns.eraseIdx i = config.columns.take i ++ config.columns.drop (i + 1) :=
    List.eraseIdx_eq_take_drop_succ _ _
  have keys : (config.columns.set i changed).filterMap Column.takenKey? =
      config.columns.filterMap Column.takenKey? := by
    rw [replaced]
    nth_rewrite 3 [columns]
    simp only [List.filterMap_append, List.filterMap_cons, same]
  have kept : (config.columns.set i changed).filterMap Column.fit? =
      (config.columns.eraseIdx i).filterMap Column.fit? := by
    rw [replaced, left, List.filterMap_append, List.filterMap_append,
      List.filterMap_cons_none unfit]
  rw [config_check_of_distinct version (keys ▸ distinct_), kept,
    config_check_of_distinct version
      (distinct_.sublist ((List.eraseIdx_sublist _ _).filterMap Column.takenKey?))]

/-- **A setting that names no variant costs its own column and nothing else.**  Let the columns of a
configuration have distinct keys up to case.  Whatever text that is neither blank nor the name of a
variant is written in a setting of a column with a key, the configuration is still read, with the
text in the column; and it is checked as if the column were not there. -/
theorem check_unknown_setting (decodes : Config.decode origin d = .ok config)
    (version : config.version = supportedVersion)
    (distinct_ : (config.columns.filterMap Column.takenKey?).Nodup) {i : Nat} {c : Column}
    (place : config.columns[i]? = some c) (named : nonBlank? c.key ≠ none)
    {setting : NamedSetting} {s : String} (unknown : setting.Unknown s) {changed rest : Document}
    (written : changed.Alike (writeSetting origin setting s i d))
    (dropped : rest.Alike (dropColumn origin i d)) :
    ∃ column, (setting, s) ∈ column.unrecognized ∧
      Config.decode origin changed =
        .ok { config with columns := config.columns.set i column } ∧
      Config.decode origin rest = .ok { config with columns := config.columns.eraseIdx i } ∧
      (check (some { config with columns := config.columns.set i column })).config =
        (check (some { config with columns := config.columns.eraseIdx i })).config := by
  have keyed : c.takenKey? ≠ none := by simpa [Column.takenKey?] using named
  obtain ⟨column, spoiled, writes⟩ := decode_writeSetting decodes unknown place keyed
  have placeless := Config.decode_unplaced origin
  exact ⟨column, spoiled.1, (placeless.congr written).trans writes,
    (placeless.congr dropped).trans (decode_dropColumn decodes i),
    check_set_unfit version distinct_ place spoiled.2 spoiled.unfit⟩

/-- A column of weights, written as an object, and one of phase numbers, written as an array. -/
def weighed : Document :=
  .ofJson (.obj [
    ("columns", .arr [
      .obj [("aggregate", .str "Max"), ("attribute", .str "WEIGHT"), ("key", .str "weight"),
        ("objectType", .str "Assembly")],
      .arr [.str "phase", .str "No.", .str "integer", .bool false, .str "Phase", .str "number"]]),
    ("version", .int 2)])

def weighedConfig : Config where
  version := 2
  phaseKey := "number"
  actions := []
  columns := [
    { Column.blank with
      key := "weight", objectType := some .assembly, attr := "WEIGHT", aggregate := .max },
    { Column.blank with
      key := "phase", label := "No.", valueType := .integer, objectType := some .phase,
      attr := "number" }]

/-- The array ends before the setting, so null comes to stand for what is between. -/
theorem check_unknown_setting_weighed :
    Config.decode .text weighed = .ok weighedConfig ∧
    (weighedConfig.columns.filterMap Column.takenKey?).Nodup ∧
    NamedSetting.aggregate.Unknown "Median" ∧
    ∃ column, (.aggregate, "Median") ∈ column.unrecognized ∧
      Config.decode .text (writeSetting .text .aggregate "Median" 1 weighed) =
        .ok { weighedConfig with columns := weighedConfig.columns.set 1 column } ∧
      Config.decode .text (dropColumn .text 1 weighed) =
        .ok { weighedConfig with columns := weighedConfig.columns.eraseIdx 1 } ∧
      (check (some { weighedConfig with columns := weighedConfig.columns.set 1 column })).config =
        (check (some { weighedConfig with
          columns := weighedConfig.columns.eraseIdx 1 })).config := by
  have decodes : Config.decode .text weighed = .ok weighedConfig := rfl
  have distinct_ : (weighedConfig.columns.filterMap Column.takenKey?).Nodup := by decide
  have unknown : NamedSetting.aggregate.Unknown "Median" := by decide
  exact ⟨decodes, distinct_, unknown,
    check_unknown_setting decodes rfl distinct_ (i := 1) rfl (by decide) unknown rfl rfl⟩

end Config

end PhaseTable
