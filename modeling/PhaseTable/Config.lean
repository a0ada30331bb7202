/-
# PhaseTable.Config -- the configuration of the table

A configuration lists the columns of the phase table.  A model column shows an
attribute of model objects and names the kind of object and the attribute.  An
editable column takes input and names what the input selects; two names of old, alone
and without a kind of object, stand for fixed selections (`isLegacyTarget`).

A configuration is decoded as it is written; what it asks for is judged by
`Config.Check`.  A setting that names no variant does not make the configuration
unreadable: the column remembers it in `unrecognized` and is dropped when it is checked.
-/
import PhaseTable.Rule

namespace PhaseTable

set_option autoImplicit false

def supportedVersion : Int32 := 2

/-- The mode in which a Boolean column asks whether a number is positive. -/
def positiveNumber : String := "positiveNumber"

/-- The mode is that of positive numbers, whatever its blank ends and case. -/
def isPositiveNumberMode (mode : String) : Bool :=
  Text.sameIgnoringAsciiCase (Text.trim mode) positiveNumber

/-- The old target that leaves out objects that are already there. -/
def excludeExisting : String := "exclude_existing"

def excludeGratings : String := "exclude_gratings"

/-- The targets that need no kind of object. -/
def isLegacyTarget (target : String) : Bool :=
  Text.sameIgnoringAsciiCase target excludeGratings ||
    Text.sameIgnoringAsciiCase target excludeExisting

/-- A setting of a column that is written by the name of a variant. -/
inductive NamedSetting where
  | valueType
  | objectType
  | targetType
  | aggregate
deriving DecidableEq

def NamedSetting.key : NamedSetting → String
  | .valueType => "type"
  | .objectType => "objectType"
  | .targetType => "targetObjectType"
  | .aggregate => "aggregate"

structure Column where
  key : String
  label : String
  valueType : ValueType
  editable : Bool
  objectType : Option ObjectType
  attr : String
  targetType : Option ObjectType
  targetAttr : String
  booleanMode : String
  rule : Option Rule
  aggregate : Aggregate
  order : Int32
  visible : Bool
  filterOps : List String
  /-- The settings that name no variant, with what they say. -/
  unrecognized : List (NamedSetting × String)
deriving DecidableEq

namespace Column

def blank : Column where
  key := ""
  label := ""
  valueType := .string
  editable := false
  objectType := none
  attr := ""
  targetType := none
  targetAttr := ""
  booleanMode := ""
  rule := none
  aggregate := .first
  order := 0
  visible := true
  filterOps := []
  unrecognized := []

def isPositiveNumber (c : Column) : Bool :=
  isPositiveNumberMode c.booleanMode

/-- The column shows the given attribute of the phase itself. -/
def showsPhase (c : Column) (attr : String) : Bool :=
  c.objectType = some .phase && Text.sameIgnoringAsciiCase c.attr attr

end Column

structure Config where
  version : Int32
  phaseKey : String
  actions : List String
  columns : List Column
deriving DecidableEq

/-- The first column with a key, whatever the case of its ASCII letters. -/
def Config.column? (config : Config) (key : String) : Option Column :=
  config.columns.find? fun c => Text.sameIgnoringAsciiCase c.key key

/-! ## JSON form -/

/-- The JSON form of a column; what is unset is left out. -/
def Column.toJson (c : Column) : Json :=
  .ofMembers [
    some ("aggregate", c.aggregate.toJson),
    c.rule.map (("applyRule", ·.toJson)),
    Json.unlessEmpty "attribute" c.attr,
    Json.unlessEmpty "booleanMode" c.booleanMode,
    some ("editable", .bool c.editable),
    some ("filterOps", .texts c.filterOps),
    some ("key", .str c.key),
    some ("label", .str c.label),
    c.objectType.map (("objectType", ·.toJson)),
    some ("order", .int c.order.toInt),
    Json.unlessEmpty "targetAttribute" c.targetAttr,
    c.targetType.map (("targetObjectType", ·.toJson)),
    some ("type", c.valueType.toJson),
    some ("visibleByDefault", .bool c.visible)]

/-- A column as it is written, with the names of variants as they are. -/
structure ColumnText where
  column : Column
  valueType : Option String
  objectType : Option String
  targetType : Option String
  aggregate : Option String

namespace ColumnText

def shape (origin : Origin) : Shape ColumnText where
  name := "RawColumnConfig"
  keys := ["key", "label", "type", "editable", "objectType", "attribute", "targetObjectType",
    "targetAttribute", "booleanMode", "applyRule", "aggregate", "order", "visibleByDefault",
    "filterOps"]
  required := []
  start := ⟨.blank, none, none, none, none⟩
  set t key d :=
    let c := t.column
    match key with
    | "key" => do return { t with column := { c with key := ← textOr d } }
    | "label" => do return { t with column := { c with label := ← textOr d } }
    | "type" => do return { t with valueType := ← Decode.optional Decode.text d }
    | "editable" => do
        return { t with column := { c with editable := ← Decode.orNull false Decode.bool d } }
    | "objectType" => do return { t with objectType := ← Decode.optional Decode.text d }
    | "attribute" => do return { t with column := { c with attr := ← textOr d } }
    | "targetObjectType" => do return { t with targetType := ← Decode.optional Decode.text d }
    | "targetAttribute" => do return { t with column := { c with targetAttr := ← textOr d } }
    | "booleanMode" => do return { t with column := { c with booleanMode := ← textOr d } }
    | "applyRule" => do
        let rule ← Decode.optional ((Rule.shape origin).decode origin) d
        return { t with column := { c with rule } }
    | "aggregate" => do return { t with aggregate := ← Decode.optional Decode.text d }
    | "order" => do return { t with column := { c with order := ← Decode.int32 d } }
    | "visibleByDefault" => do return { t with column := { c with visible := ← Decode.bool d } }
    | _ => do
        let filterOps ← Decode.orNull [] (Decode.list Decode.text) d
        return { t with column := { c with filterOps } }
where
  /-- A text, or null for the empty one. -/
  textOr (d : Document) : Decoded String :=
    Decode.orNull "" Decode.text d

/-- The variant that a setting names; a blank setting is unset. -/
def named? {α : Type} (parse : String → Option α) (written : Option String) : Option α :=
  written.bind fun s => if Text.blank s then none else parse s

/-- What a setting says when it names no variant. -/
def unnamed? {α : Type} (setting : NamedSetting) (parse : String → Option α)
    (written : Option String) : Option (NamedSetting × String) :=
  written.bind fun s =>
    if Text.blank s || (parse s).isSome then none else some (setting, s)

def toColumn (t : ColumnText) : Column :=
  { t.column with
    valueType := (named? ValueType.parse t.valueType).getD .string
    objectType := named? ObjectType.parse t.objectType
    targetType := named? ObjectType.parse t.targetType
    aggregate := (named? Aggregate.parse t.aggregate).getD .first
    unrecognized := [unnamed? .valueType ValueType.parse t.valueType,
      unnamed? .objectType ObjectType.parse t.objectType,
      unnamed? .targetType ObjectType.parse t.targetType,
      unnamed? .aggregate Aggregate.parse t.aggregate].filterMap id }

end ColumnText

def Column.decode (origin : Origin) (d : Document) : Decoded Column := do
  return (← (ColumnText.shape origin).decode origin d).toColumn

def Config.toJson (config : Config) : Json :=
  .obj [("actions", .texts config.actions), ("columns", .arr (config.columns.map Column.toJson)),
    ("phaseKey", .str config.phaseKey), ("version", .int config.version.toInt)]

def Config.shape (origin : Origin) : Shape Config where
  name := "TableConfig"
  keys := ["version", "phaseKey", "actions", "columns"]
  required := []
  start := ⟨supportedVersion, "number", [], []⟩
  set config key d :=
    match key with
    | "version" => do return { config with version := ← Decode.int32 d }
    | "phaseKey" => do return { config with phaseKey := ← Decode.orNull "" Decode.text d }
    | "actions" => do
        return { config with actions := ← Decode.orNull [] (Decode.list Decode.text) d }
    | _ => do
        let columns ← Decode.orNull [] (Decode.list (Column.decode origin)) d
        return { config with columns }

def Config.decode (origin : Origin) : Document → Decoded Config :=
  (Config.shape origin).decode origin

def Config.parse (s : String) : Decoded Config :=
  Decode.wholeText (Config.decode .text) s

end PhaseTable
