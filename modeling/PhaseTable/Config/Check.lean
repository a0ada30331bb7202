/-
# PhaseTable.Config.Check -- configurations that can be relied on

`Config.check` turns what was written into a configuration that the rest of the table
relies on: of the supported version, with distinct keys, columns in order, bindings
that resolve and rules that fit.  What is wrong is dropped piece by piece, each with a
notice.  The built-in configuration takes over only when there is no configuration, it
has another version, or no column is left.

A column is dropped for one reason (`Column.check` fails with it) or kept with notices
on what was dropped from it.
-/
import PhaseTable.Config.Defaults
import PhaseTable.Config.Notice
import PhaseTable.Text.Pieces

namespace PhaseTable

set_option autoImplicit false

open Text

/-! ## One column -/

/-- The part of a column that says what it shows or selects. -/
structure Binding where
  objectType : Option ObjectType
  attr : String
  targetType : Option ObjectType
  targetAttr : String
  booleanMode : String
  rule : Option Rule
deriving DecidableEq

/-- Something kept, with notices on what was dropped from it, or the reason why it is dropped. -/
abbrev Kept (α : Type) := Except ColumnNotice (α × List ColumnNotice)

def noticeIf {ν : Type} (condition : Bool) (notice : ν) : List ν :=
  if condition then [notice] else []

namespace Column

/-- What a column that is not editable shows. -/
def modelBinding (c : Column) : Kept Binding :=
  match c.objectType, nonBlank? c.attr with
  | some objectType, some attr =>
      if c.targetType.isSome || !Text.blank c.targetAttr then .error .targetOnModelColumn
      else
        match ModelSource.resolve objectType attr with
        | .error reason => .error (.badSource reason)
        | .ok source =>
            .ok (⟨some objectType, source.attr, none, "", "", none⟩,
              noticeIf (!Text.blank c.booleanMode) .modeOnModelColumn ++
                noticeIf c.rule.isSome .ruleOnModelColumn)
  | _, _ => .error .sourceMissing

/-- What an editable column selects: nothing, an old target, or an attribute of a part or an
assembly. -/
def target (c : Column) : Kept (Option ObjectType × String) :=
  match c.targetType, nonBlank? c.targetAttr with
  | none, none => .ok ((none, ""), [])
  | none, some attr =>
      if isLegacyTarget attr then .ok ((none, attr), [.legacyTarget attr])
      else .error (.unknownTarget attr)
  | some _, none => .error .halfTarget
  | some type, some attr =>
      if type = .part ∨ type = .assembly then .ok ((some type, attr), [])
      else .error .badTargetType

/-- The mode of an editable column, if it is one for the column's type. -/
def mode (c : Column) : String × List ColumnNotice :=
  match nonBlank? c.booleanMode with
  | none => ("", [])
  | some mode =>
      if c.valueType ≠ .boolean then ("", [.modeForOtherType mode c.valueType])
      else if sameIgnoringAsciiCase mode positiveNumber then (positiveNumber, [])
      else ("", [.unknownMode mode])

/-- The rule of an editable column with the given target and mode, as it fits the column's type. -/
def fittedRule (c : Column) (targetAttr booleanMode : String) : Option Rule × List ColumnNotice :=
  match c.rule with
  | none => (none, [])
  | some rule =>
      if targetAttr = "" then (none, [.ruleWithoutTarget])
      else
        let (rule, notices) := rule.check c.valueType
        (rule, noticeIf (booleanMode ≠ "") .modeAndRule ++ notices.map .rule)

/-- What an editable column selects and how. -/
def editableBinding (c : Column) : Kept Binding :=
  if c.objectType.isSome || !Text.blank c.attr then .error .sourceOnEditableColumn
  else
    match c.target with
    | .error notice => .error notice
    | .ok ((targetType, targetAttr), targetNotices) =>
        let (booleanMode, modeNotices) := c.mode
        let (rule, ruleNotices) := c.fittedRule targetAttr booleanMode
        .ok (⟨none, "", targetType, targetAttr, booleanMode, rule⟩,
          targetNotices ++ modeNotices ++ ruleNotices)

/-- The filter operators that the column's type allows, by their names, each once. -/
def legalFilterOps (c : Column) : List FilterOp :=
  distinct ((c.filterOps.filterMap FilterOp.parse).filter (·.isLegalFor c.valueType))

/-- Notices on the filter operators that the column's type does not allow; words that name no
operator are passed over. -/
def filterOpNotices (c : Column) : List ColumnNotice :=
  c.filterOps.filterMap fun written =>
    match FilterOp.parse written with
    | some op =>
        if op.isLegalFor c.valueType then none
        else some (.illegalFilterOp (trim written) c.valueType)
    | none => none

/-- The column as it is kept under a trimmed key, or the reason why it is dropped. -/
def check (c : Column) (key : String) : Kept Column :=
  match c.unrecognized with
  | (setting, value) :: _ => .error (.unrecognized setting value)
  | [] =>
      match if c.editable then c.editableBinding else c.modelBinding with
      | .error notice => .error notice
      | .ok (binding, notices) =>
          .ok ({ c with
            key
            label := (nonBlank? c.label).getD key
            objectType := binding.objectType
            attr := binding.attr
            targetType := binding.targetType
            targetAttr := binding.targetAttr
            booleanMode := binding.booleanMode
            rule := binding.rule
            filterOps := c.legalFilterOps.map FilterOp.name }, notices ++ c.filterOpNotices)

/-- Columns stand in the order of their numbers, and of their keys in lower case. -/
def precedes (c d : Column) : Bool :=
  c.order < d.order || (c.order = d.order && lowerCase c.key ≤ lowerCase d.key)

end Column

/-! ## All columns -/

/-- A column after those whose keys, in lower case, are `seen`: what is kept of it, the notices on
it, and the key that it takes. -/
def checkColumn (seen : List String) (c : Column) :
    Option Column × List ConfigNotice × List String :=
  match nonBlank? c.key with
  | none => (none, [.emptyKey], seen)
  | some key =>
      if lowerCase key ∈ seen then (none, [.duplicateKey key], seen)
      else
        match c.check key with
        | .error notice => (none, [.column key notice], lowerCase key :: seen)
        | .ok (kept, notices) => (some kept, notices.map (.column key), lowerCase key :: seen)

/-- The columns that are kept, in their order of input, and the notices on all of them. -/
def checkColumns (seen : List String) : List Column → List Column × List ConfigNotice
  | [] => ([], [])
  | c :: rest =>
      let (kept, notices, seen) := checkColumn seen c
      let (others, more) := checkColumns seen rest
      (kept.toList ++ others, notices ++ more)

/-- The actions that are offered: trimmed, not blank, and distinct up to case. -/
def checkActions (actions : List String) : List String :=
  match distinctBy lowerCase (actions.filterMap nonBlank?) with
  | [] => defaultActions
  | actions => actions

/-! ## The configuration -/

/-- Where a checked configuration comes from: what was written, of which so many columns were
dropped, or the built-in one. -/
inductive Basis where
  | written (dropped : Nat)
  | builtIn
deriving DecidableEq

/-- A checked configuration, with the notices that checking gave. -/
structure Checked where
  config : Config
  notices : List ConfigNotice
  basis : Basis
deriving DecidableEq

/-- The built-in configuration, in place of one with the given faults. -/
def Checked.builtIn (notices : List ConfigNotice) : Checked :=
  ⟨.default, notices, .builtIn⟩

/-- The configuration to rely on, for one that was written or for none. -/
def Config.check : Option Config → Checked
  | none => .builtIn [.missing]
  | some config =>
      if config.version ≠ supportedVersion then .builtIn [.unsupportedVersion config.version]
      else
        match checkColumns [] config.columns with
        | ([], notices) => .builtIn (notices ++ [.noColumnLeft])
        | (columns, notices) =>
            { config :=
                { version := supportedVersion
                  phaseKey := (nonBlank? config.phaseKey).getD "number"
                  actions := checkActions config.actions
                  columns := columns.mergeSort Column.precedes }
              notices
              basis := .written (config.columns.length - columns.length) }

end PhaseTable
