/-
# PhaseTable.Proofs.Config.WellFormed -- what a checked configuration looks like

`Config.WellFormed` says what the rest of the table relies on, without a word on how
it comes about: the version, trimmed names, actions and keys that are distinct up to
case, at least one column and all of them in strict order, and for each column
(`Column.WellFormed`) a binding in stored form, a rule that fits and legal filter
operators by their names.

A well-formed column is kept as it is, and the only notices on it are the standing
ones (`Column.check_of_wellFormed`): its target is an old one, or its rule takes
precedence over its mode.  Whatever column is kept is well formed
(`Column.wellFormed_of_check`).
-/
import Mathlib.Data.List.Nodup
import PhaseTable.Config.Check
import PhaseTable.Proofs.Rule
import PhaseTable.Proofs.Source
import PhaseTable.Proofs.Text.Distinct

namespace PhaseTable

set_option autoImplicit false

open Text

/-! ## Definitions -/

/-- An editable column selects nothing, by an old target alone, or by an attribute of a part or an
assembly. -/
def Targets (type : Option ObjectType) (attr : String) : Prop :=
  (type = none ∧ attr = "") ∨ (type = none ∧ isLegacyTarget attr = true) ∨
    ((type = some .part ∨ type = some .assembly) ∧ Trimmed attr)

namespace Binding

/-- An attribute in its stored form is shown, and nothing is selected. -/
structure ShowsModel (b : Binding) : Prop where
  source : ∃ type source, b.objectType = some type ∧
    ModelSource.resolve type b.attr = .ok source ∧ source.attr = b.attr
  targetType : b.targetType = none
  targetAttr : b.targetAttr = ""
  booleanMode : b.booleanMode = ""
  rule : b.rule = none

/-- Nothing is shown; values of the type are taken for a target, with a mode only if they are
Boolean, and with a rule only if it fits them and there is a target. -/
structure TakesInput (b : Binding) (type : ValueType) : Prop where
  objectType : b.objectType = none
  attr : b.attr = ""
  target : Targets b.targetType b.targetAttr
  booleanMode : b.booleanMode = "" ∨ b.booleanMode = positiveNumber ∧ type = .boolean
  rule : ∀ r, b.rule = some r → b.targetAttr ≠ "" ∧ r.Fits type

end Binding

namespace Column

def binding (c : Column) : Binding :=
  ⟨c.objectType, c.attr, c.targetType, c.targetAttr, c.booleanMode, c.rule⟩

/-- What the rest of the table relies on in one column. -/
structure WellFormed (c : Column) : Prop where
  key : Trimmed c.key
  label : Trimmed c.label
  model : c.editable = false → c.binding.ShowsModel
  editable : c.editable = true → c.binding.TakesInput c.valueType
  filterOps_legal :
    ∀ s ∈ c.filterOps, ∃ op : FilterOp, s = op.name ∧ op.isLegalFor c.valueType = true
  filterOps_nodup : c.filterOps.Nodup
  unrecognized : c.unrecognized = []

/-- The notices that stay however often a column is checked: on an old target, and on a mode beside
a rule. -/
def standingNotices (c : Column) : List ColumnNotice :=
  noticeIf (c.editable && c.targetType.isNone && c.targetAttr ≠ "") (.legacyTarget c.targetAttr) ++
    noticeIf (c.booleanMode ≠ "" && c.rule.isSome) .modeAndRule

/-- The form of a key in which keys are distinct. -/
def lowerKey (c : Column) : String :=
  lowerCase c.key

/-- The order of columns, without ties. -/
def Before (c d : Column) : Prop :=
  c.order < d.order ∨ (c.order = d.order ∧ c.lowerKey < d.lowerKey)

end Column

/-- What the rest of the table relies on in a configuration. -/
structure Config.WellFormed (config : Config) : Prop where
  version : config.version = 2
  phaseKey : Trimmed config.phaseKey
  actions_ne_nil : config.actions ≠ []
  actions_trimmed : ∀ action ∈ config.actions, Trimmed action
  actions_distinct : (config.actions.map lowerCase).Nodup
  columns_ne_nil : config.columns ≠ []
  columns : ∀ c ∈ config.columns, c.WellFormed
  keys_distinct : (config.columns.map Column.lowerKey).Nodup
  ascending : config.columns.Pairwise Column.Before

/-- The notices that stay however often a configuration is checked. -/
def Config.standingNotices (config : Config) : List ConfigNotice :=
  config.columns.flatMap fun c => c.standingNotices.map (.column c.key)

/-! ## Bindings -/

theorem trimmed_of_isLegacyTarget {target : String} (legacy : isLegacyTarget target = true) :
    Trimmed target := by
  have gratings : Trimmed excludeGratings := by decide
  have existing : Trimmed excludeExisting := by decide
  rw [isLegacyTarget, Bool.or_eq_true] at legacy
  rcases legacy with same | same
  · exact gratings.of_sameIgnoringAsciiCase same
  · exact existing.of_sameIgnoringAsciiCase same

namespace Column

variable {c : Column}

theorem targets_of_target {type : Option ObjectType} {attr : String} {notices : List ColumnNotice}
    (kept : c.target = .ok ((type, attr), notices)) : Targets type attr := by
  unfold target at kept
  split at kept
  · cases kept
    exact .inl ⟨rfl, rfl⟩
  · split at kept
    · next legacy =>
      cases kept
      exact .inr (.inl ⟨rfl, legacy⟩)
    · cases kept
  · cases kept
  · next type attr _ found =>
    split at kept
    · next allowed =>
      cases kept
      refine .inr (.inr ⟨?_, trimmed_of_nonBlank? found⟩)
      exact allowed.imp (congrArg some) (congrArg some)
    · cases kept

/-- A target is kept as it is; an old one with a notice. -/
theorem target_of_targets (targets : Targets c.targetType c.targetAttr) :
    c.target = .ok ((c.targetType, c.targetAttr),
      noticeIf (c.targetType.isNone && c.targetAttr ≠ "") (.legacyTarget c.targetAttr)) := by
  rcases targets with ⟨noType, noAttr⟩ | ⟨noType, legacy⟩ | ⟨type, trimmed⟩
  · simp [target, noType, noAttr, noticeIf]
  · have trimmed := trimmed_of_isLegacyTarget legacy
    simp [target, noType, trimmed.nonBlank?, legacy, noticeIf, trimmed.2]
  · rcases type with type | type <;> simp [target, type, trimmed.nonBlank?, noticeIf]

theorem mode_spec (c : Column) :
    c.mode.1 = "" ∨ c.mode.1 = positiveNumber ∧ c.valueType = .boolean := by
  unfold mode
  split
  · exact .inl rfl
  · split
    · exact .inl rfl
    · next boolean =>
      split
      · exact .inr ⟨rfl, not_not.mp boolean⟩
      · exact .inl rfl

theorem mode_of_kept
    (kept : c.booleanMode = "" ∨ c.booleanMode = positiveNumber ∧ c.valueType = .boolean) :
    c.mode = (c.booleanMode, []) := by
  rcases kept with noMode | ⟨positive, boolean⟩
  · simp [mode, noMode]
  · have trimmed : Trimmed positiveNumber := by decide
    simp [mode, positive, trimmed.nonBlank?, boolean]

theorem fittedRule_spec {targetAttr mode : String} {r : Rule}
    (kept : (c.fittedRule targetAttr mode).1 = some r) :
    targetAttr ≠ "" ∧ r.Fits c.valueType := by
  unfold fittedRule at kept
  split at kept
  · cases kept
  · split at kept
    · cases kept
    · next target => exact ⟨target, Rule.fits_of_check kept⟩

/-- A rule that fits is kept as it is, with a notice if there is a mode beside it. -/
theorem fittedRule_of_fits {targetAttr : String} (mode : String)
    (fits : ∀ r, c.rule = some r → targetAttr ≠ "" ∧ r.Fits c.valueType) :
    c.fittedRule targetAttr mode =
      (c.rule, noticeIf (mode ≠ "" && c.rule.isSome) .modeAndRule) := by
  cases found : c.rule with
  | none => simp [fittedRule, found, noticeIf]
  | some r =>
      obtain ⟨target, fits⟩ := fits r found
      simp [fittedRule, found, target, Rule.check_of_fits fits]

theorem showsModel_of_modelBinding {b : Binding} {notices : List ColumnNotice}
    (kept : c.modelBinding = .ok (b, notices)) : b.ShowsModel := by
  unfold modelBinding at kept
  split at kept
  · split at kept
    · cases kept
    · split at kept
      · cases kept
      · next source resolved =>
        cases kept
        exact ⟨⟨_, source, rfl, ModelSource.resolve_stored resolved, rfl⟩, rfl, rfl, rfl, rfl⟩
  · cases kept

theorem modelBinding_of_showsModel (showing : c.binding.ShowsModel) :
    c.modelBinding = .ok (c.binding, []) := by
  obtain ⟨⟨type, source, objectType, resolved, stored⟩, targetType, targetAttr, mode, rule⟩ :=
    showing
  simp only [binding] at objectType resolved stored targetType targetAttr mode rule
  obtain ⟨-, stores⟩ := ModelSource.stores_of_resolve resolved
  rw [stored] at stores
  have trimmed := (ModelSource.resolve_of_stores stores).1
  simp [modelBinding, binding, objectType, trimmed.nonBlank?, targetType, targetAttr, resolved,
    stored, mode, rule, noticeIf]

theorem takesInput_of_editableBinding {b : Binding} {notices : List ColumnNotice}
    (kept : c.editableBinding = .ok (b, notices)) : b.TakesInput c.valueType := by
  unfold editableBinding at kept
  split at kept
  · cases kept
  · split at kept
    · cases kept
    · next found =>
      cases kept
      exact ⟨rfl, rfl, targets_of_target found, mode_spec c, fun r => fittedRule_spec⟩

theorem editableBinding_of_takesInput (takes : c.binding.TakesInput c.valueType) :
    c.editableBinding = .ok (c.binding,
      noticeIf (c.targetType.isNone && c.targetAttr ≠ "") (.legacyTarget c.targetAttr) ++
        noticeIf (c.booleanMode ≠ "" && c.rule.isSome) .modeAndRule) := by
  obtain ⟨objectType, attr, targets, mode, rule⟩ := takes
  simp only [binding] at objectType attr targets mode rule
  simp [editableBinding, binding, objectType, attr, target_of_targets targets, mode_of_kept mode,
    fittedRule_of_fits c.booleanMode rule]

/-! ## Filter operators -/

theorem legalFilterOps_spec (c : Column) :
    (∀ s ∈ c.legalFilterOps.map FilterOp.name,
        ∃ op : FilterOp, s = op.name ∧ op.isLegalFor c.valueType = true) ∧
      (c.legalFilterOps.map FilterOp.name).Nodup := by
  refine ⟨fun s member => ?_, (nodup_distinct _).map FilterOp.name_injective⟩
  obtain ⟨op, kept, rfl⟩ := List.mem_map.mp member
  exact ⟨op, rfl, (List.mem_filter.mp ((distinct_sublist _).subset kept)).2⟩

theorem exists_ops_of_legal {names : List String} {type : ValueType}
    (legal : ∀ s ∈ names, ∃ op : FilterOp, s = op.name ∧ op.isLegalFor type = true) :
    ∃ ops : List FilterOp,
      names = ops.map FilterOp.name ∧ ∀ op ∈ ops, op.isLegalFor type = true := by
  induction names with
  | nil => exact ⟨[], rfl, by simp⟩
  | cons s names ih =>
      obtain ⟨op, rfl, first⟩ := legal s List.mem_cons_self
      obtain ⟨ops, rfl, others⟩ := ih fun s member => legal s (List.mem_cons_of_mem _ member)
      exact ⟨op :: ops, rfl, List.forall_mem_cons.mpr ⟨first, others⟩⟩

/-- Names of legal operators, each once, are kept as they are and without a notice. -/
theorem legalFilterOps_of_legal
    (legal : ∀ s ∈ c.filterOps, ∃ op : FilterOp, s = op.name ∧ op.isLegalFor c.valueType = true)
    (nodup : c.filterOps.Nodup) :
    c.legalFilterOps.map FilterOp.name = c.filterOps ∧ c.filterOpNotices = [] := by
  obtain ⟨ops, names, allLegal⟩ := exists_ops_of_legal legal
  have read : c.filterOps.filterMap FilterOp.parse = ops := by
    simp only [names, List.filterMap_map, Function.comp_def, FilterOp.parse_name,
      List.filterMap_some]
  rw [names] at nodup
  constructor
  · rw [legalFilterOps, read, List.filter_eq_self.mpr allLegal,
      distinct_of_nodup nodup.of_map, names]
  · rw [filterOpNotices, List.filterMap_eq_nil_iff]
    intro s member
    obtain ⟨op, rfl, allowed⟩ := legal s member
    simp only [FilterOp.parse_name, if_pos allowed]

/-! ## One column -/

/-- Whatever column is kept under a trimmed key is well formed, and keeps its place. -/
theorem wellFormed_of_check {key : String} {kept : Column} {notices : List ColumnNotice}
    (trimmed : Trimmed key) (checked : c.check key = .ok (kept, notices)) :
    kept.WellFormed ∧ kept.key = key ∧ kept.order = c.order := by
  unfold check at checked
  split at checked
  · cases checked
  · next recognized =>
    split at checked
    · cases checked
    · next given own bound =>
      cases checked
      obtain ⟨legal, nodup⟩ := legalFilterOps_spec c
      refine ⟨⟨trimmed, ?_, ?_, ?_, legal, nodup, recognized⟩, rfl, rfl⟩
      · cases found : nonBlank? c.label with
        | none => exact trimmed
        | some label => exact trimmed_of_nonBlank? found
      · intro model
        simp only [show c.editable = false from model, Bool.false_eq_true, if_false] at bound
        exact showsModel_of_modelBinding bound
      · intro editable
        simp only [show c.editable = true from editable, if_true] at bound
        have takes : given.TakesInput c.valueType := takesInput_of_editableBinding bound
        exact takes

/-- A well-formed column is kept as it is, with its standing notices. -/
theorem check_of_wellFormed (wellFormed : c.WellFormed) :
    c.check c.key = .ok (c, c.standingNotices) := by
  obtain ⟨legal, silent⟩ :=
    legalFilterOps_of_legal wellFormed.filterOps_legal wellFormed.filterOps_nodup
  have bound : (if c.editable then c.editableBinding else c.modelBinding) =
      .ok (c.binding, c.standingNotices) := by
    cases editable : c.editable with
    | true => simpa [standingNotices, editable] using
        editableBinding_of_takesInput (wellFormed.editable editable)
    | false =>
        have showing := wellFormed.model editable
        have noMode : c.booleanMode = "" := showing.booleanMode
        simpa [standingNotices, editable, noMode, noticeIf] using modelBinding_of_showsModel showing
  simp only [check, wellFormed.unrecognized, bound, wellFormed.label.nonBlank?, legal, silent]
  simp [binding, ← wellFormed.unrecognized]

/-- A well-formed column is one that is kept as it is, so it can be decided whether a column is. -/
theorem wellFormed_iff_kept :
    c.WellFormed ↔ Trimmed c.key ∧ (c.check c.key).toOption.map (·.1) = some c := by
  constructor
  · intro wellFormed
    rw [check_of_wellFormed wellFormed]
    exact ⟨wellFormed.key, rfl⟩
  · rintro ⟨trimmed, kept⟩
    cases checked : c.check c.key with
    | error notice => simp [checked, Except.toOption] at kept
    | ok result =>
        obtain ⟨d, notices⟩ := result
        obtain rfl : d = c := by simpa [checked, Except.toOption] using kept
        exact (wellFormed_of_check trimmed checked).1

instance (c : Column) : Decidable c.WellFormed :=
  decidable_of_iff _ wellFormed_iff_kept.symm

end Column

end PhaseTable
