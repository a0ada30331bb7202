/-
# PhaseTable.Proofs.Config.Reports -- nothing is taken away without a notice

Checking comes to a verdict on each column, in the order of input (`verdicts`): what is
kept of the column, and the notices on it.  A column that is dropped has one notice.  Of a
column that is kept, `Column.reports` lists what there is to report when what was written is
compared with what is left: an old target, a mode or a branch that is gone, and so on.

A verdict accounts for its column if its notices are about the items of that list, one for
each (`Column.Accounts`).  Each part of checking has its lemma on what its notices are about
(`subjects_mode`, `subjects_fittedRule`, ...), and all verdicts account for their columns
(`Config.check_reports`).
-/
import PhaseTable.Proofs.Config.TakenKeys

namespace PhaseTable

set_option autoImplicit false

open Text

/-! ## What notices are about -/

/-- What a notice on a column is about: the whole of it, or something that is lost or questioned in
a column that is kept. -/
inductive Subject where
  | column
  | oldTarget
  | mode
  | rule
  | modeBesideRule
  | branch (branch : Branch)
  | allBranches
  | filterOp (written : String)
deriving DecidableEq

def RuleNotice.subject : RuleNotice → Subject
  | .unsupportedOp branch _ | .onlyForBoolean branch => .branch branch
  | .notForBoolean => .branch .onValue
  | .noClauseLeft => .allBranches

def ColumnNotice.subject : ColumnNotice → Subject
  | .unrecognized _ _ | .sourceMissing | .targetOnModelColumn | .badSource _
  | .sourceOnEditableColumn | .unknownTarget _ | .halfTarget | .badTargetType => .column
  | .legacyTarget _ => .oldTarget
  | .modeOnModelColumn | .modeForOtherType _ _ | .unknownMode _ => .mode
  | .ruleOnModelColumn | .ruleWithoutTarget => .rule
  | .modeAndRule => .modeBesideRule
  | .rule notice => notice.subject
  | .illegalFilterOp written _ => .filterOp written

/-- The notice says that the column is dropped. -/
def Column.DroppedBy (c : Column) : ConfigNotice → Prop
  | .emptyKey => nonBlank? c.key = none
  | .duplicateKey key => nonBlank? c.key = some key
  | .column key notice => nonBlank? c.key = some key ∧ notice.subject = .column
  | _ => False

/-! ## What there is to report -/

/-- The branches of a rule that are gone from what is left of the rule. -/
def Rule.lostBranches (r : Rule) (left : Option Rule) : List Branch :=
  Branch.all.filter fun branch =>
    (r.branch branch).isSome && (left.bind (·.branch branch)).isNone

namespace Column

/-- What there is to report on the rule of a column, by the mode and the rule that are left. -/
def ruleReports (c : Column) (mode : String) (left : Option Rule) : List Subject :=
  match c.rule with
  | none => []
  | some rule =>
      if c.editable && !Text.blank c.targetAttr then
        noticeIf (mode ≠ "") .modeBesideRule ++ (rule.lostBranches left).map .branch ++
          noticeIf left.isNone .allBranches
      else [.rule]

/-- What there is to report on what a column shows or selects, by the mode and the rule that are
left. -/
def bindingReports (c : Column) (mode : String) (left : Option Rule) : List Subject :=
  noticeIf (c.editable && c.targetType.isNone && !Text.blank c.targetAttr) .oldTarget ++
    noticeIf (!Text.blank c.booleanMode && mode = "") .mode ++ c.ruleReports mode left

def namesIllegalOp (c : Column) (written : String) : Bool :=
  (FilterOp.parse written).any (!·.isLegalFor c.valueType)

/-- What there is to report on a column of which something is kept. -/
def reports (c kept : Column) : List Subject :=
  c.bindingReports kept.booleanMode kept.rule ++
    (c.filterOps.filter c.namesIllegalOp).map fun written => .filterOp (trim written)

end Column

/-! ## Lists of notices -/

theorem map_noticeIf {α β : Type} (f : α → β) (condition : Bool) (notice : α) :
    (noticeIf condition notice).map f = noticeIf condition (f notice) := by
  cases condition <;> rfl

/-- Notices on the members that fail are about the members that fail. -/
theorem map_filterMap_eq {α ν σ : Type} {tell : α → Option ν} {about : ν → σ} {fails : α → Bool}
    {subject : α → σ}
    (each : ∀ x, (tell x).map about = if fails x then some (subject x) else none) (xs : List α) :
    (xs.filterMap tell).map about = (xs.filter fails).map subject := by
  induction xs with
  | nil => rfl
  | cons x xs ih =>
      have first := each x
      cases failed : fails x with
      | true =>
          rw [failed, if_pos rfl] at first
          obtain ⟨notice, told, names⟩ := Option.map_eq_some_iff.mp first
          rw [List.filterMap_cons_some told, List.filter_cons_of_pos failed, List.map_cons,
            List.map_cons, names, ih]
      | false =>
          rw [failed, if_neg Bool.false_ne_true] at first
          rw [List.filterMap_cons_none (Option.map_eq_none_iff.mp first),
            List.filter_cons_of_neg (Bool.eq_false_iff.mp failed), ih]

/-! ## Rules -/

theorem Clause.subject_of_check {c : Clause} {branch : Branch} {type : ValueType}
    {notice : RuleNotice} (refused : c.check branch type = .error notice) :
    notice.subject = .branch branch := by
  unfold check at refused
  split at refused
  · cases refused
    rfl
  · split at refused
    · cases refused
    · split at refused
      · cases refused
        rfl
      · cases refused
        rfl

namespace Rule

theorem subject_of_refusal? (r : Rule) (type : ValueType) (branch : Branch) :
    (r.refusal? type branch).map RuleNotice.subject =
      if (r.branch branch).isSome && (r.keep type branch).isNone then some (.branch branch)
      else none := by
  rw [refusal?, keep]
  cases r.branch branch with
  | none => rfl
  | some c =>
      rw [Option.bind_some, Option.bind_some]
      cases checked : c.check branch type with
      | ok kept => rfl
      | error notice => exact congrArg some (Clause.subject_of_check checked)

/-- What is left of a branch. -/
theorem bind_branch_check (r : Rule) (type : ValueType) (branch : Branch) :
    (r.check type).1.bind (·.branch branch) = r.keep type branch := by
  rw [← branch_kept]
  simp only [check]
  split
  · next empty =>
    cases found : (r.kept type).branch branch with
    | none => rfl
    | some clause =>
        have nonempty := isEmpty_eq_false_iff.mpr ⟨branch, clause, found⟩
        rw [empty] at nonempty
        cases nonempty
  · rfl

/-- The notices on a rule are about the branches that it loses, and about all if none is left. -/
theorem subjects_check (r : Rule) (type : ValueType) :
    (r.check type).2.map RuleNotice.subject =
      (r.lostBranches (r.check type).1).map .branch ++
        noticeIf (r.check type).1.isNone .allBranches := by
  have refusals := map_filterMap_eq (r.subject_of_refusal? type) Branch.all
  simp only [lostBranches, bind_branch_check]
  rw [← refusals]
  simp only [check]
  split
  · exact List.map_append
  · exact (List.append_nil _).symm

end Rule

/-! ## One column -/

namespace Column

variable {c : Column}

/-! ### Reasons to drop the column -/

theorem subject_of_target_error {reason : ColumnNotice} (failed : c.target = .error reason) :
    reason.subject = .column := by
  unfold target at failed
  split at failed
  · cases failed
  · split at failed
    · cases failed
    · cases failed
      rfl
  · cases failed
    rfl
  · split at failed
    · cases failed
    · cases failed
      rfl

theorem subject_of_editableBinding_error {reason : ColumnNotice}
    (failed : c.editableBinding = .error reason) : reason.subject = .column := by
  unfold editableBinding at failed
  split at failed
  · cases failed
    rfl
  · split at failed
    · next refused =>
      cases failed
      exact subject_of_target_error refused
    · cases failed

theorem subject_of_modelBinding_error {reason : ColumnNotice}
    (failed : c.modelBinding = .error reason) : reason.subject = .column := by
  unfold modelBinding at failed
  split at failed
  · split at failed
    · cases failed
      rfl
    · split at failed
      · cases failed
        rfl
      · cases failed
  · cases failed
    rfl

/-- A reason to drop a column is about the column. -/
theorem subject_of_check_error {key : String} {reason : ColumnNotice}
    (dropped : c.check key = .error reason) : reason.subject = .column := by
  unfold check at dropped
  split at dropped
  · cases dropped
    rfl
  · split at dropped
    · next failed =>
      cases dropped
      split at failed
      · exact subject_of_editableBinding_error failed
      · exact subject_of_modelBinding_error failed
    · cases dropped

/-! ### What is taken from the column -/

/-- An old target is questioned, and a target is kept if one was written. -/
theorem subjects_target {type : Option ObjectType} {attr : String} {told : List ColumnNotice}
    (kept : c.target = .ok ((type, attr), told)) :
    told.map ColumnNotice.subject =
        noticeIf (c.targetType.isNone && !Text.blank c.targetAttr) .oldTarget ∧
      decide (attr = "") = Text.blank c.targetAttr := by
  cases unset : Text.blank c.targetAttr with
  | true =>
      rw [target, nonBlank?_eq_none_iff.mpr unset] at kept
      cases typed : c.targetType with
      | none =>
          rw [typed] at kept
          cases kept
          exact ⟨rfl, rfl⟩
      | some type =>
          rw [typed] at kept
          cases kept
  | false =>
      have found := nonBlank?_of_not_blank unset
      have named : trim c.targetAttr ≠ "" := (nonBlank?_eq_some_iff.mp found).2
      rw [target, found] at kept
      cases typed : c.targetType with
      | none =>
          rw [typed] at kept
          dsimp only at kept
          split at kept
          · cases kept
            exact ⟨rfl, decide_eq_false named⟩
          · cases kept
      | some type =>
          rw [typed] at kept
          dsimp only at kept
          split at kept
          · cases kept
            exact ⟨rfl, decide_eq_false named⟩
          · cases kept

/-- A mode that was written is kept or told of. -/
theorem subjects_mode (c : Column) :
    c.mode.2.map ColumnNotice.subject =
      noticeIf (!Text.blank c.booleanMode && c.mode.1 = "") .mode := by
  cases unset : Text.blank c.booleanMode with
  | true =>
      rw [mode, nonBlank?_eq_none_iff.mpr unset]
      rfl
  | false =>
      rw [mode, nonBlank?_of_not_blank unset]
      dsimp only
      split
      · rfl
      · split
        · rfl
        · rfl

theorem subjects_fittedRule (editable : c.editable = true) {targetAttr : String}
    (targeted : decide (targetAttr = "") = Text.blank c.targetAttr) (mode : String) :
    (c.fittedRule targetAttr mode).2.map ColumnNotice.subject =
      c.ruleReports mode (c.fittedRule targetAttr mode).1 := by
  cases ruled : c.rule with
  | none => simp only [fittedRule, ruleReports, ruled, List.map_nil]
  | some r =>
      have subjects : ((r.check c.valueType).2.map ColumnNotice.rule).map ColumnNotice.subject =
          _ := List.map_map.trans (r.subjects_check c.valueType)
      simp only [fittedRule, ruleReports, ruled, editable, ← targeted, Bool.true_and]
      by_cases untargeted : targetAttr = ""
      · simp only [untargeted, if_true, decide_true, Bool.not_true, Bool.false_eq_true, if_false,
          List.map_cons, List.map_nil, ColumnNotice.subject]
      · simp only [untargeted, if_false, decide_false, Bool.not_false, if_true, List.map_append,
          map_noticeIf, subjects, ColumnNotice.subject, List.append_assoc]

theorem subjects_modelBinding (model : c.editable = false) {b : Binding}
    {told : List ColumnNotice} (kept : c.modelBinding = .ok (b, told)) :
    told.map ColumnNotice.subject = c.bindingReports b.booleanMode b.rule := by
  have rule : (noticeIf c.rule.isSome ColumnNotice.ruleOnModelColumn).map ColumnNotice.subject =
      c.ruleReports "" none := by
    cases ruled : c.rule <;> simp [noticeIf, ruleReports, ruled, model, ColumnNotice.subject]
  unfold modelBinding at kept
  split at kept
  · split at kept
    · cases kept
    · split at kept
      · cases kept
      · cases kept
        rw [List.map_append, rule, map_noticeIf, bindingReports, model]
        simp [noticeIf, ColumnNotice.subject]
  · cases kept

theorem subjects_editableBinding (editable : c.editable = true) {b : Binding}
    {told : List ColumnNotice} (kept : c.editableBinding = .ok (b, told)) :
    told.map ColumnNotice.subject = c.bindingReports b.booleanMode b.rule := by
  unfold editableBinding at kept
  split at kept
  · cases kept
  · split at kept
    · cases kept
    · next type attr targetNotices found =>
      obtain ⟨target, targeted⟩ := subjects_target found
      have mode := subjects_mode c
      have rule := subjects_fittedRule editable targeted c.mode.1
      rcases c.mode with ⟨left, modeNotices⟩
      dsimp only at kept mode rule
      rcases c.fittedRule attr left with ⟨leftRule, ruleNotices⟩
      cases kept
      rw [List.map_append, List.map_append, target, mode, rule, bindingReports, editable,
        Bool.true_and]

theorem subjects_filterOpNotices (c : Column) :
    c.filterOpNotices.map ColumnNotice.subject =
      (c.filterOps.filter c.namesIllegalOp).map fun written => .filterOp (trim written) := by
  refine map_filterMap_eq (fun written => ?_) c.filterOps
  rw [namesIllegalOp]
  cases FilterOp.parse written with
  | none => rfl
  | some op =>
      by_cases legal : op.isLegalFor c.valueType = true
      · simp [legal]
      · simp [legal, ColumnNotice.subject]

/-- The notices on a column that is kept are about what there is to report. -/
theorem subjects_check {key : String} {kept : Column} {told : List ColumnNotice}
    (checked : c.check key = .ok (kept, told)) :
    told.map ColumnNotice.subject = c.reports kept ∧ kept.key = key := by
  unfold check at checked
  split at checked
  · cases checked
  · split at checked
    · cases checked
    · next b notices bound =>
      cases checked
      have binding : notices.map ColumnNotice.subject = c.bindingReports b.booleanMode b.rule := by
        cases editable : c.editable with
        | true =>
            rw [editable, if_pos rfl] at bound
            exact subjects_editableBinding editable bound
        | false =>
            rw [editable, if_neg Bool.false_ne_true] at bound
            exact subjects_modelBinding editable bound
      rw [List.map_append, binding, subjects_filterOpNotices]
      exact ⟨rfl, rfl⟩

end Column

/-! ## All columns -/

/-- What checking comes to on a column: what is kept of it, and the notices on it. -/
structure Verdict where
  kept : Option Column
  notices : List ConfigNotice
deriving DecidableEq

/-- The verdicts on columns, one for each, after columns whose keys are `seen`. -/
def verdicts (seen : List String) : List Column → List Verdict
  | [] => []
  | c :: rest =>
      let (kept, notices, seen) := checkColumn seen c
      ⟨kept, notices⟩ :: verdicts seen rest

/-- A verdict accounts for a column: one notice says that it is dropped, or it is kept under its
key and there is one notice under that key on each thing that there is to report. -/
inductive Column.Accounts (c : Column) : Verdict → Prop
  | dropped {notice : ConfigNotice} (dropped : c.DroppedBy notice) : c.Accounts ⟨none, [notice]⟩
  | kept {kept : Column} {told : List ColumnNotice} (named : nonBlank? c.key = some kept.key)
      (subjects : told.map ColumnNotice.subject = c.reports kept) :
      c.Accounts ⟨some kept, told.map (.column kept.key)⟩

theorem checkColumns_eq (seen : List String) (columns : List Column) :
    checkColumns seen columns =
      ((verdicts seen columns).filterMap Verdict.kept,
        (verdicts seen columns).flatMap Verdict.notices) := by
  induction columns generalizing seen with
  | nil => rfl
  | cons c rest ih =>
      rcases step : checkColumn seen c with ⟨kept, notices, later⟩
      simp only [checkColumns, verdicts, step, ih, List.flatMap_cons]
      cases kept <;> rfl

/-- The verdict on one column accounts for it, whatever columns come before. -/
theorem accounts_checkColumn (seen : List String) (c : Column) :
    c.Accounts ⟨(checkColumn seen c).1, (checkColumn seen c).2.1⟩ := by
  unfold checkColumn
  split
  · next unnamed => exact .dropped unnamed
  · next key found =>
    split
    · exact .dropped found
    · split
      · next reason refused => exact .dropped ⟨found, Column.subject_of_check_error refused⟩
      · next kept told checked =>
        obtain ⟨subjects, rfl⟩ := Column.subjects_check checked
        exact .kept found subjects

theorem accounts_verdicts (seen : List String) (columns : List Column) :
    List.Forall₂ Column.Accounts columns (verdicts seen columns) := by
  induction columns generalizing seen with
  | nil => exact .nil
  | cons c rest ih =>
      have first := accounts_checkColumn seen c
      rcases step : checkColumn seen c with ⟨kept, notices, later⟩
      rw [step] at first
      simp only [verdicts, step]
      exact .cons first (ih later)

theorem isEmpty_filterMap_kept (all : List Verdict) :
    (all.filterMap Verdict.kept).isEmpty = all.all (·.kept.isNone) := by
  rw [Bool.eq_iff_iff, List.isEmpty_iff, List.filterMap_eq_nil_iff, List.all_eq_true]
  simp only [Option.isNone_iff_eq_none]

/-! ## The configuration -/

namespace Config

/-- **Nothing is taken away without a notice, and no notice is given twice.**  The notices on a
configuration are those of the verdicts on its columns, in the order of input, and a last one if no
column is kept.  Each verdict accounts for its column: there is one notice on a column that is
dropped, and on a column that is kept there is one for each thing that was taken from it or is
questioned in it. -/
theorem check_reports {config : Config} (version : config.version = supportedVersion) :
    (check (some config)).notices =
        (verdicts [] config.columns).flatMap Verdict.notices ++
          noticeIf ((verdicts [] config.columns).all (·.kept.isNone)) .noColumnLeft ∧
      (check (some config)).config =
        config.ofKept ((verdicts [] config.columns).filterMap Verdict.kept) ∧
      List.Forall₂ Column.Accounts config.columns (verdicts [] config.columns) := by
  refine ⟨?_, ?_, accounts_verdicts [] config.columns⟩
  · rw [notices_check_of_version version, checkColumns_eq, isEmpty_filterMap_kept]
  · rw [config_check_of_version version, checkColumns_eq]

/-- A rule with a branch that is good for Boolean values, one with an operator that is none, and one
that Boolean values never take. -/
def patchwork : Rule :=
  ⟨some ⟨"", "gt", .int 0⟩, some ⟨"", "about", .null⟩, some ⟨"", "eq", .null⟩⟩

/-- A table in which something is wrong with each column. -/
def neglected : Config where
  version := 2
  phaseKey := "number"
  actions := ["select"]
  columns := [
    { Column.blank with
      key := " profile ", objectType := some .part, attr := "profile", booleanMode := "maybe"
      rule := some patchwork, filterOps := ["range", "EQ", "about", " gt "] },
    { Column.blank with key := "PROFILE", objectType := some .part, attr := "name" },
    { Column.blank with
      key := "flag", valueType := .boolean, editable := true, targetType := some .part
      targetAttr := "PT_FLAG", booleanMode := "positivenumber", rule := some patchwork },
    { Column.blank with
      key := "stock", valueType := .boolean, editable := true, targetAttr := "exclude_existing"
      booleanMode := "negative", rule := some { patchwork with onTrue := none } },
    { Column.blank with key := "note", editable := true, rule := some patchwork },
    { Column.blank with label := "Nameless" }]

theorem check_reports_neglected :
    neglected.version = supportedVersion ∧
    (check (some neglected)).notices = [
      .column "profile" .modeOnModelColumn, .column "profile" .ruleOnModelColumn,
      .column "profile" (.illegalFilterOp "range" .string),
      .column "profile" (.illegalFilterOp "gt" .string),
      .duplicateKey "PROFILE",
      .column "flag" .modeAndRule, .column "flag" (.rule (.unsupportedOp .onFalse "about")),
      .column "flag" (.rule .notForBoolean),
      .column "stock" (.legacyTarget "exclude_existing"), .column "stock" (.unknownMode "negative"),
      .column "stock" (.rule (.unsupportedOp .onFalse "about")),
      .column "stock" (.rule .notForBoolean), .column "stock" (.rule .noClauseLeft),
      .column "note" .ruleWithoutTarget,
      .emptyKey] ∧
    List.Forall₂ Column.Accounts neglected.columns (verdicts [] neglected.columns) := by
  have version : neglected.version = supportedVersion := rfl
  obtain ⟨notices, -, accounted⟩ := check_reports version
  refine ⟨version, ?_, accounted⟩
  rw [notices]
  decide

end Config

end PhaseTable
