/-
# PhaseTable.Proofs.Config.FixedPoint -- checked configurations are the fixed points

Whatever is checked, the result is well formed (`Config.wellFormed_check`): the columns
that are kept from what was written are, and so is the built-in configuration.  A
well-formed configuration is its own result (`Config.check_of_wellFormed`), with the
standing notices of its columns and no others, and none of its columns is dropped.
-/
import PhaseTable.Proofs.Config.WellFormed
import PhaseTable.Proofs.Text.Pieces

namespace PhaseTable

set_option autoImplicit false

open Text

/-! ## The order of columns -/

namespace Column

instance (c d : Column) : Decidable (c.Before d) :=
  inferInstanceAs (Decidable (_ ∨ _))

theorem precedes_iff {c d : Column} :
    precedes c d = true ↔ c.order < d.order ∨ (c.order = d.order ∧ c.lowerKey ≤ d.lowerKey) := by
  simp [precedes, lowerKey]

theorem Before.precedes {c d : Column} (before : c.Before d) : precedes c d = true := by
  rw [precedes_iff]
  refine before.imp_right fun ⟨same, smaller⟩ => ⟨same, ?_⟩
  exact String.not_lt.mp (String.lt_asymm smaller)

theorem before_of_precedes {c d : Column} (ordered : precedes c d = true)
    (distinct_ : c.lowerKey ≠ d.lowerKey) : c.Before d := by
  rw [precedes_iff] at ordered
  refine ordered.imp_right fun ⟨same, notGreater⟩ => ⟨same, ?_⟩
  exact String.not_le.mp fun notSmaller => distinct_ (String.le_antisymm notGreater notSmaller)

theorem precedes_trans (c d e : Column) (first : precedes c d = true)
    (second : precedes d e = true) : precedes c e = true := by
  rw [precedes_iff] at *
  rcases first with lower | ⟨same, le⟩
  · rcases second with lower' | ⟨same', -⟩
    · exact .inl (Int32.lt_trans lower lower')
    · exact .inl (same' ▸ lower)
  · rcases second with lower' | ⟨same', le'⟩
    · exact .inl (same ▸ lower')
    · exact .inr ⟨same.trans same', String.le_trans le le'⟩

theorem precedes_total (c d : Column) : (precedes c d || precedes d c) = true := by
  rw [Bool.or_eq_true, precedes_iff, precedes_iff]
  by_cases lower : c.order < d.order
  · exact .inl (.inl lower)
  · by_cases same : c.order = d.order
    · rcases String.le_total c.lowerKey d.lowerKey with le | le
      · exact .inl (.inr ⟨same, le⟩)
      · exact .inr (.inr ⟨same.symm, le⟩)
    · exact .inr (.inl (KeyOrder.connected lower same))

/-- Columns with distinct keys are sorted without ties. -/
theorem ascending_mergeSort {columns : List Column} (distinct_ : (columns.map lowerKey).Nodup) :
    (columns.mergeSort precedes).Pairwise Before := by
  have sorted := List.pairwise_mergeSort precedes_trans precedes_total columns
  have keys : ((columns.mergeSort precedes).map lowerKey).Nodup :=
    ((List.mergeSort_perm columns precedes).map lowerKey).nodup_iff.mpr distinct_
  exact sorted.imp₂ (fun _ _ => before_of_precedes) (List.pairwise_map.mp keys)

/-- Columns in strict order stay where they are. -/
theorem mergeSort_of_ascending {columns : List Column} (ascending : columns.Pairwise Before) :
    columns.mergeSort precedes = columns :=
  List.mergeSort_of_pairwise (ascending.imp Before.precedes)

end Column

/-! ## All columns -/

/-- A column that is kept is well formed and takes a key that was free. -/
theorem checkColumn_kept {seen later : List String} {c kept : Column}
    {notices : List ConfigNotice} (step : checkColumn seen c = (some kept, notices, later)) :
    kept.WellFormed ∧ kept.lowerKey ∉ seen ∧ later = kept.lowerKey :: seen := by
  unfold checkColumn at step
  split at step
  · cases step
  · next key found =>
    split at step
    · cases step
    · next free =>
      split at step
      · cases step
      · next column own checked =>
        cases step
        obtain ⟨wellFormed, same, -⟩ :=
          Column.wellFormed_of_check (trimmed_of_nonBlank? found) checked
        rw [Column.lowerKey, same]
        exact ⟨wellFormed, free, rfl⟩

theorem checkColumn_seen {seen later : List String} {c : Column} {kept : Option Column}
    {notices : List ConfigNotice} (step : checkColumn seen c = (kept, notices, later)) :
    seen ⊆ later := by
  unfold checkColumn at step
  split at step
  · cases step
    exact List.Subset.refl _
  · split at step
    · cases step
      exact List.Subset.refl _
    · split at step <;> cases step <;> exact List.subset_cons_self _ _

/-- The columns that are kept are well formed, and their keys are distinct and were free. -/
theorem checkColumns_spec (seen : List String) (columns : List Column) :
    (∀ c ∈ (checkColumns seen columns).1, c.WellFormed ∧ c.lowerKey ∉ seen) ∧
      ((checkColumns seen columns).1.map Column.lowerKey).Nodup := by
  induction columns generalizing seen with
  | nil => simp [checkColumns]
  | cons c columns ih =>
      rcases step : checkColumn seen c with ⟨kept, notices, later⟩
      obtain ⟨wellFormed, nodup⟩ := ih later
      have grows := checkColumn_seen step
      simp only [checkColumns, step]
      cases kept with
      | none =>
          refine ⟨fun d member => ?_, nodup⟩
          exact (wellFormed d member).imp_right (mt (@grows _))
      | some kept =>
          obtain ⟨good, free, rfl⟩ := checkColumn_kept step
          refine ⟨fun d member => ?_, List.nodup_cons.mpr ⟨fun taken => ?_, nodup⟩⟩
          · rcases List.mem_cons.mp member with rfl | member
            · exact ⟨good, free⟩
            · exact (wellFormed d member).imp_right (mt (@grows _))
          · obtain ⟨d, member, same⟩ := List.mem_map.mp taken
            exact (wellFormed d member).2 (same ▸ List.mem_cons_self)

theorem checkColumn_of_wellFormed {seen : List String} {c : Column} (wellFormed : c.WellFormed)
    (free : c.lowerKey ∉ seen) :
    checkColumn seen c =
      (some c, c.standingNotices.map (.column c.key), c.lowerKey :: seen) := by
  have untaken : lowerCase c.key ∉ seen := free
  simp only [checkColumn, wellFormed.key.nonBlank?, if_neg untaken,
    Column.check_of_wellFormed wellFormed, Column.lowerKey]

/-- Well-formed columns with distinct free keys are all kept as they are. -/
theorem checkColumns_of_wellFormed {seen : List String} {columns : List Column}
    (wellFormed : ∀ c ∈ columns, c.WellFormed) (nodup : (columns.map Column.lowerKey).Nodup)
    (free : ∀ c ∈ columns, c.lowerKey ∉ seen) :
    checkColumns seen columns =
      (columns, columns.flatMap fun c => c.standingNotices.map (.column c.key)) := by
  induction columns generalizing seen with
  | nil => rfl
  | cons c columns ih =>
      rw [List.map_cons, List.nodup_cons] at nodup
      have step := checkColumn_of_wellFormed (wellFormed c List.mem_cons_self)
        (free c List.mem_cons_self)
      have later : ∀ d ∈ columns, d.lowerKey ∉ c.lowerKey :: seen := by
        intro d member taken
        rcases List.mem_cons.mp taken with same | taken
        · exact nodup.1 (same ▸ List.mem_map_of_mem member)
        · exact free d (List.mem_cons_of_mem c member) taken
      have rest := ih (fun d member => wellFormed d (List.mem_cons_of_mem c member)) nodup.2 later
      simp only [checkColumns, step, rest]
      rfl

/-! ## Actions -/

theorem checkActions_spec (actions : List String) :
    checkActions actions ≠ [] ∧ (∀ action ∈ checkActions actions, Trimmed action) ∧
      ((checkActions actions).map lowerCase).Nodup := by
  unfold checkActions
  split
  · decide
  · next nonempty =>
    refine ⟨nonempty, fun action member => ?_, nodup_distinctBy _⟩
    obtain ⟨_, -, found⟩ := List.mem_filterMap.mp ((distinctBy_sublist _).subset member)
    exact trimmed_of_nonBlank? found

theorem checkActions_of_distinct {actions : List String} (nonempty : actions ≠ [])
    (trimmed : ∀ action ∈ actions, Trimmed action) (nodup : (actions.map lowerCase).Nodup) :
    checkActions actions = actions := by
  unfold checkActions
  rw [filterMap_nonBlank?_of_trimmed trimmed, distinctBy_of_nodup nodup]
  cases actions with
  | nil => exact absurd rfl nonempty
  | cons => rfl

/-! ## The configuration -/

namespace Config

instance (config : Config) : Decidable config.WellFormed :=
  decidable_of_iff
    (config.version = 2 ∧ Trimmed config.phaseKey ∧ config.actions ≠ [] ∧
      (∀ action ∈ config.actions, Trimmed action) ∧ (config.actions.map lowerCase).Nodup ∧
      config.columns ≠ [] ∧ (∀ c ∈ config.columns, c.WellFormed) ∧
      (config.columns.map Column.lowerKey).Nodup ∧ config.columns.Pairwise Column.Before)
    ⟨fun ⟨version, phaseKey, nonempty, trimmed, distinct_, some_, columns, keys, ascending⟩ =>
      ⟨version, phaseKey, nonempty, trimmed, distinct_, some_, columns, keys, ascending⟩,
    fun ⟨version, phaseKey, nonempty, trimmed, distinct_, some_, columns, keys, ascending⟩ =>
      ⟨version, phaseKey, nonempty, trimmed, distinct_, some_, columns, keys, ascending⟩⟩

/-- The built-in configuration is written as a checked one. -/
theorem wellFormed_default : default.WellFormed := by
  decide

/-- So is what is written down for columns that are kept. -/
theorem wellFormed_written (config : Config) {columns : List Column} (nonempty : columns ≠ [])
    (wellFormed : ∀ c ∈ columns, c.WellFormed) (nodup : (columns.map Column.lowerKey).Nodup) :
    WellFormed
      { version := supportedVersion
        phaseKey := (nonBlank? config.phaseKey).getD "number"
        actions := checkActions config.actions
        columns := columns.mergeSort Column.precedes } := by
  obtain ⟨actions, trimmed, distinct_⟩ := checkActions_spec config.actions
  have sorted := List.mergeSort_perm columns Column.precedes
  refine ⟨rfl, ?_, actions, trimmed, distinct_, ?_, ?_, ?_, Column.ascending_mergeSort nodup⟩
  · cases found : nonBlank? config.phaseKey with
    | none => exact (by decide : Trimmed "number")
    | some key => exact trimmed_of_nonBlank? found
  · exact fun empty => nonempty (List.perm_nil.mp (empty ▸ sorted.symm))
  · exact fun c member => wellFormed c (sorted.mem_iff.mp member)
  · exact (sorted.map Column.lowerKey).nodup_iff.mpr nodup

/-- Checking returns well-formed configurations. -/
theorem wellFormed_check (raw : Option Config) : (check raw).config.WellFormed := by
  unfold check
  split
  · exact wellFormed_default
  · next config =>
    split
    · exact wellFormed_default
    · obtain ⟨wellFormed, nodup⟩ := checkColumns_spec [] config.columns
      split
      · exact wellFormed_default
      · next columns notices nonempty kept =>
        rw [kept] at wellFormed nodup
        exact wellFormed_written config nonempty
          (fun c member => (wellFormed c member).1) nodup

/-- A well-formed configuration is kept as it is, with its standing notices. -/
theorem check_of_wellFormed {config : Config} (wellFormed : config.WellFormed) :
    check (some config) = ⟨config, config.standingNotices, .written 0⟩ := by
  have kept := checkColumns_of_wellFormed wellFormed.columns wellFormed.keys_distinct
    fun _ _ => List.not_mem_nil
  have actions := checkActions_of_distinct wellFormed.actions_ne_nil wellFormed.actions_trimmed
    wellFormed.actions_distinct
  have sorted := Column.mergeSort_of_ascending wellFormed.ascending
  have version : supportedVersion = config.version := wellFormed.version.symm
  obtain ⟨c, columns, some_⟩ := List.exists_cons_of_ne_nil wellFormed.columns_ne_nil
  rw [some_] at kept sorted
  simp only [check, version, ne_eq, not_true_eq_false, if_false, some_, kept, sorted, actions,
    wellFormed.phaseKey.nonBlank?, Option.getD_some, Nat.sub_self]
  rw [standingNotices, ← some_]

/-- **Checked configurations are exactly the fixed points of checking.**  A well-formed one is
returned as it is, with the standing notices of its columns and with none of them dropped; nothing
else is returned as it is; and the result of checking is a fixed point whatever was checked. -/
theorem check_fixes_wellFormed :
    (∀ config : Config, config.WellFormed →
        check (some config) = ⟨config, config.standingNotices, .written 0⟩) ∧
      (∀ config : Config, (check (some config)).config = config → config.WellFormed) ∧
      ∀ raw : Option Config, check (some (check raw).config) =
        ⟨(check raw).config, (check raw).config.standingNotices, .written 0⟩ := by
  refine ⟨fun config => check_of_wellFormed, fun config fixed => ?_, fun raw => ?_⟩
  · rw [← fixed]
    exact wellFormed_check (some config)
  · exact check_of_wellFormed (wellFormed_check raw)

/-- A checked configuration with both kinds of standing notices. -/
def switches : Config where
  version := 2
  phaseKey := "number"
  actions := ["select"]
  columns := [
    { Column.blank with
      key := "info", label := "Info", objectType := some .part, attr := "ua.INFO"
      filterOps := ["notEquals", "in"] },
    .switch excludeGratings "Exclude Gratings" 1,
    { Column.blank with
      key := "flag", label := "Flag", valueType := .boolean, editable := true
      targetType := some .part, targetAttr := "PT_FLAG", booleanMode := positiveNumber
      rule := some ⟨some ⟨"", "gt", .int 0⟩, some ⟨"PT_FLAG", "eq", .int 0⟩, none⟩, order := 1 }]

theorem check_switches : switches.WellFormed ∧
    check (some switches) = ⟨switches,
      [.column "exclude_gratings" (.legacyTarget "exclude_gratings"), .column "flag" .modeAndRule],
      .written 0⟩ := by
  have wellFormed : switches.WellFormed := by decide
  refine ⟨wellFormed, ?_⟩
  rw [check_fixes_wellFormed.1 switches wellFormed]
  decide

/-- **Checking keeps its promises**, for whatever was written and for nothing at all.  The rest of
the table relies on them: each kept column is bound to a source that it stores as it resolves, or
to a target; a mode and a rule stand only where they mean something; all texts are trimmed and all
names are canonical. -/
theorem check_keeps_promises (raw : Option Config) :
    (check raw).config.version = 2 ∧
    Trimmed (check raw).config.phaseKey ∧
    ((check raw).config.actions ≠ [] ∧ (∀ action ∈ (check raw).config.actions, Trimmed action) ∧
      ((check raw).config.actions.map lowerCase).Nodup) ∧
    ((check raw).config.columns ≠ [] ∧
      ((check raw).config.columns.Pairwise fun c d =>
        c.order < d.order ∨ (c.order = d.order ∧ lowerCase c.key < lowerCase d.key)) ∧
      ((check raw).config.columns.map fun c => lowerCase c.key).Nodup) ∧
    ∀ c ∈ (check raw).config.columns,
      Trimmed c.key ∧ Trimmed c.label ∧ c.unrecognized = [] ∧
      ((c.editable = false ∧
          (∃ type source, c.objectType = some type ∧
            ModelSource.resolve type c.attr = .ok source ∧ source.attr = c.attr) ∧
          c.targetType = none ∧ c.targetAttr = "" ∧ c.booleanMode = "" ∧ c.rule = none) ∨
        (c.editable = true ∧ c.objectType = none ∧ c.attr = "" ∧
          ((c.targetType = none ∧ c.targetAttr = "") ∨
            (c.targetType = none ∧ isLegacyTarget c.targetAttr = true) ∨
            ((c.targetType = some .part ∨ c.targetType = some .assembly) ∧
              Trimmed c.targetAttr)))) ∧
      (c.booleanMode = "" ∨
        (c.booleanMode = "positiveNumber" ∧ c.editable = true ∧ c.valueType = .boolean)) ∧
      (∀ r, c.rule = some r → c.editable = true ∧ c.targetAttr ≠ "" ∧
        (∃ branch clause, r.branch branch = some clause) ∧
        ∀ branch clause, r.branch branch = some clause →
          branch.fits c.valueType = true ∧ trim clause.field = clause.field ∧
            ∃ op : RuleOp, clause.op = op.name) ∧
      (∀ s ∈ c.filterOps, ∃ op : FilterOp, s = op.name ∧ op.isLegalFor c.valueType = true) ∧
      c.filterOps.Nodup := by
  obtain ⟨version, phaseKey, nonempty, trimmed, distinct_, some_, columns, keys, ascending⟩ :=
    wellFormed_check raw
  refine ⟨version, phaseKey, ⟨nonempty, trimmed, distinct_⟩, ⟨some_, ascending, keys⟩, ?_⟩
  intro c member
  have wellFormed := columns c member
  refine ⟨wellFormed.key, wellFormed.label, wellFormed.unrecognized, ?_, ?_, ?_,
    wellFormed.filterOps_legal, wellFormed.filterOps_nodup⟩
  · cases editable : c.editable with
    | false =>
        obtain ⟨source, targetType, targetAttr, mode, rule⟩ := wellFormed.model editable
        exact .inl ⟨rfl, source, targetType, targetAttr, mode, rule⟩
    | true =>
        obtain ⟨objectType, attr, target, -, -⟩ := wellFormed.editable editable
        exact .inr ⟨rfl, objectType, attr, target⟩
  · cases editable : c.editable with
    | false => exact .inl (wellFormed.model editable).booleanMode
    | true =>
        exact (wellFormed.editable editable).booleanMode.imp_right fun ⟨mode, boolean⟩ =>
          ⟨mode, rfl, boolean⟩
  · intro r found
    cases editable : c.editable with
    | false =>
        have none_ : c.rule = none := (wellFormed.model editable).rule
        rw [none_] at found
        cases found
    | true =>
        obtain ⟨target, fits⟩ := (wellFormed.editable editable).rule r found
        refine ⟨rfl, target, Rule.isEmpty_eq_false_iff.mp fits.nonempty, ?_⟩
        intro branch clause present
        obtain ⟨takes, canonical⟩ := fits.clauses branch clause present
        exact ⟨takes, canonical.field, canonical.op⟩

/-- A configuration written by hand: of its two columns one names no source, and the other has blank
ends, a branch with an unknown operator and filter operators that are no good. -/
def careless : Config where
  version := 2
  phaseKey := "  "
  actions := [" select ", "", "SELECT"]
  columns := [
    { Column.blank with key := "lost", label := "Lost" },
    { Column.blank with
      key := " Flag ", valueType := .boolean, editable := true
      targetType := some .part, targetAttr := " PT_FLAG ", booleanMode := " positivenumber"
      rule := some ⟨some ⟨" PT_FLAG ", "G-T", .int 0⟩, some ⟨"", "about", .null⟩, none⟩
      filterOps := ["EQ", "range", "equals"] }]

def carelessFlag : Column :=
  { Column.blank with
    key := "Flag", label := "Flag", valueType := .boolean, editable := true
    targetType := some .part, targetAttr := "PT_FLAG", booleanMode := "positiveNumber"
    rule := some ⟨some ⟨"PT_FLAG", "gt", .int 0⟩, none, none⟩
    filterOps := ["equals"] }

theorem check_careless : (check (some careless)).config.columns = [carelessFlag] ∧
    Trimmed carelessFlag.key ∧ FilterOp.equals.isLegalFor carelessFlag.valueType = true := by
  have kept : (checkColumns [] careless.columns).1 = [carelessFlag] := by decide
  have columns : (check (some careless)).config.columns = [carelessFlag] := by
    rcases result : checkColumns [] careless.columns with ⟨columns, notices⟩
    obtain rfl : columns = [carelessFlag] := by rw [← kept, result]
    simp [check, result, show careless.version = supportedVersion from rfl]
  have promises := (check_keeps_promises (some careless)).2.2.2.2 carelessFlag
    (columns ▸ List.mem_singleton_self carelessFlag)
  refine ⟨columns, promises.1, ?_⟩
  obtain ⟨-, -, -, -, -, -, legal, -⟩ := promises
  obtain ⟨op, named, allowed⟩ := legal "equals" List.mem_cons_self
  obtain rfl : op = .equals := FilterOp.name_injective named.symm
  exact allowed

end Config

end PhaseTable
