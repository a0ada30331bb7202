/-
# PhaseTable.Proofs.Session.Quotations -- the texts that notices quote

A notice is worded around texts that were written: a key, a target, a mode, an operator, values.
`quoted` lists them for each notice, in the order of its wording, and `texts` lists what a
configuration and a selection have of them.  Texts are trimmed and lists are split before they are
used, so what is quoted is a text that was written or a part of one
(`Config.partOf_of_quoted`, `Query.partOf_of_quoted`).
-/
import PhaseTable.Config.Check
import PhaseTable.Proofs.Filter.Clause
import PhaseTable.Proofs.Selection
import PhaseTable.Proofs.Text.Pieces
import PhaseTable.Query

namespace PhaseTable

set_option autoImplicit false

open Text

/-! ## Parts of what was written -/

/-- The text is one of those that were written, or a part of one. -/
def PartOf (written : List String) (s : String) : Prop :=
  ∃ whole ∈ written, s.toList <:+: whole.toList

namespace PartOf

variable {written more : List String} {s t : String}

theorem of_mem (listed : s ∈ written) : PartOf written s :=
  ⟨s, listed, List.infix_rfl⟩

theorem mono (part : PartOf written s) (within : written ⊆ more) : PartOf more s := by
  obtain ⟨whole, listed, inside⟩ := part
  exact ⟨whole, within listed, inside⟩

theorem of_nonBlank? (listed : s ∈ written) (found : nonBlank? s = some t) : PartOf written t :=
  ⟨s, listed, infix_of_nonBlank? found⟩

theorem of_trim (listed : s ∈ written) : PartOf written (trim s) := by
  refine ⟨s, listed, ?_⟩
  rw [toList_trim]
  exact trimChars_isInfix _

end PartOf

/-! ## What is written -/

def Clause.texts (c : Clause) : List String :=
  c.field :: c.op :: c.value.literals

def Rule.texts (r : Rule) : List String :=
  (Branch.all.filterMap r.branch).flatMap Clause.texts

/-- The texts of a column, as far as notices are worded with them. -/
def Column.texts (c : Column) : List String :=
  [c.key, c.targetAttr, c.booleanMode] ++ c.filterOps ++ c.unrecognized.map (·.2) ++
    c.rule.toList.flatMap Rule.texts

def Config.texts (config : Config) : List String :=
  config.columns.flatMap Column.texts

def Filter.texts (f : Filter) : List String :=
  [f.targetAttr, f.value] ++ f.rule.toList.flatMap Rule.texts

def Criteria.texts (c : Criteria) : List String :=
  c.filters.flatMap Filter.texts

theorem Rule.texts_of_branch {r : Rule} {branch : Branch} {c : Clause}
    (found : r.branch branch = some c) : c.texts ⊆ r.texts := by
  have listed : c ∈ Branch.all.filterMap r.branch :=
    List.mem_filterMap.mpr ⟨branch, by cases branch <;> decide, found⟩
  exact fun s => List.mem_flatMap_of_mem listed

/-! ## Notices on a configuration -/

/-- The texts that the wording quotes. -/
def RuleNotice.quoted (key : String) : RuleNotice → List String
  | .unsupportedOp _ op => [key, op]
  | _ => [key]

def ColumnNotice.quoted (key : String) : ColumnNotice → List String
  | .unrecognized _ value => [key, value]
  | .unknownTarget target | .legacyTarget target => [key, target]
  | .modeForOtherType mode _ | .unknownMode mode => [key, mode]
  | .rule notice => notice.quoted key
  | .illegalFilterOp written _ => [written, key]
  | _ => [key]

def ConfigNotice.quoted : ConfigNotice → List String
  | .duplicateKey key => [key]
  | .column key notice => notice.quoted key
  | _ => []

/-- The notices on something kept, or the one for which it is dropped. -/
def Kept.notices {α : Type} : Kept α → List ColumnNotice
  | .error notice => [notice]
  | .ok (_, notices) => notices

namespace Column

variable {c : Column} {key : String} {notice : ColumnNotice}

/-- What a notice on the column quotes was written, if its key was. -/
def Quotes (c : Column) (key : String) (notice : ColumnNotice) : Prop :=
  ∀ s ∈ notice.quoted key, PartOf c.texts s

theorem quotes_noticeIf {condition : Bool} (quotes : c.Quotes key notice) :
    ∀ n ∈ noticeIf condition notice, c.Quotes key n := by
  unfold noticeIf
  split
  · exact List.forall_mem_singleton.mpr quotes
  · exact nofun

section Named

variable (named : PartOf c.texts key)
include named

theorem quotes_key (alone : notice.quoted key = [key]) : c.Quotes key notice := by
  intro s listed
  rw [alone, List.mem_singleton] at listed
  exact listed ▸ named

theorem quotes_pair {value : String} (both : notice.quoted key = [key, value])
    (written : PartOf c.texts value) : c.Quotes key notice := by
  intro s listed
  rw [both, List.mem_pair] at listed
  rcases listed with rfl | rfl
  · exact named
  · exact written

theorem quotes_only (alone : notice.quoted key = [key]) : ∀ n ∈ [notice], c.Quotes key n :=
  List.forall_mem_singleton.mpr (quotes_key named alone)

theorem quotes_modelBinding : ∀ n ∈ c.modelBinding.notices, c.Quotes key n := by
  unfold modelBinding
  split
  · split
    · exact quotes_only named rfl
    · split
      · exact quotes_only named rfl
      · exact List.forall_mem_append.mpr ⟨quotes_noticeIf (quotes_key named rfl),
          quotes_noticeIf (quotes_key named rfl)⟩
  · exact quotes_only named rfl

theorem quotes_target : ∀ n ∈ c.target.notices, c.Quotes key n := by
  have written {attr : String} (found : nonBlank? c.targetAttr = some attr) : PartOf c.texts attr :=
    .of_nonBlank? (by simp [texts]) found
  unfold target
  split
  · exact nofun
  · next attr _ found =>
    split
    · exact List.forall_mem_singleton.mpr (quotes_pair named rfl (written found))
    · exact List.forall_mem_singleton.mpr (quotes_pair named rfl (written found))
  · exact quotes_only named rfl
  · split
    · exact nofun
    · exact quotes_only named rfl

theorem quotes_mode : ∀ n ∈ c.mode.2, c.Quotes key n := by
  unfold mode
  split
  · exact nofun
  · next mode found =>
    have written : PartOf c.texts mode := .of_nonBlank? (by simp [texts]) found
    split
    · exact List.forall_mem_singleton.mpr (quotes_pair named rfl written)
    · split
      · exact nofun
      · exact List.forall_mem_singleton.mpr (quotes_pair named rfl written)

/-- A clause is refused with its operator, if the operator is unknown. -/
theorem quotes_refusal {r : Rule} (ruled : c.rule = some r) {branch : Branch} {type : ValueType}
    {n : RuleNotice} (refused : r.refusal? type branch = some n) : c.Quotes key (.rule n) := by
  obtain ⟨clause, found, refused⟩ := Option.bind_eq_some_iff.mp refused
  have written : clause.op ∈ c.texts := by
    have inRule : clause.op ∈ r.texts := Rule.texts_of_branch found (by simp [Clause.texts])
    simp [texts, ruled, inRule]
  split at refused
  · cases refused
  · next checked =>
    cases refused
    unfold Clause.check at checked
    split at checked
    · cases checked
      exact quotes_pair named rfl (.of_mem written)
    · split at checked
      · cases checked
      · split at checked <;> cases checked <;> exact quotes_key named rfl

theorem quotes_fittedRule (targetAttr booleanMode : String) :
    ∀ n ∈ (c.fittedRule targetAttr booleanMode).2, c.Quotes key n := by
  unfold fittedRule
  split
  · exact nofun
  · next r ruled =>
    split
    · exact quotes_only named rfl
    · refine List.forall_mem_append.mpr ⟨quotes_noticeIf (quotes_key named rfl), ?_⟩
      have refusals : ∀ n ∈ Branch.all.filterMap (r.refusal? c.valueType),
          c.Quotes key (.rule n) := by
        intro n listed
        obtain ⟨branch, -, refused⟩ := List.mem_filterMap.mp listed
        exact quotes_refusal named ruled refused
      rw [List.forall_mem_map]
      unfold Rule.check
      split
      · exact List.forall_mem_append.mpr
          ⟨refusals, List.forall_mem_singleton.mpr (quotes_key named rfl)⟩
      · exact refusals

theorem quotes_editableBinding : ∀ n ∈ c.editableBinding.notices, c.Quotes key n := by
  have target := quotes_target named
  unfold editableBinding
  split
  · exact quotes_only named rfl
  · split
    · next failed =>
      rw [failed] at target
      exact target
    · next targetType targetAttr notices found =>
      rw [found] at target
      have mode := quotes_mode named
      -- what the rule's notices quote does not depend on the mode
      generalize c.mode = modes at mode ⊢
      obtain ⟨booleanMode, modeNotices⟩ := modes
      have rule := quotes_fittedRule named targetAttr booleanMode
      exact List.forall_mem_append.mpr ⟨List.forall_mem_append.mpr ⟨target, mode⟩, rule⟩

theorem quotes_filterOps : ∀ n ∈ c.filterOpNotices, c.Quotes key n := by
  intro n listed
  obtain ⟨written, inside, refused⟩ := List.mem_filterMap.mp listed
  have part : PartOf c.texts (trim written) := .of_trim (by simp [texts, inside])
  split at refused
  · split at refused
    · cases refused
    · cases refused
      intro s listed
      rcases List.mem_pair.mp listed with rfl | rfl
      · exact part
      · exact named
  · cases refused

theorem quotes_check : ∀ n ∈ (c.check key).notices, c.Quotes key n := by
  unfold check
  split
  · next setting value rest found =>
    have written : value ∈ c.texts := by simp [texts, found]
    exact List.forall_mem_singleton.mpr (quotes_pair named rfl (.of_mem written))
  · have binding : ∀ n ∈ (if c.editable then c.editableBinding else c.modelBinding).notices,
        c.Quotes key n := by
      split
      · exact quotes_editableBinding named
      · exact quotes_modelBinding named
    split
    · next failed =>
      rw [failed] at binding
      exact binding
    · next found =>
      rw [found] at binding
      exact List.forall_mem_append.mpr ⟨binding, quotes_filterOps named⟩

end Named

end Column

theorem partOf_of_checkColumn (seen : List String) (c : Column) :
    ∀ n ∈ (checkColumn seen c).2.1, ∀ s ∈ n.quoted, PartOf c.texts s := by
  unfold checkColumn
  split
  · exact List.forall_mem_singleton.mpr nofun
  · next key found =>
    have named : PartOf c.texts key := .of_nonBlank? (by simp [Column.texts]) found
    have checked := Column.quotes_check named
    split
    · exact List.forall_mem_singleton.mpr (List.forall_mem_singleton.mpr named)
    · split
      · next failed =>
        rw [failed] at checked
        exact List.forall_mem_singleton.mpr (List.forall_mem_singleton.mp checked)
      · next kept =>
        rw [kept] at checked
        exact List.forall_mem_map.mpr checked

theorem checkColumns_cons (seen : List String) (c : Column) (rest : List Column) :
    (checkColumns seen (c :: rest)).2 =
      (checkColumn seen c).2.1 ++ (checkColumns (checkColumn seen c).2.2 rest).2 := by
  rw [checkColumns]

theorem partOf_of_checkColumns (seen : List String) (columns : List Column) :
    ∀ n ∈ (checkColumns seen columns).2, ∀ s ∈ n.quoted,
      PartOf (columns.flatMap Column.texts) s := by
  induction columns generalizing seen with
  | nil => exact nofun
  | cons c rest ih =>
      rw [checkColumns_cons, List.flatMap_cons]
      intro n listed s quoted
      rcases List.mem_append.mp listed with listed | listed
      · exact (partOf_of_checkColumn seen c n listed s quoted).mono (List.subset_append_left _ _)
      · exact (ih _ n listed s quoted).mono (List.subset_append_right _ _)

/-- What is quoted in a notice on a configuration is part of what was written in it. -/
theorem Config.partOf_of_quoted (raw : Option Config) :
    ∀ n ∈ (check raw).notices, ∀ s ∈ n.quoted, PartOf (raw.toList.flatMap texts) s := by
  cases raw with
  | none => exact List.forall_mem_singleton.mpr nofun
  | some config =>
      have columns := partOf_of_checkColumns [] config.columns
      rw [Option.toList_some, List.flatMap_singleton, texts, check]
      split
      · exact List.forall_mem_singleton.mpr nofun
      · generalize checkColumns [] config.columns = checked at columns ⊢
        obtain ⟨kept, notices⟩ := checked
        cases kept with
        | nil => exact List.forall_mem_append.mpr ⟨columns, List.forall_mem_singleton.mpr nofun⟩
        | cons first others => exact columns

/-! ## Notices on a selection -/

def ClauseError.quoted : ClauseError → List String
  | .unsupportedOp op target => [op, target]
  | .missingField target => [target]
  | .emptyLiteral field => [field]

def FilterNotice.quoted : FilterNotice → List String
  | .clause reason => reason.quoted
  | .targetTypeMissing target => [target]
  | .noUsableValue field => [field]
  | .orderingInScope field _ => [field]
  | .notNumeric field values => field :: values

def QueryNotice.quoted : QueryNotice → List String
  | .invalidPhase _ => []
  | .filter _ notice => notice.quoted

/-! ### Ready clauses -/

def Operand.texts : Operand → List String
  | .input => []
  | .literals values => values

namespace ReadyClause

variable {c : ReadyClause} {type : ValueType} {input : String} {notice : FilterNotice}
  {written : List String}

theorem partOf_values (entered : input ∈ written) (fixed : c.operand.texts ⊆ written) :
    ∀ v ∈ c.values input, PartOf written v := by
  have ofSplit {s : String} (listed : s ∈ written) : ∀ v ∈ splitValues s, PartOf written v :=
    fun v inside => ⟨s, listed, infix_of_mem_splitValues inside⟩
  have trimmed {texts : List String} (listed : texts ⊆ written) :
      ∀ v ∈ distinctNonBlank texts, PartOf written v := by
    intro v inside
    obtain ⟨t, member, found⟩ := mem_distinctNonBlank.mp inside
    exact .of_nonBlank? (listed member) found
  unfold values
  split
  · next literal operand _ =>
    rw [operand] at fixed
    exact ofSplit (fixed (List.mem_singleton_self literal))
  · next operand _ =>
    rw [operand] at fixed
    exact trimmed fixed
  · exact ofSplit entered
  · exact fun v listed => .of_nonBlank? entered (Option.mem_toList.mp listed)

theorem partOf_of_condition (named : PartOf written c.field) (entered : input ∈ written)
    (fixed : c.operand.texts ⊆ written) (failed : c.condition type input = .error notice) :
    ∀ s ∈ notice.quoted, PartOf written s := by
  have values := partOf_values entered fixed
  unfold condition at failed
  split at failed
  · cases failed
    exact List.forall_mem_singleton.mpr named
  · next first others made =>
    rw [made] at values
    split at failed
    · unfold compareField at failed
      split at failed
      · split at failed <;> cases failed
      · split at failed
        · cases failed
          exact List.forall_mem_cons.mpr ⟨named, values⟩
        · cases failed
    · split at failed
      · cases failed
        exact List.forall_mem_singleton.mpr named
      · cases failed

/-- A comparison with one value fails only if it is an order of something else than a number. -/
theorem condition_ne_error {v : String} (one : c.values input = [v])
    (settled : c.op.isOrdering = false ∨ c.scope = .field ∧ (valueNumber? v).isSome = true) :
    c.condition type input ≠ .error notice := by
  intro failed
  rw [condition, one] at failed
  simp only at failed
  split at failed
  · unfold compareField at failed
    split at failed
    · split at failed <;> cases failed
    · next unread =>
      split at failed
      · next ordering =>
        rcases settled with unordered | ⟨-, number⟩
        · rw [ordering] at unordered
          cases unordered
        · obtain ⟨x, read⟩ := Option.isSome_iff_exists.mp number
          exact unread x [] (by simp [read])
      · cases failed
  · next profiles =>
    split at failed
    · next ordering =>
      rcases settled with unordered | ⟨field, -⟩
      · rw [ordering] at unordered
        cases unordered
      · rw [field] at profiles
        cases profiles
    · cases failed

end ReadyClause

/-! ### Filters -/

namespace Clause

variable {c : Clause} {target : String}

theorem partOf_field {field : String}
    (found : (nonBlank? c.field).or (nonBlank? target) = some field) :
    PartOf (target :: c.texts) field := by
  rcases Option.or_eq_some_iff.mp found with own | ⟨-, targets⟩
  · exact .of_nonBlank? (by simp [texts]) own
  · exact .of_nonBlank? List.mem_cons_self targets

theorem partOf_of_ready_error {reason : ClauseError} (failed : c.ready target = .error reason) :
    ∀ s ∈ reason.quoted, PartOf (target :: c.texts) s := by
  have ofTarget : PartOf (target :: c.texts) target := .of_mem List.mem_cons_self
  unfold ready at failed
  split at failed
  · cases failed
    have ofOp : PartOf (target :: c.texts) c.op := .of_mem (by simp [texts])
    exact List.forall_mem_cons.mpr ⟨ofOp, List.forall_mem_singleton.mpr ofTarget⟩
  · split at failed
    · cases failed
      exact List.forall_mem_singleton.mpr ofTarget
    · next found =>
      split at failed
      · cases failed
      · split at failed
        · cases failed
          exact List.forall_mem_singleton.mpr (partOf_field found)
        · cases failed

theorem partOf_of_ready {result : ReadyClause} (made : c.ready target = .ok result) :
    PartOf (target :: c.texts) result.field ∧ result.operand.texts ⊆ c.texts := by
  unfold ready at made
  split at made
  · cases made
  · split at made
    · cases made
    · next found =>
      split at made
      · cases made
        exact ⟨partOf_field found, nofun⟩
      · split at made
        · cases made
        · next literals =>
          cases made
          refine ⟨partOf_field found, fun s listed => ?_⟩
          exact List.mem_cons_of_mem _ (List.mem_cons_of_mem _ listed)

end Clause

namespace Filter

variable {f : Filter}

/-- The clauses that predate rules do not order, or by a number of their own, so they never fail. -/
theorem condition_of_legacy {c : ReadyClause} (found : f.legacy = .clause c) {type : ValueType}
    {input : String} {notice : FilterNotice} : c.condition type input ≠ .error notice := by
  unfold legacy at found
  split at found
  · cases found
  · split at found
    · cases found
      -- the mode of positive numbers is the only one that orders, and it orders by zero
      refine ReadyClause.condition_ne_error (v := "0") ?_ (.inr ⟨rfl, by decide⟩)
      split <;> rfl
    · split at found
      · split at found
        · cases found
          exact ReadyClause.condition_ne_error (v := "1") rfl (.inl rfl)
        · cases found
      · split at found
        · split at found
          · cases found
            exact ReadyClause.condition_ne_error (v := gratingProfile) rfl (.inl rfl)
          · cases found
        · cases found

/-- What a clause of the filter's rule and the filter's target hold is written in the filter. -/
theorem texts_of_rule {r : Rule} {branch : Branch} {clause : Clause} (ruled : f.rule = some r)
    (found : r.branch branch = some clause) : f.targetAttr :: clause.texts ⊆ f.texts := by
  intro s listed
  rcases List.mem_cons.mp listed with rfl | inside
  · simp [texts]
  · simp [texts, ruled, Rule.texts_of_branch found inside]

theorem partOf_of_compile_error {reason : ClauseError} (failed : f.compile = .error reason) :
    ∀ s ∈ reason.quoted, PartOf f.texts s := by
  rcases f.compile_cases with nothing | ⟨r, branch, clause, ruled, -, found, same⟩
  · rw [nothing] at failed
    cases failed
  · rw [same] at failed
    intro s listed
    exact (Clause.partOf_of_ready_error (eq_error_of_map failed) s listed).mono
      (texts_of_rule ruled found)

theorem partOf_of_compile {c : ReadyClause} (made : f.compile = .ok (some c)) :
    PartOf f.texts c.field ∧ c.operand.texts ⊆ f.texts := by
  rcases f.compile_cases with nothing | ⟨r, branch, clause, ruled, -, found, same⟩
  · rw [nothing] at made
    cases made
  · rw [same] at made
    have within := texts_of_rule ruled found
    cases result : clause.ready f.targetAttr with
    | error reason =>
        rw [result] at made
        cases made
    | ok compiled =>
        rw [result] at made
        cases made
        obtain ⟨field, literals⟩ := Clause.partOf_of_ready result
        exact ⟨field.mono within, fun s listed => within (List.mem_cons_of_mem _ (literals listed))⟩

theorem partOf_of_notice? {notice : FilterNotice} (given : f.notice? = some notice) :
    ∀ s ∈ notice.quoted, PartOf f.texts s := by
  have failed : f.condition = .error notice := by
    unfold notice? at given
    split at given
    · cases given
    · next failed => rwa [Option.some.inj given] at failed
  have target : PartOf f.texts f.targetAttr := .of_mem (by simp [texts])
  unfold condition at failed
  split at failed
  · cases failed
  · split at failed
    · split at failed
      · next refused =>
        cases failed
        exact partOf_of_compile_error refused
      · cases failed
      · next made =>
        obtain ⟨field, literals⟩ := partOf_of_compile made
        exact ReadyClause.partOf_of_condition field (by simp [texts]) literals
          (eq_error_of_map failed)
    · split at failed
      · next old => exact absurd (eq_error_of_map failed) (condition_of_legacy old)
      · cases failed
      · unfold targetCondition at failed
        split at failed
        · cases failed
          exact List.forall_mem_singleton.mpr target
        · split at failed <;> cases failed

end Filter

/-- What is quoted in a notice on a selection is part of what was written in it. -/
theorem Query.partOf_of_quoted (selection : List Criteria) :
    ∀ n ∈ (ofSelection selection).notices, ∀ s ∈ n.quoted,
      PartOf (selection.flatMap Criteria.texts) s := by
  refine List.forall_mem_append.mpr ⟨List.forall_mem_map.mpr fun phase _ => nofun, ?_⟩
  intro n listed
  obtain ⟨group, member, listed⟩ := List.mem_flatMap.mp listed
  obtain ⟨f, inside, given⟩ := List.mem_filterMap.mp listed
  obtain ⟨notice, told, rfl⟩ := Option.map_eq_some_iff.mp given
  obtain ⟨-, c, selected, -, inside⟩ := filters_of_normalizeSelection member inside
  intro s quoted
  refine (Filter.partOf_of_notice? told s quoted).mono fun t written => ?_
  exact List.mem_flatMap_of_mem selected (List.mem_flatMap_of_mem inside written)

end PhaseTable
