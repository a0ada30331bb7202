/-
# PhaseTable.Proofs.Session.Severity -- which messages are errors

A message is an error if it holds certain words, and a notice holds them if it says that the
built-in configuration takes over.  But notices quote what was written, and whoever looks for the
words in a message finds them in a quotation as well.  None of the other words of a notice begin or
go on the words of an error (`Neutral`), so they are found in a quotation or nowhere
(`ConfigNotice.alarming_message`, `QueryNotice.alarming_message`).

So an error is told if the configuration was discarded, or if a text with the words of an error was
quoted (`Session.error_iff`).
-/
import PhaseTable.Proofs.Number.IntegerTexts
import PhaseTable.Proofs.Session.Observers
import PhaseTable.Proofs.Session.Quotations
import PhaseTable.Proofs.Text.Search

namespace PhaseTable

set_option autoImplicit false

open Text

/-! ## The words of an error -/

/-- The text holds words that make a message an error. -/
def alarming (s : String) : Bool :=
  contains s "Using defaults" || contains s "Using embedded defaults"

theorem Severity.ofMessage_eq_error_iff {message : String} :
    ofMessage message = .error ↔ alarming message = true := by
  rw [ofMessage, alarming]
  split
  · next found => exact iff_of_true rfl found
  · next absent =>
    refine iff_of_false ?_ absent
    split <;> exact Severity.noConfusion

/-- Words that the words of an error do not begin in and do not go on in. -/
structure Neutral (w : List Char) : Prop where
  defaults : Stops ("Using defaults".toList) w
  embedded : Stops ("Using embedded defaults".toList) w

instance (w : List Char) : Decidable (Neutral w) :=
  decidable_of_iff (_ ∧ _) ⟨fun both => ⟨both.1, both.2⟩, fun both => ⟨both.1, both.2⟩⟩

section Words

variable {s t : String} {w : List Char}

theorem alarming_empty : alarming "" = false := by
  decide

theorem alarming_append_of_right (found : alarming t = true) : alarming (s ++ t) = true := by
  rw [alarming, Bool.or_eq_true] at found ⊢
  exact found.imp contains_append_of_right contains_append_of_right

/-- Words before a text without the first letter of the words of an error. -/
theorem alarming_append_of_absent (absent : 'U' ∉ s.toList) : alarming (s ++ t) = alarming t := by
  have begins : ∀ needle : String, needle.toList.head? = some 'U' →
      ∀ c ∈ needle.toList.head?, c ∉ s.toList := by
    intro needle first c listed
    rw [first] at listed
    cases listed
    exact absent
  rw [alarming, contains_append_of_absent (begins _ rfl) (by decide),
    contains_append_of_absent (begins _ rfl) (by decide), alarming]

theorem alarming_of_absent (absent : 'U' ∉ s.toList) : alarming s = false := by
  have end_ := alarming_append_of_absent (t := "") absent
  rwa [String.append_empty, alarming_empty] at end_

theorem alarming_words (absent : 'U' ∉ w) : alarming (String.ofList w) = false :=
  alarming_of_absent (by rwa [String.toList_ofList])

theorem alarming_between (neutral : Neutral w) :
    alarming (s ++ String.ofList w ++ t) = (alarming s || alarming t) := by
  rw [String.append_assoc]
  have defaults := neutral.defaults
  have embedded := neutral.embedded
  rw [← String.toList_ofList (l := w)] at defaults embedded
  simp only [alarming, contains_between defaults (by decide), contains_between embedded (by decide)]
  ac_rfl

theorem alarming_before (neutral : Neutral w) : alarming (s ++ String.ofList w) = alarming s := by
  have end_ := alarming_between (s := s) (t := "") neutral
  rwa [String.append_empty, alarming_empty, Bool.or_false] at end_

end Words

/-! ## Quotations -/

section Quotations

variable {p q r : String} {a b c d : List Char}

theorem alarming_quotation (head : 'U' ∉ a) :
    alarming (String.ofList a ++ p) = [p].any alarming := by
  rw [alarming_append_of_absent (by rwa [String.toList_ofList]), List.any_cons, List.any_nil,
    Bool.or_false]

theorem alarming_quotation₁ (head : 'U' ∉ a) (tail : Neutral b) :
    alarming (String.ofList a ++ p ++ String.ofList b) = [p].any alarming := by
  rw [alarming_before tail, alarming_quotation head]

theorem alarming_quotation₂ (head : 'U' ∉ a) (inner : Neutral b) (tail : Neutral c) :
    alarming (String.ofList a ++ p ++ String.ofList b ++ q ++ String.ofList c) =
      [p, q].any alarming := by
  rw [alarming_before tail, alarming_between inner, alarming_quotation head]
  simp only [List.any_cons, List.any_nil, Bool.or_false]

theorem alarming_quotation₃ (head : 'U' ∉ a) (inner : Neutral b) (inner' : Neutral c)
    (tail : Neutral d) :
    alarming (String.ofList a ++ p ++ String.ofList b ++ q ++ String.ofList c ++ r ++
      String.ofList d) = [p, q, r].any alarming := by
  rw [alarming_before tail, alarming_between inner', alarming_between inner,
    alarming_quotation head]
  simp only [List.any_cons, List.any_nil, Bool.or_false, Bool.or_assoc]

end Quotations

/-! ## Names

The names and reasons that notices are worded with are about no error. -/

@[simp] theorem NamedSetting.alarming_key (setting : NamedSetting) :
    alarming setting.key = false := by
  cases setting <;> exact alarming_words (by decide)

@[simp] theorem ValueType.alarming_name (type : ValueType) : alarming type.name = false := by
  cases type <;> exact alarming_words (by decide)

@[simp] theorem Branch.alarming_name (branch : Branch) : alarming branch.name = false := by
  cases branch <;> exact alarming_words (by decide)

@[simp] theorem RuleOp.alarming_name (op : RuleOp) : alarming op.name = false := by
  cases op <;> exact alarming_words (by decide)

@[simp] theorem SourceError.alarming_message (reason : SourceError) :
    alarming reason.message = false := by
  cases reason <;> exact alarming_words (by decide)

@[simp] theorem alarming_positiveNumber : alarming positiveNumber = false :=
  alarming_words (by decide)

/-! ## Notices on a configuration -/

namespace RuleNotice

theorem alarming_message (key : String) (notice : RuleNotice) :
    alarming (notice.message key) = (notice.quoted key).any alarming := by
  cases notice with
  | unsupportedOp branch op =>
      refine (alarming_quotation₃ (by decide) (by decide) (by decide) (by decide)).trans ?_
      simp [quoted]
  | onlyForBoolean branch =>
      refine (alarming_quotation₂ (by decide) (by decide) (by decide)).trans ?_
      simp [quoted]
  | notForBoolean => exact alarming_quotation₁ (by decide) (by decide)
  | noClauseLeft => exact alarming_quotation₁ (by decide) (by decide)

end RuleNotice

namespace ColumnNotice

theorem alarming_message (key : String) (notice : ColumnNotice) :
    alarming (notice.message key) = (notice.quoted key).any alarming := by
  cases notice with
  | unrecognized setting value =>
      refine (alarming_quotation₃ (by decide) (by decide) (by decide) (by decide)).trans ?_
      simp [quoted]
  | badSource reason =>
      refine (alarming_quotation₂ (by decide) (by decide) (by decide)).trans ?_
      simp [quoted]
  | unknownTarget target => exact alarming_quotation₂ (by decide) (by decide) (by decide)
  | legacyTarget target => exact alarming_quotation₂ (by decide) (by decide) (by decide)
  | modeForOtherType mode type =>
      refine (alarming_quotation₃ (by decide) (by decide) (by decide) (by decide)).trans ?_
      simp [quoted]
  | unknownMode mode =>
      refine (alarming_quotation₃ (by decide) (by decide) (by decide) (by decide)).trans ?_
      simp [quoted]
  | rule notice => exact notice.alarming_message key
  | illegalFilterOp written type =>
      refine (alarming_quotation₃ (by decide) (by decide) (by decide) (by decide)).trans ?_
      simp [quoted]
  | sourceMissing | targetOnModelColumn | modeOnModelColumn | ruleOnModelColumn
  | sourceOnEditableColumn | halfTarget | badTargetType | ruleWithoutTarget | modeAndRule =>
      exact alarming_quotation₁ (by decide) (by decide)

end ColumnNotice

namespace ConfigNotice

/-- The notice says that the built-in configuration takes over. -/
def discards : ConfigNotice → Bool
  | .missing | .unsupportedVersion _ | .noColumnLeft => true
  | _ => false

/-- The words of an error are found in a notice that says so, and in quotations. -/
theorem alarming_message (notice : ConfigNotice) :
    alarming notice.message = (notice.discards || notice.quoted.any alarming) := by
  cases notice with
  | missing => decide
  | unsupportedVersion version => exact alarming_append_of_right (by decide)
  | noColumnLeft => decide
  | emptyKey => exact alarming_words (by decide)
  | duplicateKey key => exact alarming_quotation (by decide)
  | column key notice => exact notice.alarming_message key

end ConfigNotice

/-! ## Notices on a selection -/

namespace ClauseError

theorem alarming_message (reason : ClauseError) :
    alarming reason.message = reason.quoted.any alarming := by
  cases reason with
  | unsupportedOp op target => exact alarming_quotation₂ (by decide) (by decide) (by decide)
  | missingField target => exact alarming_quotation₁ (by decide) (by decide)
  | emptyLiteral field => exact alarming_quotation₁ (by decide) (by decide)

end ClauseError

/-- A list of texts, with commas between them. -/
theorem alarming_intercalate (texts : List String) :
    alarming (String.intercalate ", " texts) = texts.any alarming := by
  induction texts with
  | nil => decide
  | cons first rest ih =>
      -- there is a comma only before a second text
      cases rest with
      | nil => rw [String.intercalate_singleton, List.any_cons, List.any_nil, Bool.or_false]
      | cons second rest =>
          have comma : ", " = String.ofList [',', ' '] := rfl
          rw [String.intercalate_cons_cons, comma, alarming_between (by decide), ← comma, ih,
            ← List.any_cons]

namespace FilterNotice

theorem alarming_message (notice : FilterNotice) :
    alarming notice.message = notice.quoted.any alarming := by
  cases notice with
  | clause reason => exact reason.alarming_message
  | targetTypeMissing target => exact alarming_quotation₁ (by decide) (by decide)
  | noUsableValue field => exact alarming_quotation₁ (by decide) (by decide)
  | orderingInScope field op =>
      refine (alarming_quotation₂ (by decide) (by decide) (by decide)).trans ?_
      simp [quoted]
  | notNumeric field values =>
      refine (alarming_quotation₂ (by decide) (by decide) (by decide)).trans ?_
      simp [quoted, alarming_intercalate]

end FilterNotice

namespace QueryNotice

/-- The number of a phase, and the words around it, are about no error. -/
theorem alarming_phaseWords (phase : Int32) (s : String) :
    alarming (phaseWords phase ++ s) = alarming s := by
  refine alarming_append_of_absent fun listed => ?_
  rw [phaseWords, String.toList_append, String.toList_append, List.mem_append,
    List.mem_append] at listed
  rcases listed with (word | number) | word
  · exact absurd word (by decide)
  · rcases mem_intText number with minus | digit
    · exact absurd minus (by decide)
    · exact absurd digit (by decide)
  · exact absurd word (by decide)

theorem alarming_message (notice : QueryNotice) :
    alarming notice.message = notice.quoted.any alarming := by
  cases notice with
  | invalidPhase phase =>
      exact (alarming_phaseWords phase _).trans (alarming_words (by decide))
  | filter phase notice =>
      exact (alarming_phaseWords phase _).trans notice.alarming_message

end QueryNotice

/-! ## Discarded configurations -/

namespace Config

/-- There is no configuration, it has another version, or no column is left of it. -/
def Discarded : Option Config → Prop
  | none => True
  | some config =>
      config.version ≠ supportedVersion ∨ (checkColumns [] config.columns).1 = []

instance : (raw : Option Config) → Decidable (Discarded raw)
  | none => isTrue trivial
  | some config =>
      inferInstanceAs (Decidable (config.version ≠ supportedVersion ∨
        (checkColumns [] config.columns).1 = []))

theorem basis_check_eq_builtIn_iff {raw : Option Config} :
    (check raw).basis = .builtIn ↔ Discarded raw := by
  cases raw with
  | none => exact iff_of_true rfl trivial
  | some config =>
      rw [check, Discarded]
      split
      · next other => exact iff_of_true rfl (.inl other)
      · next supported =>
        rw [or_iff_right supported]
        rcases checkColumns [] config.columns with ⟨kept, notices⟩
        cases kept with
        | nil => exact iff_of_true rfl rfl
        | cons first others => exact iff_of_false Basis.noConfusion (List.cons_ne_nil first others)

theorem discards_checkColumn (seen : List String) (c : Column) :
    ∀ n ∈ (checkColumn seen c).2.1, n.discards = false := by
  unfold checkColumn
  split
  · exact List.forall_mem_singleton.mpr rfl
  · split
    · exact List.forall_mem_singleton.mpr rfl
    · split
      · exact List.forall_mem_singleton.mpr rfl
      · exact List.forall_mem_map.mpr fun _ _ => rfl

theorem discards_checkColumns (seen : List String) (columns : List Column) :
    ∀ n ∈ (checkColumns seen columns).2, n.discards = false := by
  induction columns generalizing seen with
  | nil => exact nofun
  | cons c rest ih =>
      rw [checkColumns_cons]
      exact List.forall_mem_append.mpr ⟨discards_checkColumn seen c, ih _⟩

/-- The built-in configuration takes over with a notice that says so. -/
theorem any_discards_check (raw : Option Config) :
    (check raw).notices.any ConfigNotice.discards = true ↔ (check raw).basis = .builtIn := by
  cases raw with
  | none => exact iff_of_true rfl rfl
  | some config =>
      have columns : (checkColumns [] config.columns).2.any ConfigNotice.discards = false := by
        refine List.any_eq_false.mpr fun n listed => ?_
        rw [discards_checkColumns [] config.columns n listed]
        exact Bool.false_ne_true
      rw [check]
      split
      · exact iff_of_true rfl rfl
      · generalize checkColumns [] config.columns = checked at columns ⊢
        obtain ⟨kept, notices⟩ := checked
        cases kept with
        | nil =>
            have said : List.any (notices ++ [.noColumnLeft]) ConfigNotice.discards = true := by
              rw [List.any_append, columns]
              rfl
            exact iff_of_true said rfl
        | cons first others => exact iff_of_false (Bool.eq_false_iff.mp columns) Basis.noConfusion

end Config

/-! ## Errors -/

/-- Events are errors if their messages hold the words of an error. -/
theorem exists_error_iff {stage : Stage} {messages : Messages} :
    (∃ e ∈ messages.map (Event.of stage), e.severity = .error) ↔
      messages.any alarming = true := by
  rw [List.any_eq_true]
  constructor
  · rintro ⟨e, listed, error⟩
    obtain ⟨message, inside, rfl⟩ := List.mem_map.mp listed
    exact ⟨message, inside, Severity.ofMessage_eq_error_iff.mp error⟩
  · rintro ⟨message, inside, found⟩
    exact ⟨_, List.mem_map_of_mem inside, Severity.ofMessage_eq_error_iff.mpr found⟩

/-- A message on a configuration holds the words of an error if the configuration was discarded, or
if the words are quoted in it. -/
theorem any_alarming_check (raw : Option Config) :
    ((Config.check raw).notices.map ConfigNotice.message).any alarming = true ↔
      Config.Discarded raw ∨
        ((Config.check raw).notices.flatMap ConfigNotice.quoted).any alarming = true := by
  rw [← Config.basis_check_eq_builtIn_iff, ← Config.any_discards_check, List.any_map,
    List.any_flatMap]
  simp only [List.any_eq_true, Function.comp_apply, ConfigNotice.alarming_message,
    Bool.or_eq_true, and_or_left, exists_or]

/-- A message on a selection holds the words of an error if they are quoted in it. -/
theorem any_alarming_ofSelection (selection : List Criteria) :
    ((Query.ofSelection selection).notices.map QueryNotice.message).any alarming =
      ((Query.ofSelection selection).notices.flatMap QueryNotice.quoted).any alarming := by
  rw [List.any_map, List.any_flatMap]
  exact congrArg (List.any _) (funext QueryNotice.alarming_message)

namespace Session

/-- **Errors are told of discarded configurations and of quotations.**  Among the messages on a
configuration and on a query made with it there is an error exactly if the configuration was
discarded, or if a text that a notice quotes holds the words of an error.  Each of these texts is a
part of one that was written in the configuration or in the selection. -/
theorem error_iff (raw : Option Config) (selection : List Criteria) :
    let fresh := ofConfig raw
    let reply := (fresh.call (.query selection)).2
    let quoted := (Config.check raw).notices.flatMap ConfigNotice.quoted ++
      (Query.ofSelection selection).notices.flatMap QueryNotice.quoted
    let written := raw.toList.flatMap Config.texts ++ selection.flatMap Criteria.texts
    ((∃ e ∈ fresh.configEvents ++ reply.events, e.severity = .error) ↔
        Config.Discarded raw ∨ ∃ text ∈ quoted, alarming text = true) ∧
      ∀ text ∈ quoted, ∃ whole ∈ written, text.toList <:+: whole.toList := by
  intro fresh reply quoted written
  constructor
  · have config : (∃ e ∈ fresh.configEvents, e.severity = .error) ↔ _ :=
      exists_error_iff.trans (any_alarming_check raw)
    have query : (∃ e ∈ reply.events, e.severity = .error) ↔ _ :=
      exists_error_iff.trans (Bool.eq_iff_iff.mp (any_alarming_ofSelection selection))
    rw [← List.any_eq_true, List.any_append, Bool.or_eq_true, ← or_assoc, ← config, ← query]
    simp only [List.mem_append, or_and_right, exists_or]
  · have config := List.forall_mem_flatMap.mpr (Config.partOf_of_quoted raw)
    have query := List.forall_mem_flatMap.mpr (Query.partOf_of_quoted selection)
    exact List.forall_mem_append.mpr
      ⟨fun text listed => (config text listed).mono (List.subset_append_left _ _),
        fun text listed => (query text listed).mono (List.subset_append_right _ _)⟩

/-- A configuration with a column whose key holds the words of an error. -/
def alarmingKey : Config :=
  ⟨2, "number", ["select"],
    [{ Column.switch excludeExisting "Exclude Existing" 1 with key := "Using defaults" }]⟩

/-- The column is kept with a note on its old target.  The note quotes the key. -/
theorem error_of_key :
    let fresh := ofConfig (some alarmingKey)
    let reply := (fresh.call (.query [])).2
    (∃ e ∈ fresh.configEvents ++ reply.events, e.severity = .error) ∧
      ¬ Config.Discarded (some alarmingKey) := by
  decide +kernel

end Session

end PhaseTable
