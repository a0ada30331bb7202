/-
# PhaseTable.Proofs.Session.Losses -- which losses are told as warnings

What is dropped or replaced is told, and the severity of a message is read off its words: a message
that holds the words of a loss (`TellsLoss`), or that begins with the word for a phase, is at least
a warning.  Every notice on a column, a clause, a filter, a phase or a table has such words of its
own, whatever is quoted in it; the two remarks on what is kept have none (`ColumnNotice.isRemark`).

A file that cannot be read as a configuration is passed over with a notice that has none either
(`LoadNotice.tellsLoss_failed`).  So this loss is told for information only, unless the path or the
reason happens to hold the words (`losses_told`).
-/
import PhaseTable.Config.Loading
import PhaseTable.Event
import PhaseTable.Proofs.Text.Search

namespace PhaseTable

set_option autoImplicit false

open Text

/-! ## The words of a loss -/

def lossWords : List String :=
  ["Using defaults", "Using embedded defaults", "skipped", "ignored"]

/-- The text holds words of a loss. -/
def TellsLoss (s : String) : Prop :=
  ∃ word ∈ lossWords, contains s word = true

instance (s : String) : Decidable (TellsLoss s) :=
  inferInstanceAs (Decidable (∃ word ∈ lossWords, _))

namespace TellsLoss

variable {s t p : String} {a b : List Char}

theorem left (found : TellsLoss s) : TellsLoss (s ++ t) := by
  obtain ⟨word, listed, inside⟩ := found
  exact ⟨word, listed, contains_append_of_left inside⟩

theorem right (found : TellsLoss t) : TellsLoss (s ++ t) := by
  obtain ⟨word, listed, inside⟩ := found
  exact ⟨word, listed, contains_append_of_right inside⟩

theorem ofList (found : ∃ word ∈ lossWords, occursIn word.toList a = true) :
    TellsLoss (String.ofList a) := by
  obtain ⟨word, listed, inside⟩ := found
  exact ⟨word, listed, by rwa [contains, String.toList_ofList]⟩

/-- Something is quoted between two words, of which one tells of a loss. -/
theorem around
    (found : ∃ word ∈ lossWords, (occursIn word.toList a || occursIn word.toList b) = true) :
    TellsLoss (String.ofList a ++ p ++ String.ofList b) := by
  obtain ⟨word, listed, inside⟩ := found
  rcases Bool.or_eq_true_iff.mp inside with first | second
  · exact (ofList ⟨word, listed, first⟩).left.left
  · exact (ofList ⟨word, listed, second⟩).right

end TellsLoss

namespace Severity

/-- A message is for information if it has neither the words of a loss nor begins with a phase. -/
theorem ofMessage_eq_info_iff {message : String} :
    ofMessage message = .info ↔ ¬ TellsLoss message ∧ beginsWith message "Phase " = false := by
  have words : TellsLoss message ↔
      (contains message "Using defaults" || contains message "Using embedded defaults") = true ∨
        (contains message "skipped" || contains message "ignored") = true := by
    simp only [TellsLoss, lossWords, List.mem_cons, List.not_mem_nil, or_false, exists_eq_or_imp,
      exists_eq_left, Bool.or_eq_true, or_assoc]
  rw [words, ofMessage]
  split
  · next error => exact iff_of_false nofun fun both => both.1 (.inl error)
  · next noError =>
    split
    · next warning =>
      refine iff_of_false nofun fun ⟨silent, begins⟩ => silent (.inr ?_)
      rwa [begins, Bool.or_false] at warning
    · next noWarning =>
      rw [Bool.or_eq_true, not_or, Bool.not_eq_true (beginsWith _ _)] at noWarning
      exact iff_of_true rfl ⟨not_or.mpr ⟨noError, noWarning.1⟩, noWarning.2⟩

theorem ofMessage_ne_info_of_tellsLoss {message : String} (loss : TellsLoss message) :
    ofMessage message ≠ .info :=
  fun info => (ofMessage_eq_info_iff.mp info).1 loss

end Severity

/-! ## Notices on a configuration -/

theorem RuleNotice.tellsLoss_message (key : String) (notice : RuleNotice) :
    TellsLoss (notice.message key) := by
  cases notice with
  | unsupportedOp branch op => exact (TellsLoss.around (by decide)).left.left.left.left
  | onlyForBoolean branch => exact (TellsLoss.around (by decide)).left.left
  | notForBoolean | noClauseLeft => exact TellsLoss.around (by decide)

namespace ColumnNotice

/-- The notice is a remark on a column of which nothing is dropped. -/
def isRemark : ColumnNotice → Bool
  | .legacyTarget _ | .modeAndRule => true
  | _ => false

theorem tellsLoss_message (key : String) {notice : ColumnNotice} (loss : notice.isRemark = false) :
    TellsLoss (notice.message key) := by
  cases notice with
  | legacyTarget | modeAndRule => cases loss
  | rule notice => exact notice.tellsLoss_message key
  | unrecognized | modeForOtherType | unknownMode | illegalFilterOp =>
      exact (TellsLoss.around (by decide)).left.left.left.left
  | badSource | unknownTarget => exact (TellsLoss.around (by decide)).left.left
  | sourceMissing | targetOnModelColumn | modeOnModelColumn | ruleOnModelColumn
  | sourceOnEditableColumn | halfTarget | badTargetType | ruleWithoutTarget =>
      exact TellsLoss.around (by decide)

end ColumnNotice

namespace ConfigNotice

def isRemark : ConfigNotice → Bool
  | .column _ notice => notice.isRemark
  | _ => false

theorem tellsLoss_message {notice : ConfigNotice} (loss : notice.isRemark = false) :
    TellsLoss notice.message := by
  cases notice with
  | missing | noColumnLeft | emptyKey => exact TellsLoss.ofList (by decide)
  | unsupportedVersion version => exact (TellsLoss.ofList (by decide)).right
  | duplicateKey key => exact (TellsLoss.ofList (by decide)).left
  | column key notice => exact notice.tellsLoss_message key loss

end ConfigNotice

/-! ## Notices on a selection and on a table -/

theorem QueryNotice.beginsWith_message (notice : QueryNotice) :
    beginsWith notice.message "Phase " = true := by
  have words (phase : Int32) (rest : String) :
      beginsWith (phaseWords phase ++ rest) "Phase " = true := by
    rw [beginsWith, List.isPrefixOf_iff_prefix, phaseWords, String.append_assoc,
      String.append_assoc, String.toList_append]
    exact List.prefix_append _ _
  cases notice with
  | invalidPhase phase => exact words phase _
  | filter phase notice => exact words phase _

theorem TableNotice.tellsLoss_message (notice : TableNotice) : TellsLoss notice.message := by
  cases notice with
  | noColumn => exact TellsLoss.ofList (by decide)

/-! ## Notices on a search -/

namespace LoadNotice

def isRemark : LoadNotice → Bool
  | .config notice => notice.isRemark
  | _ => false

theorem message_failed (path : String) (reason : LoadError) :
    (failed path reason).message =
      "config load failed at " ++ (path ++ (": " ++ reason.message)) := by
  rw [← String.append_assoc, ← String.append_assoc]
  rfl

/-- A notice on a file that is passed over has no words of a loss but those that it quotes. -/
theorem tellsLoss_failed (path : String) (reason : LoadError) :
    TellsLoss (failed path reason).message ↔ TellsLoss path ∨ TellsLoss reason.message := by
  have apart : ∀ word ∈ lossWords, word ≠ "" ∧
      Apart word.toList "config load failed at ".toList ∧ Stops word.toList ": ".toList := by decide
  have each : ∀ word ∈ lossWords,
      contains (failed path reason).message word = true ↔
        contains path word = true ∨ contains reason.message word = true := by
    intro word listed
    obtain ⟨some_, front, inner⟩ := apart word listed
    rw [message_failed, contains_append_of_apart front, contains_between inner some_,
      Bool.or_eq_true]
  simp only [TellsLoss, ← exists_or, ← and_or_left]
  exact exists_congr fun word => and_congr_right (each word)

theorem beginsWith_failed (path : String) (reason : LoadError) :
    beginsWith (failed path reason).message "Phase " = false := by
  rw [message_failed, beginsWith, String.toList_append]
  rfl

theorem ofMessage_failed_iff (path : String) (reason : LoadError) :
    Severity.ofMessage (failed path reason).message = .info ↔
      ¬ TellsLoss path ∧ ¬ TellsLoss reason.message := by
  rw [Severity.ofMessage_eq_info_iff, tellsLoss_failed, not_or,
    and_iff_left (beginsWith_failed path reason)]

end LoadNotice

/-- What is told as passed over is a file that could not be read as a configuration. -/
theorem mem_failures_loadFirst {files : FileSystem} {paths : List String} {path : String}
    {reason : LoadError} (told : (path, reason) ∈ (loadFirst files paths).failures) :
    path ∈ paths ∧ (files path).isFile = true ∧ Config.load files path = .error reason := by
  induction paths with
  | nil => cases told
  | cons first rest ih =>
      rw [loadFirst] at told
      split at told
      · next file =>
        split at told
        · cases told
        · next fault failed =>
          rcases List.mem_cons.mp told with same | later
          · cases same
            exact ⟨List.mem_cons_self, file, failed⟩
          · obtain ⟨listed, others⟩ := ih later
            exact ⟨List.mem_cons_of_mem _ listed, others⟩
      · obtain ⟨listed, others⟩ := ih told
        exact ⟨List.mem_cons_of_mem _ listed, others⟩

/-- **All losses are told as warnings but one.**  A notice of checking a configuration that is told
for information is a remark on what is kept, and no notice of making a query or a table is told for
information.  In a search the same holds of all notices but those on files that could not be read as
a configuration: such a notice is told for information exactly if neither the path of the file nor
the reason holds the words of a loss. -/
theorem losses_told (raw : Option Config) (selection : List Criteria) (s : Snapshot)
    (columns : List Column) (files : FileSystem) (paths : List String) :
    (∀ n ∈ (Config.check raw).notices, Severity.ofMessage n.message = .info →
      n.isRemark = true) ∧
    (∀ n ∈ (Query.ofSelection selection).notices, Severity.ofMessage n.message ≠ .info) ∧
    (∀ n ∈ (Table.ofSnapshot s columns).notices, Severity.ofMessage n.message ≠ .info) ∧
    ∀ n ∈ (loadFirst files paths).notices,
      (Severity.ofMessage n.message = .info ∧ n.isRemark = false ↔
        ∃ path reason, n = .failed path reason ∧ path ∈ paths ∧
          Config.load files path = .error reason ∧
            ¬ TellsLoss path ∧ ¬ TellsLoss reason.message) := by
  have config : ∀ n : ConfigNotice, Severity.ofMessage n.message = .info → n.isRemark = true := by
    intro n info
    by_contra loss
    rw [Bool.not_eq_true] at loss
    exact Severity.ofMessage_ne_info_of_tellsLoss (ConfigNotice.tellsLoss_message loss) info
  refine ⟨fun n _ => config n, fun n _ info => ?_, fun n _ =>
    Severity.ofMessage_ne_info_of_tellsLoss n.tellsLoss_message, fun n told => ⟨?_, ?_⟩⟩
  · have begins := (Severity.ofMessage_eq_info_iff.mp info).2
    rw [n.beginsWith_message] at begins
    cases begins
  · rintro ⟨info, loss⟩
    cases n with
    | notFound => exact absurd info (Severity.ofMessage_ne_info_of_tellsLoss (.ofList (by decide)))
    | config n => exact absurd ((config n info).symm.trans loss) Bool.noConfusion
    | failed path reason =>
        have listed : (path, reason) ∈ (loadFirst files paths).failures := by
          simpa [Loaded.notices] using told
        obtain ⟨candidate, -, failed⟩ := mem_failures_loadFirst listed
        exact ⟨path, reason, rfl, candidate, failed,
          (LoadNotice.ofMessage_failed_iff path reason).mp info⟩
  · rintro ⟨path, reason, rfl, -, -, silent⟩
    exact ⟨(LoadNotice.ofMessage_failed_iff path reason).mpr silent, rfl⟩

def blankFile : FileSystem :=
  FileTree.state [(["a.json"], some ByteArray.empty)]

theorem load_blankFile : Config.load blankFile "a.json" = .error (.blankFile "a.json") := by
  decide

theorem failures_blankFile :
    .failed "a.json" (.blankFile "a.json") ∈ (loadFirst blankFile ["a.json"]).notices := by
  have file : (blankFile "a.json").isFile = true := by decide
  have failures : (loadFirst blankFile ["a.json"]).failures =
      [("a.json", .blankFile "a.json")] := by
    rw [loadFirst, if_pos file, load_blankFile]
    rfl
  rw [Loaded.notices, failures]
  exact List.mem_cons_self

def oldTarget : Config :=
  ⟨2, "number", ["select"], [Column.switch excludeExisting "Exclude Existing" 1]⟩

theorem losses_told_blankFile :
    (∃ n ∈ (Config.check (some oldTarget)).notices,
      Severity.ofMessage n.message = .info ∧ n.isRemark = true) ∧
    Severity.ofMessage (QueryNotice.invalidPhase 0).message ≠ .info ∧
    LoadNotice.failed "a.json" (.blankFile "a.json") ∈ (loadFirst blankFile ["a.json"]).notices ∧
    Severity.ofMessage (LoadNotice.failed "a.json" (.blankFile "a.json")).message = .info := by
  obtain ⟨config, query, -, search⟩ :=
    losses_told (some oldTarget) [⟨0, []⟩] ⟨[], [], ∅⟩ [] blankFile ["a.json"]
  have remark : ∃ n ∈ (Config.check (some oldTarget)).notices,
      Severity.ofMessage n.message = .info := by decide +kernel
  obtain ⟨n, told, info⟩ := remark
  have silent : ¬ TellsLoss "a.json" ∧
      ¬ TellsLoss (LoadError.blankFile "a.json").message := by decide +kernel
  have failed := (search _ failures_blankFile).mpr
    ⟨"a.json", _, rfl, List.mem_cons_self, load_blankFile, silent⟩
  exact ⟨⟨n, told, info, config n told info⟩, query _ (by decide), failures_blankFile, failed.1⟩

/-- A loss that is told for information. -/
theorem failure_not_warned :
    ∃ n ∈ (loadFirst blankFile ["a.json"]).notices, n.isRemark = false ∧
      n.message = "config load failed at a.json: config file is empty: a.json" ∧
      Severity.ofMessage n.message = .info :=
  ⟨_, failures_blankFile, rfl, by decide, by decide +kernel⟩

end PhaseTable
