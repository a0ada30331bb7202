/-
# PhaseTable.Proofs.Config.Loading -- the first candidate that loads decides

A candidate loads if it is a file that is read as UTF-8, is not blank and is a configuration
(`loaded?`).  A search goes from candidate to candidate: one that loads ends it, and of one that
does not nothing is left but a notice if it is a file (`loadFirst_of_loaded`,
`loadFirst_of_not_loaded`).  By induction the result of a search is that of the first candidate that
loads, behind the notices on the files before it (`loadFirst_eq`).
-/
import Mathlib.Data.List.TakeWhile
import PhaseTable.Config.Loading

namespace PhaseTable

set_option autoImplicit false

open Text

variable {files : FileSystem} {path : String}

/-! ## One candidate -/

/-- The configuration that a candidate stands for, if it loads: a file that is read as UTF-8, is
not blank and is a configuration. -/
def loaded? (files : FileSystem) (path : String) : Option Config :=
  match files path with
  | .file content =>
      (String.fromUTF8? content).bind fun text =>
        if blank text then none else (Config.parse text).toOption
  | _ => none

def failureMessage (files : FileSystem) (path : String) : String :=
  match Config.load files path with
  | .error reason => "config load failed at " ++ path ++ ": " ++ reason.message
  | .ok _ => ""

/-- Why a candidate is passed over with a notice: it is a file and does not load. -/
def failure? (files : FileSystem) (path : String) : Option (String × LoadError) :=
  if (files path).isFile then
    match Config.load files path with
    | .error reason => some (path, reason)
    | .ok _ => none
  else none

/-- A candidate loads if it is a file from which a configuration is read. -/
theorem loaded?_eq_some_iff {config : Config} :
    loaded? files path = some config ↔
      (files path).isFile = true ∧ Config.load files path = .ok config := by
  unfold loaded? Config.load
  cases files path with
  | file content =>
      cases read : String.fromUTF8? content with
      | none => simp [PathState.readText, read]
      | some text =>
          cases empty : blank text with
          | true => simp [PathState.readText, read, empty]
          | false =>
              cases parsed : Config.parse text <;>
                simp [PathState.readText, PathState.isFile, read, empty, parsed, Except.toOption,
                  Except.mapError]
  | absent | belowFile | tooLong | unnameable | directory | locked kind text =>
      simp [PathState.readText]

theorem failureMessage_of_error {reason : LoadError}
    (load : Config.load files path = .error reason) :
    failureMessage files path = (LoadNotice.failed path reason).message := by
  unfold failureMessage
  rw [load]
  rfl

/-! ## One step of a search -/

/-- A candidate that loads ends the search. -/
theorem loadFirst_of_loaded {config : Config} (loads : loaded? files path = some config)
    (rest : List String) :
    loadFirst files (path :: rest) = ⟨[], some path, Config.check (some config)⟩ := by
  obtain ⟨file, load⟩ := loaded?_eq_some_iff.mp loads
  rw [loadFirst, if_pos file, load]

/-- Of a candidate that does not load nothing is left but the notice on it. -/
theorem loadFirst_of_not_loaded (fails : loaded? files path = none) (rest : List String) :
    loadFirst files (path :: rest) =
      { loadFirst files rest with
        failures := (failure? files path).toList ++ (loadFirst files rest).failures } := by
  rw [loadFirst, failure?]
  cases file : (files path).isFile with
  | false => simp
  | true =>
      cases load : Config.load files path with
      | error reason => simp
      | ok config =>
          rw [loaded?_eq_some_iff.mpr ⟨file, load⟩] at fails
          cases fails

/-! ## Searches -/

/-- The result of a search: the notices on the candidates before the first one that loads, and what
comes of that one, or of the built-in configuration if there is none. -/
theorem loadFirst_eq (files : FileSystem) (paths : List String) :
    loadFirst files paths =
      { failures := (paths.takeWhile fun path => (loaded? files path).isNone).filterMap
          (failure? files)
        path? := paths.find? fun path => (loaded? files path).isSome
        checked := Config.check (some ((paths.findSome? (loaded? files)).getD .default)) } := by
  induction paths with
  | nil => rfl
  | cons path rest ih =>
      cases loads : loaded? files path with
      | none =>
          rw [loadFirst_of_not_loaded loads, ih]
          cases told : failure? files path <;> simp [loads, told]
      | some config =>
          rw [loadFirst_of_loaded loads]
          simp [loads]

/-- The failures that are told are those of the candidates that are files and do not load. -/
theorem messages_failures {paths : List String}
    (fail : ∀ path ∈ paths, loaded? files path = none) :
    (paths.filterMap (failure? files)).map (fun failure =>
        (LoadNotice.failed failure.1 failure.2).message) =
      (paths.filter fun path => (files path).isFile).map (failureMessage files) := by
  induction paths with
  | nil => rfl
  | cons path rest ih =>
      obtain ⟨first, others⟩ := List.forall_mem_cons.mp fail
      cases file : (files path).isFile with
      | false =>
          have silent : failure? files path = none := by simp [failure?, file]
          rw [List.filterMap_cons_none silent, List.filter_cons_of_neg (by simp [file]), ih others]
      | true =>
          cases load : Config.load files path with
          | ok config =>
              rw [loaded?_eq_some_iff.mpr ⟨file, load⟩] at first
              cases first
          | error reason =>
              have told : failure? files path = some (path, reason) := by
                simp [failure?, file, load]
              rw [List.filterMap_cons_some told, List.filter_cons_of_pos (by simp [file]),
                List.map_cons, List.map_cons, failureMessage_of_error load, ih others]

/-- A candidate that is no file is as good as none. -/
theorem loadFirst_without (missing : (files path).isFile = false) (before after : List String) :
    loadFirst files (before ++ path :: after) = loadFirst files (before ++ after) := by
  induction before with
  | nil => rw [List.nil_append, List.nil_append, loadFirst, if_neg (by simp [missing])]
  | cons first before ih =>
      rw [List.cons_append, List.cons_append]
      cases loads : loaded? files first with
      | none => rw [loadFirst_of_not_loaded loads, loadFirst_of_not_loaded loads, ih]
      | some config => rw [loadFirst_of_loaded loads, loadFirst_of_loaded loads]

/-- After a candidate that loads nothing counts: no candidate, and no file but those before. -/
theorem loadFirst_congr {others : FileSystem} {before : List String}
    (loads : (loaded? files path).isSome = true) (same : ∀ p ∈ before ++ [path], others p = files p)
    (after behind : List String) :
    loadFirst others (before ++ path :: behind) = loadFirst files (before ++ path :: after) := by
  have alike : ∀ p, others p = files p →
      loaded? others p = loaded? files p ∧ failure? others p = failure? files p := by
    intro p same
    simp only [loaded?, failure?, Config.load, same, and_self]
  induction before with
  | nil =>
      obtain ⟨config, found⟩ := Option.isSome_iff_exists.mp loads
      have stillFound := (alike path (same path (List.mem_singleton_self path))).1.trans found
      exact (loadFirst_of_loaded stillFound behind).trans (loadFirst_of_loaded found after).symm
  | cons first before ih =>
      obtain ⟨here, later⟩ := List.forall_mem_cons.mp same
      obtain ⟨sameLoads, told⟩ := alike first here
      rw [List.cons_append, List.cons_append]
      cases found : loaded? files first with
      | none =>
          rw [loadFirst_of_not_loaded found, loadFirst_of_not_loaded (sameLoads.trans found), told,
            ih later]
      | some config => rw [loadFirst_of_loaded found, loadFirst_of_loaded (sameLoads.trans found)]

/-- **The first candidate that loads decides.**  Whatever stands under the candidates, the result of
a search is that of checking the first one that loads, or the built-in configuration if there is
none.  It is told first of each file before it, in order, that it was not loaded, then that none
was found, if so, and then what checking told.  A candidate that is no file changes nothing, and
after one that loads no candidate and no other file does. -/
theorem loadFirst_decides (files : FileSystem) (paths : List String) :
    (loadFirst files paths).checked =
        Config.check (some ((paths.findSome? (loaded? files)).getD .default)) ∧
    (loadFirst files paths).notices.map LoadNotice.message =
        ((paths.takeWhile fun path => (loaded? files path).isNone).filter fun path =>
            (files path).isFile).map (failureMessage files) ++
          (if ∀ path ∈ paths, loaded? files path = none then
            ["config not found. Using embedded defaults."] else []) ++
          (loadFirst files paths).checked.notices.map ConfigNotice.message ∧
    (∀ before path after, paths = before ++ path :: after → (files path).isFile = false →
      loadFirst files paths = loadFirst files (before ++ after)) ∧
    ∀ before path after, paths = before ++ path :: after → (loaded? files path).isSome = true →
      ∀ (files_ : FileSystem) (after_ : List String),
        (∀ p ∈ before ++ [path], files_ p = files p) →
          loadFirst files_ (before ++ path :: after_) = loadFirst files paths := by
  refine ⟨?_, ?_, ?_, ?_⟩
  · rw [loadFirst_eq]
  · have found : paths.find? (fun path => (loaded? files path).isSome) = none ↔
        ∀ path ∈ paths, loaded? files path = none := by simp
    have failures : ∀ path ∈ paths.takeWhile fun path => (loaded? files path).isNone,
        loaded? files path = none := fun path member => by
      simpa using List.mem_takeWhile_imp member
    rw [← messages_failures failures, Loaded.notices, List.map_append, List.map_append,
      List.map_map, List.map_map, loadFirst_eq, apply_ite (List.map LoadNotice.message)]
    simp only [found]
    rfl
  · rintro before path after rfl missing
    exact loadFirst_without missing before after
  · rintro before path after rfl loads files_ after_ same
    exact loadFirst_congr loads same after after_

/-- A blank file, one that is refused and a configuration without columns. -/
def bareFiles : FileSystem := fun path =>
  if path = "blank.json" then .file ⟨#[32]⟩
  else if path = "locked.json" then .locked "PermissionDenied" "Permission denied (os error 13)"
  else if path = "bare.json" then .file ⟨#[123, 125]⟩
  else .absent

theorem loaded?_bare :
    loaded? bareFiles "bare.json" = some ⟨supportedVersion, "number", [], []⟩ := by
  have file : bareFiles "bare.json" = .file ⟨#[123, 125]⟩ := rfl
  have text : String.fromUTF8? ⟨#[123, 125]⟩ = some "\x7b\x7d" := rfl
  have document : Json.read "\x7b\x7d" = (.object [] none, false) := by
    simp only [Json.read, Json.readValue, Json.readMembers]
    rfl
  have config : Config.parse "\x7b\x7d" = .ok ⟨supportedVersion, "number", [], []⟩ := by
    rw [Config.parse, Decode.wholeText, document]
    rfl
  simp only [loaded?, file, text, Option.bind_some, config]
  rfl

theorem failureMessage_bare :
    failureMessage bareFiles "blank.json" =
      "config load failed at blank.json: config file is empty: blank.json" ∧
    failureMessage bareFiles "locked.json" =
      "config load failed at locked.json: io error: Permission denied (os error 13)" := by
  have blank : Config.load bareFiles "blank.json" = .error (.blankFile "blank.json") := rfl
  have locked : Config.load bareFiles "locked.json" = .error (.unreadable
      (.refused "PermissionDenied" "Permission denied (os error 13)")) := rfl
  exact ⟨(failureMessage_of_error blank).trans rfl, (failureMessage_of_error locked).trans rfl⟩

/-- Nothing of the configuration that is loaded is kept, and still no later candidate counts. -/
theorem loadFirst_decides_bare :
    (loadFirst bareFiles ["blank.json", "none.json", "locked.json", "bare.json"]).notices.map
        LoadNotice.message =
      ["config load failed at blank.json: config file is empty: blank.json",
        "config load failed at locked.json: io error: Permission denied (os error 13)",
        "config has no valid columns. Using defaults."] ∧
    loadFirst bareFiles ["blank.json", "none.json", "locked.json", "bare.json"] =
      loadFirst bareFiles ["blank.json", "locked.json", "bare.json"] ∧
    loadFirst (fun path => if path = "later.json" then .file ⟨#[123, 125]⟩ else bareFiles path)
        ["blank.json", "none.json", "locked.json", "bare.json", "later.json"] =
      loadFirst bareFiles ["blank.json", "none.json", "locked.json", "bare.json"] := by
  obtain ⟨checked, messages, passed, final⟩ :=
    loadFirst_decides bareFiles ["blank.json", "none.json", "locked.json", "bare.json"]
  have blank : loaded? bareFiles "blank.json" = none := rfl
  have absent : loaded? bareFiles "none.json" = none := rfl
  have locked : loaded? bareFiles "locked.json" = none := rfl
  have files : (["blank.json", "none.json", "locked.json"].filter fun path =>
      (bareFiles path).isFile) = ["blank.json", "locked.json"] := by decide
  have notices : (Config.check (some ⟨supportedVersion, "number", [], []⟩)).notices.map
      ConfigNotice.message = ["config has no valid columns. Using defaults."] := rfl
  refine ⟨messages.trans ?_,
    passed ["blank.json"] "none.json" ["locked.json", "bare.json"] rfl (by decide),
    final ["blank.json", "none.json", "locked.json"] "bare.json" [] rfl (by rw [loaded?_bare]; rfl)
      _ ["later.json"] (by simp)⟩
  rw [checked]
  simp only [List.takeWhile, List.findSome?, blank, absent, locked, loaded?_bare,
    Option.isNone_none, Option.isNone_some, Option.getD_some, files, notices]
  simp [loaded?_bare, failureMessage_bare]

end PhaseTable
