/-
# PhaseTable.Proofs.Config.TakenKeys -- a column takes its key, whether it is kept or not

Columns share one thing only: the keys that are taken.  Where its key is free a column takes it,
and what is kept of the column depends on nothing else (`Column.fit?`).  One more key that is taken
keeps out the columns with that key and no others (`kept_of_more`), and it keeps out one at most,
the first of them (`kept_under`).

A column that is dropped for another reason than its key has taken the key as well.  So the others
are kept as they would be without it, unless one of them would be kept under its key
(`Config.check_without_rejected`).
-/
import PhaseTable.Proofs.Config.FixedPoint

namespace PhaseTable

set_option autoImplicit false

open Text

/-! ## One column -/

namespace Column

/-- The key that the column takes: in lower case, and none if it is blank. -/
def takenKey? (c : Column) : Option String :=
  (nonBlank? c.key).map lowerCase

/-- What is kept of the column where its key is free. -/
def fit? (c : Column) : Option Column :=
  (checkColumn [] c).1

end Column

section Steps

variable {seen : List String} {c : Column} {key : String}

theorem checkColumn_of_blank (keyless : c.takenKey? = none) :
    checkColumn seen c = (none, [.emptyKey], seen) := by
  have nothing : nonBlank? c.key = none := Option.map_eq_none_iff.mp keyless
  simp only [checkColumn, nothing]

theorem checkColumn_of_taken (named : c.takenKey? = some key) (taken : key ∈ seen) :
    ∃ written, checkColumn seen c = (none, [.duplicateKey written], seen) := by
  obtain ⟨written, found, rfl⟩ := Option.map_eq_some_iff.mp named
  exact ⟨written, by simp only [checkColumn, found, if_pos taken]⟩

/-- Where its key is free, the column takes the key and is checked by itself. -/
theorem checkColumn_of_free (named : c.takenKey? = some key) (free : key ∉ seen) :
    checkColumn seen c = (c.fit?, (checkColumn [] c).2.1, key :: seen) := by
  obtain ⟨written, found, rfl⟩ := Option.map_eq_some_iff.mp named
  have alone : lowerCase written ∉ ([] : List String) := List.not_mem_nil
  simp only [Column.fit?, checkColumn, found, if_neg free, if_neg alone]
  cases c.check written with
  | error reason => rfl
  | ok result => rfl

theorem fit?_of_blank (keyless : c.takenKey? = none) : c.fit? = none := by
  rw [Column.fit?, checkColumn_of_blank keyless]

/-- What is kept of a column has the key that the column takes. -/
theorem lowerKey_of_fit? (named : c.takenKey? = some key) {kept : Column}
    (fits : c.fit? = some kept) : kept.lowerKey = key := by
  have step : checkColumn [] c = _ := checkColumn_of_free named List.not_mem_nil
  rw [fits] at step
  obtain ⟨-, -, same⟩ := checkColumn_kept step
  exact (List.cons.inj same).1.symm

theorem filter_fit? (named : c.takenKey? = some key) (p : String → Bool) :
    c.fit?.toList.filter (p ·.lowerKey) = if p key then c.fit?.toList else [] := by
  cases fits : c.fit? with
  | none => simp
  | some kept => simp [List.filter_cons, lowerKey_of_fit? named fits]

end Steps

/-! ## All columns -/

theorem kept_cons (seen : List String) (c : Column) (rest : List Column) :
    (checkColumns seen (c :: rest)).1 =
      (checkColumn seen c).1.toList ++ (checkColumns (checkColumn seen c).2.2 rest).1 := by
  rw [checkColumns]

/-- The keys that are taken after some columns. -/
def seenAfter (seen : List String) (columns : List Column) : List String :=
  columns.foldl (fun seen c => (checkColumn seen c).2.2) seen

theorem kept_append (seen : List String) (before after : List Column) :
    (checkColumns seen (before ++ after)).1 =
      (checkColumns seen before).1 ++ (checkColumns (seenAfter seen before) after).1 := by
  induction before generalizing seen with
  | nil => rfl
  | cons c rest ih =>
      rw [List.cons_append, kept_cons, kept_cons, ih, List.append_assoc]
      rfl

/-- One more key that is taken keeps out the columns with that key. -/
theorem kept_of_more {seen taken : List String} {key : String}
    (more : ∀ k, k ∈ taken ↔ k = key ∨ k ∈ seen) (columns : List Column) :
    (checkColumns taken columns).1 =
      (checkColumns seen columns).1.filter (·.lowerKey ≠ key) := by
  induction columns generalizing seen taken with
  | nil => rfl
  | cons c rest ih =>
      rw [kept_cons, kept_cons, List.filter_append]
      cases named : c.takenKey? with
      | none =>
          rw [checkColumn_of_blank named, checkColumn_of_blank named]
          exact ih more
      | some own =>
          have fit := filter_fit? named (· ≠ key)
          by_cases known : own ∈ seen
          · obtain ⟨written, step⟩ := checkColumn_of_taken named known
            obtain ⟨_, stepMore⟩ := checkColumn_of_taken named ((more own).mpr (.inr known))
            rw [step, stepMore]
            exact ih more
          · rw [checkColumn_of_free named known, fit]
            by_cases same : own = key
            · -- the key is taken on the one side, and from here on it is on the other side too
              subst same
              obtain ⟨written, step⟩ := checkColumn_of_taken named ((more own).mpr (.inl rfl))
              have later : ∀ k, k ∈ taken ↔ k = own ∨ k ∈ own :: seen := by
                intro k
                rw [more, List.mem_cons, ← or_assoc, or_self]
              rw [step, if_neg (by simp)]
              exact ih later
            · have free : own ∉ taken := by
                rw [more, not_or]
                exact ⟨same, known⟩
              have later : ∀ k, k ∈ own :: taken ↔ k = key ∨ k ∈ own :: seen := by
                intro k
                rw [List.mem_cons, List.mem_cons, more, or_left_comm]
              rw [checkColumn_of_free named free, if_pos (by simpa using same)]
              exact congrArg _ (ih later)

/-- Under a free key the first column with the key is kept, if it is fit, and no other. -/
theorem kept_under {seen : List String} {key : String} (free : key ∉ seen)
    (columns : List Column) :
    (checkColumns seen columns).1.filter (·.lowerKey = key) =
      ((columns.find? (·.takenKey? = some key)).bind Column.fit?).toList := by
  induction columns generalizing seen with
  | nil => rfl
  | cons c rest ih =>
      rw [kept_cons, List.filter_append, List.find?_cons]
      cases named : c.takenKey? with
      | none =>
          rw [checkColumn_of_blank named]
          simpa using ih free
      | some own =>
          have fit := filter_fit? named (· = key)
          by_cases known : own ∈ seen
          · obtain ⟨written, step⟩ := checkColumn_of_taken named known
            have other : own ≠ key := fun same => free (same ▸ known)
            rw [step]
            simpa [other] using ih free
          · rw [checkColumn_of_free named known, fit]
            by_cases same : own = key
            · subst same
              have others : (checkColumns (own :: seen) rest).1.filter (·.lowerKey = own) = [] := by
                rw [List.filter_eq_nil_iff]
                intro d listed keyed
                have untaken := ((checkColumns_spec (own :: seen) rest).1 d listed).2
                rw [of_decide_eq_true keyed] at untaken
                exact untaken List.mem_cons_self
              simp [others]
            · have stillFree : key ∉ own :: seen := by
                rw [List.mem_cons, not_or]
                exact ⟨Ne.symm same, free⟩
              simpa [same] using ih stillFree

/-! ## The configuration -/

namespace Config

def ofKept (config : Config) (kept : List Column) : Config :=
  if kept = [] then default
  else
    { version := supportedVersion
      phaseKey := (nonBlank? config.phaseKey).getD "number"
      actions := checkActions config.actions
      columns := kept.mergeSort Column.precedes }

theorem config_check_of_version {config : Config} (version : config.version = supportedVersion) :
    (check (some config)).config = config.ofKept (checkColumns [] config.columns).1 := by
  simp only [check, version, ne_eq, not_true_eq_false, if_false]
  cases checkColumns [] config.columns with
  | mk kept notices =>
      cases kept with
      | nil => rfl
      | cons c rest => rfl

theorem notices_check_of_version {config : Config} (version : config.version = supportedVersion) :
    (check (some config)).notices = (checkColumns [] config.columns).2 ++
      noticeIf (checkColumns [] config.columns).1.isEmpty .noColumnLeft := by
  simp only [check, version, ne_eq, not_true_eq_false, if_false]
  cases checkColumns [] config.columns with
  | mk kept notices =>
      cases kept with
      | nil => rfl
      | cons c rest => exact (List.append_nil notices).symm

/-- One column more makes another configuration, also where the built-in one takes over. -/
theorem ofKept_ne_of_longer (config : Config) {kept more : List Column}
    (longer : more.length = kept.length + 1) : config.ofKept more ≠ config.ofKept kept := by
  intro same
  have some_ : more ≠ [] := by
    rintro rfl
    simp at longer
  have lengths := congrArg (·.columns.length) same
  by_cases none_ : kept = []
  · have builtIn : default.columns.length = 6 := by decide
    simp [ofKept, some_, none_, builtIn, longer] at lengths
  · simp [ofKept, some_, none_, longer] at lengths

end Config

namespace Column

/-- The column is dropped after some others, for another reason than that its key is taken. -/
def RejectedAfter (before : List Column) (c : Column) : Prop :=
  (checkColumn (seenAfter [] before) c).1 = none ∧
    ∀ written, .duplicateKey written ∉ (checkColumn (seenAfter [] before) c).2.1

/-- What would be kept under the key of a column if the column were not there: the first column with
the key among those that come after it, if it is fit. -/
def heir? (c : Column) (after : List Column) : Option Column :=
  (after.find? (·.takenKey? = c.takenKey?)).bind fit?

/-- There is no column that would be kept under a blank key. -/
theorem heir?_of_blank {c : Column} (keyless : c.takenKey? = none) (after : List Column) :
    c.heir? after = none := by
  rw [heir?, keyless, Option.bind_eq_none_iff]
  intro d first
  have alike : d.takenKey? = none := by simpa using List.find?_some first
  exact fit?_of_blank alike

end Column

/-- Without a rejected column the same columns are kept, or one more if the column has an heir. -/
theorem kept_without_rejected {before : List Column} {c : Column}
    (rejected : c.RejectedAfter before) (after : List Column) :
    match c.heir? after with
    | none => (checkColumns [] (before ++ after)).1 = (checkColumns [] (before ++ c :: after)).1
    | some _ => (checkColumns [] (before ++ after)).1.length =
        (checkColumns [] (before ++ c :: after)).1.length + 1 := by
  obtain ⟨dropped, untaken⟩ := rejected
  rw [kept_append, kept_append, kept_cons, dropped, Option.toList_none, List.nil_append]
  cases named : c.takenKey? with
  | none =>
      rw [Column.heir?_of_blank named, checkColumn_of_blank named]
  | some key =>
      have free : key ∉ seenAfter [] before := by
        intro taken
        obtain ⟨written, step⟩ := checkColumn_of_taken named taken
        rw [step] at untaken
        exact untaken written (List.mem_singleton_self _)
      have more : ∀ k, k ∈ key :: seenAfter [] before ↔ k = key ∨ k ∈ seenAfter [] before :=
        fun _ => List.mem_cons
      -- what is kept of the later columns is what is kept beside the key, and the heir under it
      have under := kept_under free after
      rw [checkColumn_of_free named free, kept_of_more more, Column.heir?, named]
      generalize (checkColumns (seenAfter [] before) after).1 = kept at under ⊢
      cases heir? : (after.find? (·.takenKey? = some key)).bind Column.fit? with
      | none =>
          rw [heir?, Option.toList_none, List.filter_eq_nil_iff] at under
          have all : kept.filter (·.lowerKey ≠ key) = kept := by
            rw [List.filter_eq_self]
            simpa using under
          dsimp only
          rw [all]
      | some heir =>
          rw [heir?, Option.toList_some] at under
          have parts := List.length_eq_length_filter_add (l := kept) (·.lowerKey = key)
          rw [under, List.length_singleton] at parts
          simp only [List.length_append, ne_eq, decide_not, parts]
          omega

namespace Config

/-- **A column that is rejected has no effect but that its key is taken.**  Let a column of a
configuration be dropped, and not because its key is taken.  Checking the configuration without the
column gives the same configuration, unless a later column has the same key up to case and would be
kept in its place. -/
theorem check_without_rejected {config : Config} {before after : List Column} {c : Column}
    (version : config.version = supportedVersion) (columns : config.columns = before ++ c :: after)
    (rejected : c.RejectedAfter before) :
    (check (some { config with columns := before ++ after })).config =
        (check (some config)).config ↔ c.heir? after = none := by
  have without : (check (some { config with columns := before ++ after })).config =
      config.ofKept (checkColumns [] (before ++ after)).1 := config_check_of_version version
  have kept := kept_without_rejected rejected after
  rw [without, config_check_of_version version, columns]
  cases heir? : c.heir? after with
  | none =>
      rw [heir?] at kept
      exact iff_of_true (congrArg config.ofKept kept) rfl
  | some heir =>
      rw [heir?] at kept
      exact iff_of_false (config.ofKept_ne_of_longer kept) (Option.some_ne_none heir)

def profiles : Column :=
  { Column.blank with
    key := "profile", label := "Profile", objectType := some .part, attr := "profile" }

/-- The column with an aggregate that there is not. -/
def medianProfiles : Column :=
  { profiles with unrecognized := [(.aggregate, "Median")] }

def numbers : Column :=
  { Column.blank with key := "number", label := "No.", objectType := some .phase, attr := "number" }

theorem rejected_medianProfiles : medianProfiles.RejectedAfter [] := by
  have told : (checkColumn [] medianProfiles).2.1 =
      [.column "profile" (.unrecognized .aggregate "Median")] := by decide
  refine ⟨by decide, fun written => ?_⟩
  show _ ∉ (checkColumn [] medianProfiles).2.1
  rw [told]
  simp

/-- A table in which the second column under a key is rejected too. -/
def hopeless : Config where
  version := 2
  phaseKey := "number"
  actions := ["select"]
  columns := [medianProfiles, { profiles with key := " Profile", attr := "" }, numbers]

theorem check_without_rejected_hopeless :
    hopeless.version = supportedVersion ∧ medianProfiles.RejectedAfter [] ∧
    (check (some { hopeless with columns := hopeless.columns.tail })).config =
      (check (some hopeless)).config := by
  have columns : hopeless.columns = [] ++ medianProfiles :: hopeless.columns.tail := rfl
  have without := check_without_rejected rfl columns rejected_medianProfiles
  exact ⟨rfl, rejected_medianProfiles, without.mpr (by decide)⟩

/-- A table in which a column is written right after it was rejected.  It would be kept if the
rejected one were not there. -/
def mended : Config :=
  ⟨2, "number", ["select"], [medianProfiles, profiles, numbers]⟩

theorem mended_column_lost :
    mended.version = supportedVersion ∧
    mended.columns = [] ++ medianProfiles :: [profiles, numbers] ∧
    medianProfiles.RejectedAfter [] ∧
    (check (some { mended with columns := [] ++ [profiles, numbers] })).config ≠
      (check (some mended)).config := by
  have kept : (checkColumns [] mended.columns).1 = [numbers] := by decide
  have keptWithout : (checkColumns [] ([] ++ [profiles, numbers])).1 = [profiles, numbers] := by
    decide
  refine ⟨rfl, rfl, rejected_medianProfiles, ?_⟩
  rw [config_check_of_version rfl, config_check_of_version rfl, kept, keptWithout]
  exact ofKept_ne_of_longer mended rfl

end Config

end PhaseTable
