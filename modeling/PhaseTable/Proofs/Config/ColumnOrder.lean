/-
# PhaseTable.Proofs.Config.ColumnOrder -- columns with distinct keys can be written in any order

Columns share nothing but the keys that are taken.  Where no two of them have the same key up to
case, each is checked as if it were alone (`checkColumns_of_distinct`), so another order of the
file gives the same columns and the same notices in another order.  What is kept is sorted, and
columns with distinct keys are sorted without ties (`Column.mergeSort_eq_of_perm`).  So the
configuration is the same (`Config.check_reordered`).
-/
import PhaseTable.Proofs.Config.TakenKeys

namespace PhaseTable

set_option autoImplicit false

open Text

/-! ## Checking without taken keys -/

namespace Column

/-- The notices on the column where its key is free. -/
def ownNotices (c : Column) : List ConfigNotice :=
  (checkColumn [] c).2.1

end Column

/-- A column whose key is free is checked as if it were alone. -/
theorem checkColumn_alone {seen : List String} {c : Column}
    (free : ∀ key ∈ c.takenKey?, key ∉ seen) :
    checkColumn seen c = (c.fit?, c.ownNotices, c.takenKey?.toList ++ seen) := by
  cases named : c.takenKey? with
  | none =>
      rw [checkColumn_of_blank named, fit?_of_blank named, Column.ownNotices,
        checkColumn_of_blank named]
      rfl
  | some key =>
      rw [checkColumn_of_free named (free key named)]
      rfl

/-- Columns with distinct free keys are each checked as if they were alone. -/
theorem checkColumns_of_distinct {seen : List String} {columns : List Column}
    (distinct_ : (columns.filterMap Column.takenKey?).Nodup)
    (free : ∀ key ∈ columns.filterMap Column.takenKey?, key ∉ seen) :
    checkColumns seen columns =
      (columns.filterMap Column.fit?, columns.flatMap Column.ownNotices) := by
  induction columns generalizing seen with
  | nil => rfl
  | cons c rest ih =>
      have step := checkColumn_alone fun key named =>
        free key (List.mem_filterMap.mpr ⟨c, List.mem_cons_self, named⟩)
      have others : (rest.filterMap Column.takenKey?).Nodup :=
        distinct_.sublist ((List.sublist_cons_self c rest).filterMap _)
      have later : ∀ key ∈ rest.filterMap Column.takenKey?, key ∉ c.takenKey?.toList ++ seen := by
        intro key listed taken
        rcases List.mem_append.mp taken with own | taken
        · rw [List.filterMap_cons_some (Option.mem_toList.mp own)] at distinct_
          exact (List.nodup_cons.mp distinct_).1 listed
        · obtain ⟨d, member, named⟩ := List.mem_filterMap.mp listed
          have listed' := List.mem_filterMap.mpr ⟨d, List.mem_cons_of_mem c member, named⟩
          exact free key listed' taken
      simp only [checkColumns, step, ih others later, List.flatMap_cons]
      cases fit : c.fit? with
      | none => rw [List.filterMap_cons_none fit]; rfl
      | some kept => rw [List.filterMap_cons_some fit]; rfl

/-! ## Sorting -/

namespace Column

theorem Before.asymm {c d : Column} (before : c.Before d) : ¬ d.Before c := by
  rintro (lower | ⟨same, smaller⟩)
  · rcases before with lower' | ⟨same', -⟩
    · exact Int32.lt_asymm lower lower'
    · exact Int32.lt_irrefl (same' ▸ lower)
  · rcases before with lower' | ⟨-, smaller'⟩
    · exact Int32.lt_irrefl (same ▸ lower')
    · exact String.lt_asymm smaller smaller'

/-- Columns with distinct keys are sorted in one way, whatever order they come in. -/
theorem mergeSort_eq_of_perm {columns others : List Column}
    (distinct_ : (columns.map lowerKey).Nodup) (reordered : others.Perm columns) :
    others.mergeSort precedes = columns.mergeSort precedes := by
  have distinct' : (others.map lowerKey).Nodup :=
    (reordered.map lowerKey).nodup_iff.mpr distinct_
  have sorted : (others.mergeSort precedes).Perm (columns.mergeSort precedes) :=
    (others.mergeSort_perm precedes).trans (reordered.trans (columns.mergeSort_perm precedes).symm)
  exact sorted.eq_of_pairwise (fun _ _ _ _ before after => absurd after before.asymm)
    (ascending_mergeSort distinct') (ascending_mergeSort distinct_)

end Column

/-! ## The configuration -/

namespace Config

/-- The configuration that is made of columns with distinct keys does not hang on their order. -/
theorem ofKept_eq_of_perm (config : Config) {kept others : List Column}
    (distinct_ : (kept.map Column.lowerKey).Nodup) (reordered : others.Perm kept) :
    config.ofKept others = config.ofKept kept := by
  have nothing : others = [] ↔ kept = [] := by
    rw [← List.isEmpty_iff, ← List.isEmpty_iff, reordered.isEmpty_eq]
  simp only [ofKept, nothing, Column.mergeSort_eq_of_perm distinct_ reordered]

/-- With distinct keys, the configuration and its notices are made of the columns one by one. -/
theorem check_of_distinct {config : Config} (version : config.version = supportedVersion)
    (distinct_ : (config.columns.filterMap Column.takenKey?).Nodup) :
    (check (some config)).config = config.ofKept (config.columns.filterMap Column.fit?) ∧
      (check (some config)).notices = config.columns.flatMap Column.ownNotices ++
        noticeIf (config.columns.filterMap Column.fit?).isEmpty .noColumnLeft ∧
      ((config.columns.filterMap Column.fit?).map Column.lowerKey).Nodup := by
  have alone : checkColumns [] config.columns = _ :=
    checkColumns_of_distinct distinct_ fun _ _ => List.not_mem_nil
  have keys := (checkColumns_spec [] config.columns).2
  rw [alone] at keys
  rw [config_check_of_version version, notices_check_of_version version, alone]
  exact ⟨rfl, rfl, keys⟩

/-- **Columns with distinct keys can be written in any order.**  If no two columns have the same key
up to case, every order of the columns gives the same configuration.  The notices are the same ones
too, in the order of the columns. -/
theorem check_reordered {config : Config} {columns : List Column}
    (distinct_ : (config.columns.filterMap Column.takenKey?).Nodup)
    (reordered : columns.Perm config.columns) :
    (check (some { config with columns })).config = (check (some config)).config ∧
      (check (some { config with columns })).notices.Perm (check (some config)).notices := by
  by_cases version : config.version = supportedVersion
  · have version' : { config with columns }.version = supportedVersion := version
    have distinct' : (columns.filterMap Column.takenKey?).Nodup :=
      (reordered.filterMap _).nodup_iff.mpr distinct_
    obtain ⟨made, told, keys⟩ := check_of_distinct version distinct_
    obtain ⟨made', told', -⟩ := check_of_distinct version' distinct'
    have kept := reordered.filterMap Column.fit?
    rw [made, made', told, told']
    refine ⟨ofKept_eq_of_perm config keys kept, ?_⟩
    rw [kept.isEmpty_eq]
    exact (reordered.flatMap_right _).append_right _
  · -- whatever the columns are, the built-in configuration takes over
    have same : check (some { config with columns }) = check (some config) := by
      simp only [check, ne_eq, version, not_false_eq_true, if_true]
    rw [same]
    exact ⟨rfl, .refl _⟩

/-- A table with columns of one number, two of which have no key and one of which shows nothing. -/
def shuffled : Config where
  version := 2
  phaseKey := "number"
  actions := ["select"]
  columns := [
    { profiles with key := "b" },
    { Column.blank with key := " " },
    { profiles with key := "A" },
    { Column.blank with key := "lost" },
    numbers,
    { Column.blank with label := "Nameless" }]

theorem check_reordered_shuffled :
    (shuffled.columns.filterMap Column.takenKey?).Nodup ∧
    shuffled.columns.reverse.Perm shuffled.columns ∧
    (check (some { shuffled with columns := shuffled.columns.reverse })).config =
      (check (some shuffled)).config ∧
    (check (some { shuffled with columns := shuffled.columns.reverse })).notices.Perm
      (check (some shuffled)).notices := by
  have distinct_ : (shuffled.columns.filterMap Column.takenKey?).Nodup := by decide
  have reversed : shuffled.columns.reverse.Perm shuffled.columns := List.reverse_perm _
  exact ⟨distinct_, reversed, check_reordered distinct_ reversed⟩

end Config

end PhaseTable
