/-
# PhaseTable.Proofs.Table.PhaseName -- the names of phases

The objects of a phase and the entries of the catalog may each give the phase a name, some of them
blank, and rows and columns follow opposite rules.  A row takes the first name that is not blank,
and the objects come before the catalog (`Snapshot.phaseName_eq`).  A column of the name shows the
last name that the catalog has, and what the objects say only where the catalog has none
(`Snapshot.shown_name`).
-/
import PhaseTable.Proofs.Table.Cells

namespace PhaseTable

set_option autoImplicit false

open Text

/-- The first of some names that is not blank, without its blank ends. -/
def firstName? (names : List String) : Option String :=
  names.findSome? nonBlank?

/-- The last of some names that is not blank. -/
def lastName? (names : List String) : Option String :=
  (names.filter fun name => !Text.blank name).getLast?

namespace Column

variable {c : Column}

/-- A column of the name is not one of the number. -/
theorem not_showsPhase_number (showing : c.showsPhase "name" = true) :
    c.showsPhase "number" = false := by
  obtain ⟨-, name⟩ := Bool.and_eq_true_iff.mp showing
  rw [Bool.eq_false_iff]
  intro both
  obtain ⟨-, number⟩ := Bool.and_eq_true_iff.mp both
  have same : asciiLower "name" = asciiLower "number" :=
    (sameIgnoringAsciiCase_iff.mp name).symm.trans (sameIgnoringAsciiCase_iff.mp number)
  exact absurd same (by decide)

theorem valueIn_name (showing : c.showsPhase "name" = true) (o : ObjectRecord) :
    c.valueIn o = .text o.phaseName :=
  valueIn_of_showsPhase (by decide) showing o

/-- A blank name in the catalog says nothing. -/
theorem entryValue?_name (showing : c.showsPhase "name" = true) (e : CatalogEntry) :
    c.entryValue? e = if Text.blank e.phaseName then none else some (.text e.phaseName) := by
  simp only [entryValue?, not_showsPhase_number showing, showing, Bool.false_eq_true, if_false,
    Bool.true_and]
  cases Text.blank e.phaseName <;> rfl

end Column

namespace Snapshot

variable {c : Column}

def objectNames (s : Snapshot) (n : Int32) : List String :=
  (s.objectsOf n).map ObjectRecord.phaseName

def catalogNames (s : Snapshot) (n : Int32) : List String :=
  (s.catalogOf n).map CatalogEntry.phaseName

/-- **The first name counts, and the objects come before the catalog.** -/
theorem phaseName_eq (s : Snapshot) (n : Int32) : s.phaseName n =
    ((firstName? (s.objectNames n)).or (firstName? (s.catalogNames n))).getD "" := by
  show ((s.objectNames n ++ s.catalogNames n).findSome? nonBlank?).getD "" = _
  rw [List.findSome?_append]
  rfl

theorem getLast?_entryValues_name (showing : c.showsPhase "name" = true) (s : Snapshot)
    (n : Int32) :
    ((s.catalogOf n).filterMap c.entryValue?).getLast? =
      (lastName? (s.catalogNames n)).map .text := by
  have entries : (s.catalogOf n).filterMap c.entryValue? =
      ((s.catalogNames n).filter fun name => !Text.blank name).map .text := by
    rw [catalogNames, List.filter_map, List.map_map, ← List.filterMap_eq_map,
      List.filterMap_filter]
    refine List.filterMap_congr fun e _ => ?_
    rw [Column.entryValue?_name showing]
    cases unnamed : Text.blank e.phaseName <;> simp [unnamed]
  rw [entries, List.getLast?_map, lastName?]

/-- **The last name in the catalog is shown, or else what the objects say.** -/
theorem shown_name (plain : c.aggregate ≠ .count) (showing : c.showsPhase "name" = true)
    (s : Snapshot) (n : Int32) :
    s.shown c n =
      match lastName? (s.catalogNames n) with
      | some name => .text name
      | none =>
          c.aggregate.reduce ((s.objectNames n).map .text) (s.objectsOf n).length := by
  have values : (s.objectsOf n).map c.valueIn = (s.objectNames n).map .text := by
    rw [objectNames, List.map_map]
    exact List.map_congr_left fun o _ => Column.valueIn_name showing o
  rw [shown_of_ne_count plain, getLast?_entryValues_name showing, values]
  cases lastName? (s.catalogNames n) with
  | some name => rfl
  | none => rfl

end Snapshot

namespace Table

/-- **Rows take the first name of their phase, columns show the last one of the catalog.**  Whatever
configuration was written and whatever was found in the model, a row has the first name that is not
blank among those that the objects of its phase give, or else among those of the catalog, or else no
name.  A column of the name that does not count shows the last name in the catalog that is not
blank, converted to the type of the column.  Without one it shows what its reduction makes of the
names that the objects give, and nothing where there are no objects. -/
theorem names_by_precedence (raw : Option Config) (s : Snapshot) :
    ∀ r ∈ (ofSnapshot s (Config.check raw).config.columns).rows,
      r.phaseName =
          ((firstName? (s.objectNames r.phase)).or (firstName? (s.catalogNames r.phase))).getD "" ∧
        ∀ c ∈ (Config.check raw).config.columns,
          c.aggregate ≠ .count → c.showsPhase "name" = true →
            match lastName? (s.catalogNames r.phase) with
            | some name => r.cells.get? c.key = some ((Cell.text name).convert c.valueType)
            | none =>
                r.cells.get? c.key = some ((c.aggregate.reduce
                    ((s.objectNames r.phase).map .text) (s.objectsOf r.phase).length).convert
                      c.valueType) ∧
                  (s.objectsOf r.phase = [] → r.cells.get? c.key = some .empty) := by
  intro r member
  constructor
  · have row := (mem_rows_iff.mp member).2.2
    have name : r.phaseName = s.phaseName r.phase := congrArg Row.phaseName row
    rw [name, Snapshot.phaseName_eq]
  · intro c listed plain showing
    have cell := get?_cells (Config.wellFormed_check raw) member listed
    rw [Snapshot.shown_name plain showing] at cell
    cases last : lastName? (s.catalogNames r.phase) with
    | some name =>
        rw [last] at cell
        exact cell
    | none =>
        rw [last] at cell
        refine ⟨cell, fun vacant => ?_⟩
        have nameless : s.objectNames r.phase = [] := by rw [Snapshot.objectNames, vacant]; rfl
        rw [cell, nameless, vacant, Aggregate.reduce_of_empty plain (by simp), Cell.convert_empty]

def names : Config where
  version := 2
  phaseKey := "number"
  actions := ["select"]
  columns := [
    .ofPhase "name" "Name" .string "name" 1 [],
    { Column.ofPhase "joined" "Joined" .string "name" 2 [] with aggregate := .distinct }]

/-- Names of phases by objects and by the catalog, some of them blank. -/
def building : Snapshot :=
  ⟨[⟨2, " ", ∅⟩, ⟨1, "Base", ∅⟩, ⟨2, " Roof ", ∅⟩, ⟨1, "Pit", ∅⟩, ⟨2, "Top", ∅⟩, ⟨1, "BASE", ∅⟩],
    [⟨3, ""⟩, ⟨2, "Deck"⟩, ⟨3, "Yard"⟩, ⟨2, " Attic"⟩, ⟨1, "  "⟩, ⟨2, ""⟩, ⟨4, " "⟩], ∅⟩

theorem check_names : (Config.check (some names)).config = names :=
  Config.WellFormed.config_check (by decide)

/-- The objects name the rows of the first two phases, the catalog that of the third and nobody that
of the fourth.  The columns show the catalog in the second and the objects in the first. -/
theorem names_by_precedence_building :
    (∃ r ∈ (ofSnapshot building (Config.check (some names)).config.columns).rows,
      r.phase = 1 ∧ r.phaseName = "Base" ∧ r.cells.get? "name" = some (.string "Base") ∧
        r.cells.get? "joined" = some (.string "Base; Pit")) ∧
    (∃ r ∈ (ofSnapshot building (Config.check (some names)).config.columns).rows,
      r.phase = 2 ∧ r.phaseName = "Roof" ∧ r.cells.get? "joined" = some (.string "Attic")) ∧
    (∃ r ∈ (ofSnapshot building (Config.check (some names)).config.columns).rows,
      r.phase = 3 ∧ r.phaseName = "Yard") ∧
    ∃ r ∈ (ofSnapshot building (Config.check (some names)).config.columns).rows,
      r.phase = 4 ∧ r.phaseName = "" ∧ r.cells.get? "name" = some .empty := by
  have precedence := names_by_precedence (some names) building
  rw [check_names] at precedence ⊢
  have member : ∀ n ∈ building.phases,
      building.row names.columns n ∈ (ofSnapshot building names.columns).rows := fun n named =>
    mem_rows_iff.mpr ⟨List.cons_ne_nil _ _, named, rfl⟩
  have base := precedence _ (member 1 (by decide))
  have roof := precedence _ (member 2 (by decide))
  have yard := precedence _ (member 3 (by decide))
  have vacant := precedence _ (member 4 (by decide))
  refine ⟨⟨_, member 1 (by decide), rfl, base.1, ?_, ?_⟩,
    ⟨_, member 2 (by decide), rfl, roof.1, ?_⟩,
    ⟨_, member 3 (by decide), rfl, yard.1⟩, ⟨_, member 4 (by decide), rfl, vacant.1, ?_⟩⟩
  · exact (base.2 names.columns[0] (by decide) (by decide) (by decide)).1
  · exact (base.2 names.columns[1] (by decide) (by decide) (by decide)).1
  · exact roof.2 names.columns[1] (by decide) (by decide) (by decide)
  · exact (vacant.2 names.columns[0] (by decide) (by decide) (by decide)).2 rfl

end Table

end PhaseTable
