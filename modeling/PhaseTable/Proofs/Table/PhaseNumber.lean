/-
# PhaseTable.Proofs.Table.PhaseNumber -- columns of the number of the phase

A column that shows the number of the phase gets it in two ways: from the objects of the phase, by
the column's reduction, and from an entry of the catalog as it is.  Both ways lead to the number
itself, converted to the type of the column, except for one kind of column
(`Snapshot.convert_shown_number`): where different values are joined to a text, the text of a number
other than 0 and 1 is no truth value.  There the cell is empty, unless the catalog has the phase.
-/
import PhaseTable.Proofs.Table.Cells

namespace PhaseTable

set_option autoImplicit false

open Text

namespace Column

variable {c : Column}

theorem valueIn_number (showing : c.showsPhase "number" = true) (o : ObjectRecord) :
    c.valueIn o = .ofInt32 o.phase :=
  valueIn_of_showsPhase (by decide) showing o

theorem entryValue?_number (showing : c.showsPhase "number" = true) (e : CatalogEntry) :
    c.entryValue? e = some (.ofInt32 e.phase) :=
  if_pos showing

end Column

namespace Snapshot

variable {c : Column}

/-- All objects of a phase have its number. -/
theorem map_valueIn_number (showing : c.showsPhase "number" = true) (s : Snapshot) (n : Int32) :
    (s.objectsOf n).map c.valueIn = List.replicate (s.objectsOf n).length (.ofInt32 n) := by
  rw [List.eq_replicate_iff]
  refine ⟨List.length_map _, fun cell listed => ?_⟩
  obtain ⟨o, member, rfl⟩ := List.mem_map.mp listed
  have own : o.phase = n := of_decide_eq_true (List.mem_filter.mp member).2
  rw [Column.valueIn_number showing, own]

/-- An entry of the catalog for a phase has its number. -/
theorem getLast?_entryValues_number (showing : c.showsPhase "number" = true) (s : Snapshot)
    (n : Int32) :
    ((s.catalogOf n).filterMap c.entryValue?).getLast? =
      (s.catalogOf n).getLast?.map fun _ => .ofInt32 n := by
  have entries : (s.catalogOf n).filterMap c.entryValue? =
      (s.catalogOf n).map fun _ => .ofInt32 n := by
    rw [← List.filterMap_eq_map]
    refine List.filterMap_congr fun e member => ?_
    have own : e.phase = n := of_decide_eq_true (List.mem_filter.mp member).2
    rw [Column.entryValue?_number showing, own]
    rfl
  rw [entries, List.getLast?_map]

/-- A phase without an entry in the catalog has objects. -/
theorem exists_length_objectsOf {s : Snapshot} {n : Int32} (named : n ∈ s.phases)
    (uncatalogued : s.catalogOf n = []) : ∃ more, (s.objectsOf n).length = more + 1 := by
  refine Nat.exists_eq_add_one.mpr (List.length_pos_iff.mpr fun vacant => ?_)
  rcases s.mem_phases.mp named with object | ⟨e, member, own⟩
  · exact (s.objectsOf_eq_nil_iff.mp vacant) object
  · have listed : e ∈ s.catalogOf n := List.mem_filter.mpr ⟨member, decide_eq_true own⟩
    rw [uncatalogued] at listed
    exact List.not_mem_nil listed

/-- The number of a phase is converted in a column like the number itself, but for texts of
different values as truth values. -/
theorem convert_shown_number (plain : c.aggregate ≠ .count) (showing : c.showsPhase "number" = true)
    {s : Snapshot} {n : Int32} (named : n ∈ s.phases) (t : ValueType) :
    (s.shown c n).convert t =
      if c.aggregate = .distinct ∧ t = .boolean ∧ s.catalogOf n = [] ∧ n ≠ 0 ∧ n ≠ 1 then .empty
      else (Cell.ofInt32 n).convert t := by
  rw [shown_of_ne_count plain, getLast?_entryValues_number showing]
  cases last : (s.catalogOf n).getLast? with
  | some e =>
      -- What the objects have is hidden, so their texts do not matter.
      have catalogued : s.catalogOf n ≠ [] := by
        intro vacant
        rw [vacant] at last
        cases last
      simp only [Option.map_some, Option.getD_some, catalogued, false_and, and_false, if_false]
  | none =>
      -- Nothing but the objects is left, and there is at least one.
      have uncatalogued : s.catalogOf n = [] := List.getLast?_eq_none_iff.mp last
      obtain ⟨more, length⟩ := exists_length_objectsOf named uncatalogued
      rw [map_valueIn_number showing, length]
      simp only [Option.map_none, Option.getD_none, uncatalogued, true_and]
      exact Aggregate.convert_reduce_int32 plain n more _ t

end Snapshot

namespace Table

/-- **Columns of the number of the phase show it.**  Whatever configuration was written and whatever
was found in the model, a column of the number of the phase that does not count shows the number of
its row, converted to the type of the column.  Only the text of different values is lost as a truth
value: such a cell is empty if no entry of the catalog has the phase and its number is not 0 or 1. -/
theorem shows_phaseNumber (raw : Option Config) (s : Snapshot) :
    ∀ r ∈ (ofSnapshot s (Config.check raw).config.columns).rows,
      ∀ c ∈ (Config.check raw).config.columns,
        c.aggregate ≠ .count → c.showsPhase "number" = true →
          r.cells.get? c.key = some
            (if c.aggregate = .distinct ∧ c.valueType = .boolean ∧ s.catalogOf r.phase = [] ∧
                r.phase ≠ 0 ∧ r.phase ≠ 1 then .empty
              else (Cell.ofInt32 r.phase).convert c.valueType) := by
  intro r member c listed plain showing
  have named := (mem_rows_iff.mp member).2.1
  rw [get?_cells (Config.wellFormed_check raw) member listed,
    Snapshot.convert_shown_number plain showing named]

def numbers : Config where
  version := 2
  phaseKey := "number"
  actions := ["select"]
  columns := [
    { Column.ofPhase "flag" "Flag" .boolean "number" 1 [] with aggregate := .distinct },
    { Column.ofPhase "least" "Least" .string "number" 2 [] with aggregate := .min },
    { Column.ofPhase "joined" "Joined" .integer "number" 3 [] with aggregate := .distinct }]

theorem check_numbers : (Config.check (some numbers)).config = numbers :=
  Config.WellFormed.config_check (by decide)

/-- A phase below zero without an entry in the catalog. -/
theorem shows_phaseNumber_survey :
    ∃ r ∈ (ofSnapshot survey (Config.check (some numbers)).config.columns).rows,
      r.phase = -1 ∧ r.cells.get? "flag" = some .empty ∧
        r.cells.get? "least" = some (.string "-1") ∧
        r.cells.get? "joined" = some (.integer (-1)) := by
  have shown := shows_phaseNumber (some numbers) survey
  rw [check_numbers] at shown ⊢
  have member : survey.row numbers.columns (-1) ∈ (ofSnapshot survey numbers.columns).rows :=
    mem_rows_iff.mpr ⟨List.cons_ne_nil _ _, by decide, rfl⟩
  refine ⟨_, member, rfl, ?_, ?_, ?_⟩
  · exact shown _ member (numbers.columns[0]) (by decide) (by decide) (by decide)
  · exact shown _ member (numbers.columns[1]) (by decide) (by decide) (by decide)
  · exact shown _ member (numbers.columns[2]) (by decide) (by decide) (by decide)

/-- All columns of the number of the phase that do not count show it as it is. -/
def PhaseNumbersShown (t : Table) (columns : List Column) : Prop :=
  ∀ r ∈ t.rows, ∀ c ∈ columns, c.aggregate ≠ .count → c.showsPhase "number" = true →
    r.cells.get? c.key = some ((Cell.ofInt32 r.phase).convert c.valueType)

/-- An object is not enough for the truth value of its phase, though an entry of the catalog is that
says no more. -/
theorem phaseNumber_lost :
    ¬(ofSnapshot ⟨[⟨5, "", ∅⟩], [], ∅⟩ (Config.check (some numbers)).config.columns
        ).PhaseNumbersShown (Config.check (some numbers)).config.columns ∧
      (ofSnapshot ⟨[⟨5, "", ∅⟩], [⟨5, ""⟩], ∅⟩ (Config.check (some numbers)).config.columns
        ).PhaseNumbersShown (Config.check (some numbers)).config.columns := by
  rw [check_numbers, PhaseNumbersShown, PhaseNumbersShown, rows_ofSnapshot, rows_ofSnapshot]
  decide

end Table

end PhaseTable
