/-
# PhaseTable.Proofs.Table.Texts -- texts in the cells of a table

A text of a table should be trimmed and not blank (`Cell.Tidy`).  All that the table makes itself is:
names of phases, numbers, joined texts and converted values.  Only attributes are decoded with the
texts that they have, and only one kind of column shows an attribute as it is, a column of texts
that shows the first value.  `Table.tidy_cell_iff` says exactly when a cell is tidy, and where all
attributes are, all cells are (`Table.tidy_of_attributes`).
-/
import PhaseTable.Proofs.Table.Cells

namespace PhaseTable

set_option autoImplicit false

open Text

/-! ## Values of objects -/

/-- The texts among the attributes of all objects are tidy. -/
def Snapshot.Tidy (s : Snapshot) : Prop :=
  ∀ o ∈ s.objects, ∀ entry ∈ o.attributes.entries, entry.2.Tidy

namespace ObjectRecord

variable {o : ObjectRecord}

theorem tidy_phaseValue (o : ObjectRecord) (source : ModelSource) :
    (o.phaseValue source).Tidy := by
  rw [phaseValue]
  split
  · trivial
  · exact Cell.tidy_text _

theorem tidy_sourceValue (tidy : ∀ entry ∈ o.attributes.entries, entry.2.Tidy) (type : ObjectType)
    (source : ModelSource) : (o.sourceValue type source).Tidy := by
  have held : ∀ {key : String} {cell : Cell}, o.value? key = some cell → cell.Tidy := by
    intro key cell found
    obtain ⟨entry, member, rfl⟩ := OrderedMap.mem_of_lookup found
    exact tidy entry member
  have own_or_part : ∀ type : ObjectType,
      (((o.value? source.key).or
        ((o.standIn? type source).map StandIn.value)).getD .empty).Tidy := by
    intro type
    cases found : o.value? source.key with
    | some cell => exact held found
    | none =>
        rw [Option.none_or, standIn?]
        split
        · cases part : o.value? source.partFallbackKey with
          | none => trivial
          | some cell => exact held part
        · trivial
  cases type with
  | phase => exact o.tidy_phaseValue source
  | part | assembly | bolt => exact own_or_part _

end ObjectRecord

namespace Column

variable {c : Column}

theorem tidy_valueIn {o : ObjectRecord} (tidy : ∀ entry ∈ o.attributes.entries, entry.2.Tidy) :
    (c.valueIn o).Tidy := by
  rw [valueIn]
  cases c.source? with
  | none => trivial
  | some found => exact ObjectRecord.tidy_sourceValue tidy found.1 found.2

/-- What objects have for an attribute of the phase does not come from their attributes. -/
theorem tidy_valueIn_of_showsPhase {attr : String} (stored : attr ∈ phaseAttributes)
    (showing : c.showsPhase attr = true) (o : ObjectRecord) : (c.valueIn o).Tidy := by
  rw [valueIn_of_showsPhase stored showing]
  exact o.tidy_phaseValue _

/-- The catalog has tidy values, and only for attributes of the phase. -/
theorem entryValue?_cases {e : CatalogEntry} {cell : Cell} (found : c.entryValue? e = some cell) :
    cell.Tidy ∧ ∃ attr ∈ phaseAttributes, c.showsPhase attr = true := by
  rw [entryValue?] at found
  split at found
  · next number =>
    cases found
    exact ⟨trivial, "number", by decide, number⟩
  · split at found
    · next name =>
      cases found
      exact ⟨Cell.tidy_text _, "name", by decide, (Bool.and_eq_true_iff.mp name).1⟩
    · cases found

end Column

/-! ## Cells -/

/-- What a phase shows is tidy unless it is the first of the values of objects. -/
theorem Snapshot.tidy_shown_iff {s : Snapshot} {c : Column} {n : Int32} :
    (s.shown c n).Tidy ↔
      (c.aggregate = .first → (Cell.firstOf ((s.objectsOf n).map c.valueIn)).Tidy) := by
  by_cases count : c.aggregate = .count
  · rw [shown_of_count count, count]
    exact iff_of_true trivial nofun
  · rw [shown_of_ne_count count]
    cases last : ((s.catalogOf n).filterMap c.entryValue?).getLast? with
    | none => exact Aggregate.tidy_reduce_iff
    | some cell =>
        -- The catalog hides only what objects have for the phase, which is tidy as well.
        obtain ⟨e, -, entry⟩ := List.mem_filterMap.mp (List.mem_of_getLast? last)
        obtain ⟨tidy, attr, stored, showing⟩ := Column.entryValue?_cases entry
        refine iff_of_true tidy fun _ => Cell.tidy_firstOf fun value listed => ?_
        obtain ⟨o, -, rfl⟩ := List.mem_map.mp listed
        exact Column.tidy_valueIn_of_showsPhase stored showing o

namespace Table

section Checked

variable {config : Config} {s : Snapshot} {r : Row}

theorem tidy_cell_iff (wellFormed : config.WellFormed)
    (member : r ∈ (ofSnapshot s config.columns).rows) {c : Column} (listed : c ∈ config.columns) :
    ∃ cell, r.cells.get? c.key = some cell ∧
      (cell.Tidy ↔ (c.valueType = .string → c.aggregate = .first →
        (Cell.firstOf ((s.objectsOf r.phase).map c.valueIn)).Tidy)) := by
  refine ⟨_, get?_cells wellFormed member listed, ?_⟩
  rw [Cell.tidy_convert_iff, Snapshot.tidy_shown_iff]

/-- Where all attributes are tidy, all texts of the table are. -/
theorem tidy_of_attributes (wellFormed : config.WellFormed) (tidy : s.Tidy)
    (member : r ∈ (ofSnapshot s config.columns).rows) {key : String} {cell : Cell}
    (found : r.cells.get? key = some cell) : cell.Tidy := by
  have named : key ∈ config.columns.map Column.key := by
    rw [← s.mem_keys_row config.columns r.phase, ← (mem_rows_iff.mp member).2.2]
    exact List.mem_map_of_mem ((OrderedMap.get?_eq_some_iff _).mp found)
  obtain ⟨c, listed, rfl⟩ := List.mem_map.mp named
  obtain ⟨shown, present, exactly⟩ := tidy_cell_iff wellFormed member listed
  rw [← Option.some.inj (present.symm.trans found), exactly]
  refine fun _ _ => Cell.tidy_firstOf fun value own => ?_
  obtain ⟨o, object, rfl⟩ := List.mem_map.mp own
  exact Column.tidy_valueIn (tidy o (List.mem_filter.mp object).1)

end Checked

/-- **Only the first value of a column of texts can be untidy.**  Whatever configuration was written
and whatever was found in the model, the cell of a column is trimmed and not blank if it is a text,
unless the column shows texts and of them the first one, and the first value that the objects of the
phase have is untidy itself. -/
theorem tidy_unless_first (raw : Option Config) (s : Snapshot) :
    ∀ r ∈ (ofSnapshot s (Config.check raw).config.columns).rows,
      ∀ c ∈ (Config.check raw).config.columns,
        ∃ cell, r.cells.get? c.key = some cell ∧
          (cell.Tidy ↔ (c.valueType = .string → c.aggregate = .first →
            (Cell.firstOf ((s.objectsOf r.phase).map c.valueIn)).Tidy)) :=
  fun _ member _ listed => tidy_cell_iff (Config.wellFormed_check raw) member listed

def profiles : Config where
  version := 2
  phaseKey := "number"
  actions := ["select"]
  columns := [
    { Column.blank with
      key := "profile", label := "Profile", objectType := some .part, attr := "profile"
      order := 1 },
    { Column.blank with
      key := "profiles", label := "Profiles", objectType := some .part, attr := "profile"
      aggregate := .distinct, order := 2 }]

theorem check_profiles : (Config.check (some profiles)).config = profiles :=
  Config.WellFormed.config_check (by decide)

def unprofiled : Snapshot :=
  ⟨[⟨1, "Base", .ofList [("part.profile", .string "  ")]⟩], [], ∅⟩

/-- Different profiles are tidy even if one of them is blank. -/
theorem tidy_unless_first_unprofiled :
    ∃ r ∈ (ofSnapshot unprofiled (Config.check (some profiles)).config.columns).rows,
      ∃ cell, r.cells.get? "profiles" = some cell ∧ cell.Tidy := by
  have shown := tidy_unless_first (some profiles) unprofiled
  rw [check_profiles] at shown ⊢
  have member : unprofiled.row profiles.columns 1 ∈ (ofSnapshot unprofiled profiles.columns).rows :=
    mem_rows_iff.mpr ⟨List.cons_ne_nil _ _, by decide, rfl⟩
  obtain ⟨cell, found, tidy⟩ := shown _ member (profiles.columns[1]) (by decide)
  exact ⟨_, member, cell, found, tidy.mpr nofun⟩

/-- A blank profile is decoded as it is, and it is shown as the first value. -/
theorem blank_profile_shown :
    Snapshot.decode .value (.ofJson unprofiled.toJson) = .ok unprofiled ∧
      (ofSnapshot unprofiled (Config.check (some profiles)).config.columns).rows.map
        (·.cells.get? "profile") = [some (.string "  ")] ∧
      ¬(Cell.string "  ").Tidy := by
  rw [check_profiles, rows_ofSnapshot]
  decide

end Table

end PhaseTable
