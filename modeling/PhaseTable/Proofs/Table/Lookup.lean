/-
# PhaseTable.Proofs.Table.Lookup -- a key means one column

Columns and cells are looked up by key with the case of ASCII letters ignored.  Checked columns
have different keys in lower case, which is coarser (`Text.lowerCase_congr`), so a text is the key
of at most one of them.  `Config.column?` finds it, and `Row.cell?` finds its cell in every row.
-/
import PhaseTable.Proofs.Table.Cells
import PhaseTable.Proofs.Text.AsciiCase

namespace PhaseTable

set_option autoImplicit false

open Text

/-- If all members that pass a test have one label and no two members have the same, the first
member that passes is the only one. -/
theorem filter_eq_toList_find? {α β : Type} {label : α → β} {p : α → Bool} {xs : List α}
    (nodup : (xs.map label).Nodup) (alike : ∀ x y, p x = true → p y = true → label x = label y) :
    xs.filter p = (xs.find? p).toList := by
  induction xs with
  | nil => rfl
  | cons x xs ih =>
      obtain ⟨fresh, nodup⟩ := List.nodup_cons.mp nodup
      cases passes : p x with
      | false => rw [List.filter_cons_of_neg (by simp [passes]), List.find?_cons, passes, ih nodup]
      | true =>
          have others : xs.filter p = [] := by
            rw [List.filter_eq_nil_iff]
            intro y listed also
            exact fresh (alike x y passes also ▸ List.mem_map_of_mem listed)
          rw [List.filter_cons_of_pos passes, others, List.find?_cons, passes]
          rfl

namespace Config

variable {config : Config} {c : Column} {k : String}

/-- The columns whose key is a text up to case are the one that is looked up. -/
theorem filter_similar (wellFormed : config.WellFormed) (k : String) :
    (config.columns.filter fun c => sameIgnoringAsciiCase c.key k) = (config.column? k).toList :=
  filter_eq_toList_find? wellFormed.keys_distinct fun _ _ first second =>
    (lowerCase_congr first).trans (lowerCase_congr second).symm

theorem column?_eq_some_iff (wellFormed : config.WellFormed) :
    config.column? k = some c ↔ c ∈ config.columns ∧ sameIgnoringAsciiCase c.key k = true := by
  rw [← Option.mem_toList, ← filter_similar wellFormed, List.mem_filter]

end Config

namespace Table

variable {config : Config} {s : Snapshot} {r : Row}

/-- An entry of the cells of a row is the cell of a column. -/
theorem entry_of_column (wellFormed : config.WellFormed)
    (member : r ∈ (ofSnapshot s config.columns).rows) {entry : String × Cell}
    (listed : entry ∈ r.cells.entries) :
    ∃ c ∈ config.columns, entry = (c.key, (s.shown c r.phase).convert c.valueType) := by
  have key : entry.1 ∈ config.columns.map Column.key :=
    (fits_of_mem wellFormed member).keys.mem_iff.mp (List.mem_map_of_mem listed)
  obtain ⟨c, column, same⟩ := List.mem_map.mp key
  have cell : r.cells.get? c.key = some entry.2 :=
    same ▸ (OrderedMap.get?_eq_some_iff r.cells).mpr listed
  rw [get?_cells wellFormed member column] at cell
  exact ⟨c, column, Prod.ext same.symm (Option.some.inj cell).symm⟩

theorem cell?_eq (wellFormed : config.WellFormed)
    (member : r ∈ (ofSnapshot s config.columns).rows) (k : String) :
    r.cell? k = (config.column? k).map fun c => (s.shown c r.phase).convert c.valueType := by
  cases found : config.column? k with
  | none =>
      have unmatched := List.find?_eq_none.mp found
      refine OrderedMap.lookup_eq_none fun entry listed => ?_
      obtain ⟨c, column, rfl⟩ := entry_of_column wellFormed member listed
      simpa using unmatched c column
  | some c =>
      obtain ⟨column, similar⟩ := (Config.column?_eq_some_iff wellFormed).mp found
      have cell := (OrderedMap.get?_eq_some_iff r.cells).mp (get?_cells wellFormed member column)
      refine OrderedMap.lookup_of_only cell similar fun entry listed also => ?_
      obtain ⟨d, other, rfl⟩ := entry_of_column wellFormed member listed
      -- Both columns are what the text is looked up as.
      have same : config.column? k = some d :=
        (Config.column?_eq_some_iff wellFormed).mpr ⟨other, also⟩
      cases found.symm.trans same
      rfl

/-- **A text is the key of one column at most.**  Whatever configuration was written, the columns of
the checked one whose key is a text up to the case of ASCII letters are one or none.  The look-up of
columns finds it, and in every row of a table the look-up of cells finds the cell that its column
shows for the phase of the row; both find nothing if there is no such column. -/
theorem lookup_unambiguous (raw : Option Config) (k : String) :
    ((Config.check raw).config.columns.filter fun c => sameIgnoringAsciiCase c.key k) =
        ((Config.check raw).config.column? k).toList ∧
      ∀ s, ∀ r ∈ (ofSnapshot s (Config.check raw).config.columns).rows,
        r.cell? k = ((Config.check raw).config.column? k).map fun c =>
          (s.shown c r.phase).convert c.valueType :=
  ⟨Config.filter_similar (Config.wellFormed_check raw) k,
    fun _ _ member => cell?_eq (Config.wellFormed_check raw) member k⟩

/-- Columns with Σ inside and at the end of words, and one whose key is the Kelvin sign. -/
def abroad : Config where
  version := 2
  phaseKey := "number"
  actions := ["select"]
  columns := [
    .ofPhase "ΤΕΛΟΣ x" "End" .string "name" 1 [],
    .ofPhase "ΤΕΛΟΣx" "Inside" .integer "number" 2 [],
    .ofPhase "\u212a" "Kelvin" .string "number" 3 []]

theorem check_abroad : (Config.check (some abroad)).config = abroad :=
  Config.WellFormed.config_check (by decide +kernel)

/-- A look-up in capitals finds the cell of the column with the word and not of the other, and the
sign is not looked up by the letter. -/
theorem lookup_unambiguous_abroad :
    ∃ r ∈ (ofSnapshot survey (Config.check (some abroad)).config.columns).rows,
      r.cell? "ΤΕΛΟΣX" = some (.integer 7) ∧ r.cell? "ΤΕΛΟΣ X" = some (.string "Yard") ∧
        r.cell? "k" = none := by
  have unambiguous := fun k => (lookup_unambiguous (some abroad) k).2 survey
  rw [check_abroad] at unambiguous ⊢
  have member : survey.row abroad.columns 7 ∈ (ofSnapshot survey abroad.columns).rows :=
    mem_rows_iff.mpr ⟨List.cons_ne_nil _ _, by decide, rfl⟩
  refine ⟨_, member, ?_, ?_, ?_⟩
  · rw [unambiguous _ _ member]
    decide
  · rw [unambiguous _ _ member]
    decide
  · rw [unambiguous _ _ member]
    decide

end Table

end PhaseTable
