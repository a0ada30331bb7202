/-
# PhaseTable.Proofs.Cell.TextForm -- a cell is read back from its text

Filters and cells of different values hold values as texts only.  The text of a value is trimmed and
has no separator, unless the value is a text that is not so (`Cell.listable_display`).  It is read
back as the value that it shows (`Cell.convert_convert_string`): only zero loses its sign, and the
two zeros are equal.
-/
import PhaseTable.Proofs.Cell
import PhaseTable.Proofs.Number.ReadBack
import PhaseTable.Proofs.Text.Joining

namespace PhaseTable

set_option autoImplicit false

open Text

/-! ## Texts of values -/

/-- Neither a digit nor a minus separates values. -/
theorem listable_intText (i : Int) : Listable (intText i) := by
  refine ⟨trimmed_intText i, fun c listed => ?_⟩
  rcases mem_intText listed with rfl | digit
  · decide
  · exact isSeparator_of_isDigit digit

namespace Binary64

theorem listable_formatNumber (x : Binary64) : Listable (formatNumber x) := by
  cases x with
  | nan => decide
  | infinite negative => cases negative <;> decide
  | finite x =>
    refine ⟨trimmed_formatNumber rfl, fun c listed => ?_⟩
    rcases mem_formatNumber rfl listed with digit | rfl | rfl
    · exact isSeparator_of_isDigit digit
    · decide
    · decide

/-- There is one zero of each sign. -/
theorem exists_zero_of_isZero {x : Binary64} (vanishes : x.isZero = true) :
    ∃ negative, x = zero negative := by
  cases x with
  | nan => cases vanishes
  | infinite negative => cases vanishes
  | finite x =>
    obtain ⟨negative, significand, exponent, canonical⟩ := x
    obtain rfl : significand = 0 := beq_iff_eq.mp vanishes
    obtain rfl : exponent = -1074 := canonical.2.2.2.resolve_left (by decide)
    exact ⟨negative, rfl⟩

end Binary64

namespace Cell

variable {c : Cell}

/-- The text of a value can be a member of a list in a text. -/
theorem listable_display (valued : c ≠ .empty) (texts : ∀ s, c = .string s → Listable s) :
    Listable c.display := by
  cases c with
  | empty => exact absurd rfl valued
  | string s => exact texts s rfl
  | number x => exact x.listable_formatNumber
  | integer i => exact listable_intText i.toInt
  | boolean b => cases b <;> decide

theorem trimmed_display (valued : c ≠ .empty) (tidy : c.Tidy) : Trimmed c.display := by
  by_cases texts : c.valueType? = some .string
  · cases c with
    | string s => exact tidy
    | empty | number _ | integer _ | boolean _ => cases texts
  · refine (listable_display valued ?_).1
    rintro s rfl
    exact absurd rfl texts

theorem convert_string_of_tidy (valued : c ≠ .empty) (tidy : c.Tidy) :
    c.convert .string = .string c.display := by
  by_cases texts : c.valueType? = some .string
  · rw [convert_self texts]
    cases c with
    | string s => rfl
    | empty | number _ | integer _ | boolean _ => cases texts
  · rw [convert_string texts, text, (trimmed_display valued tidy).nonBlank?]
    rfl

/-! ## Reading a text again -/

/-- The cell, but zero without its sign. -/
def unsigned : Cell → Cell
  | .number x => .number x.unsigned
  | c => c

theorem unsigned_eq_self (signed_ : c ≠ .number (.zero true)) : c.unsigned = c := by
  cases c with
  | number x =>
      rw [unsigned, Binary64.unsigned]
      split
      · next vanishes =>
        obtain ⟨negative, rfl⟩ := Binary64.exists_zero_of_isZero vanishes
        cases negative with
        | false => rfl
        | true => exact absurd rfl signed_
      · rfl
  | empty | string _ | integer _ | boolean _ => rfl

/-- The number in the cell, if there is one, is finite. -/
def IsFinite (c : Cell) : Prop :=
  ∀ x, c = .number x → x.isFinite = true

theorem same_unsigned (finite : c.IsFinite) : c.unsigned.same c = true := by
  cases c with
  | number x => exact Binary64.same_unsigned (finite x rfl)
  | empty => rfl
  | string s => exact decide_eq_true (Eq.refl (string s))
  | integer i => exact decide_eq_true (Eq.refl (integer i))
  | boolean b => exact decide_eq_true (Eq.refl (boolean b))

/-- What a cell shows is read back, as a value of its type. -/
theorem convert_display {t : ValueType} (typed : c.valueType? = some t) (finite : c.IsFinite) :
    (string c.display).convert t = c.unsigned := by
  cases c with
  | empty => cases typed
  | string s =>
      cases typed
      exact convert_self rfl
  | number x =>
      cases typed
      rw [convert_number, asNumber, display, Binary64.parseNumber_formatNumber (finite x rfl)]
      · rfl
      · intro same
        cases same
  | integer i =>
      cases typed
      rw [convert_integer, asInteger, display, (trimmed_intText _).1, parseInt64,
        readInt?_intText, Option.bind_some, int64?_eq_some_iff.mpr rfl]
      · rfl
      · intro same
        cases same
  | boolean b =>
      cases typed
      cases b <;> decide

/-- **A cell is read back from its text**, and zero without its sign. -/
theorem convert_convert_string {t : ValueType} (typed : c.valueType? = some t) (tidy : c.Tidy)
    (finite : c.IsFinite) :
    ((c.convert .string).convert t).same c = true ∧
      (c ≠ .number (.zero true) → (c.convert .string).convert t = c) := by
  have valued : c ≠ .empty := by
    rintro rfl
    cases typed
  rw [convert_string_of_tidy valued tidy, convert_display typed finite]
  exact ⟨same_unsigned finite, unsigned_eq_self⟩

/-- The number nearest to `-0.1` is read back from its text. -/
theorem convert_convert_string_tenth :
    (number (.ofDecimal true 1 (-1))).valueType? = some .number ∧
      (number (.ofDecimal true 1 (-1))).Tidy ∧ (number (.ofDecimal true 1 (-1))).IsFinite ∧
      (((number (.ofDecimal true 1 (-1))).convert .string).convert .number).same
        (number (.ofDecimal true 1 (-1))) = true ∧
      (number (.ofDecimal true 1 (-1)) ≠ .number (.zero true) →
        ((number (.ofDecimal true 1 (-1))).convert .string).convert .number =
          number (.ofDecimal true 1 (-1))) := by
  have finite : (number (.ofDecimal true 1 (-1))).IsFinite := by
    rintro x ⟨⟩
    decide +kernel
  exact ⟨rfl, trivial, finite, convert_convert_string rfl trivial finite⟩

end Cell

end PhaseTable
