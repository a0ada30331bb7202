/-
# PhaseTable.Proofs.Cell.WholeNumbers -- texts and numbers as integers

`Cell.ofRat` is the integer cell of a rational, and empty for a rational that is no integer of 64
bits.  A number is converted to the cell of its value (`Cell.convert_finite`).

A text is read as an integer first.  So an integer that is written plainly, as a sign and digits, is
converted as it is.  A numeral with a point or an exponent is read as the number that is nearest to
it, and that number is converted (`Cell.convert_numeral`).  Among large numerals this is another
integer, or an integer in place of a fraction (`Cell.convert_numeral_inexact`).
-/
import PhaseTable.Proofs.Cell
import PhaseTable.Proofs.Number.WholeValues

namespace PhaseTable

set_option autoImplicit false

open Text
open Binary64 (Finite)

namespace Cell

/-! ## Rationals as integers -/

/-- The cell of the integer that a rational is; empty, if it is none or has more than 64 bits. -/
def ofRat (q : ℚ) : Cell :=
  if q.isInt then (int64? q.num).elim .empty .integer else .empty

section Rationals

variable {q : ℚ} {i : Int64}

theorem ofRat_intCast (i : Int) : ofRat i = (int64? i).elim .empty .integer :=
  if_pos rfl

theorem ofRat_toInt (i : Int64) : ofRat i.toInt = .integer i := by
  rw [ofRat_intCast, int64?_eq_some_iff.mpr rfl, Option.elim_some]

theorem ofRat_intCast_eq_empty_iff {i : Int} : ofRat i = .empty ↔ i < -2 ^ 63 ∨ 2 ^ 63 ≤ i := by
  rw [ofRat_intCast, ← int64?_eq_none_iff]
  cases int64? i with
  | none => exact iff_of_true rfl rfl
  | some j => exact iff_of_false nofun nofun

theorem ofRat_of_not_int (other : ∀ i : Int, q ≠ i) : ofRat q = .empty := by
  rw [ofRat, if_neg]
  intro whole
  exact other q.num (Rat.eq_num_of_isInt whole)

/-- A rational is an integer of 64 bits and makes its cell, or it is none and makes none. -/
theorem ofRat_cases (q : ℚ) :
    (∃ i : Int64, q = i.toInt ∧ ofRat q = .integer i) ∨
      (∀ i : Int64, q ≠ i.toInt) ∧ ofRat q = .empty := by
  by_cases whole : ∃ j : Int, q = j
  · obtain ⟨j, rfl⟩ := whole
    rw [ofRat_intCast]
    cases found : int64? j with
    | some i => exact .inl ⟨i, congrArg Int.cast (int64?_eq_some_iff.mp found), rfl⟩
    | none =>
        refine .inr ⟨fun i same => ?_, rfl⟩
        rw [int64?_eq_some_iff.mpr (Int.cast_inj.mp same)] at found
        cases found
  · exact .inr ⟨fun i same => whole ⟨_, same⟩, ofRat_of_not_int fun j same => whole ⟨j, same⟩⟩

theorem ofRat_eq_integer_iff : ofRat q = .integer i ↔ q = i.toInt := by
  refine ⟨fun made => ?_, fun same => same ▸ ofRat_toInt i⟩
  rcases ofRat_cases q with ⟨j, same, cell⟩ | ⟨-, vacant⟩
  · rw [cell] at made
    cases made
    exact same
  · rw [vacant] at made
    cases made

theorem ofRat_eq_empty_iff : ofRat q = .empty ↔ ∀ i : Int64, q ≠ i.toInt := by
  rcases ofRat_cases q with ⟨i, same, cell⟩ | ⟨other, vacant⟩
  · rw [cell]
    exact iff_of_false nofun fun other => other i same
  · exact iff_of_true vacant other

theorem ofRat_of_limit_le (large : 2 ^ 63 ≤ q) : ofRat q = .empty := by
  refine ofRat_eq_empty_iff.mpr fun i same => ?_
  have high : (i.toInt : ℚ) ≤ 2 ^ 63 - 1 := by exact_mod_cast i.toInt_le
  linarith

theorem ofRat_of_lt_limit (small : q < -2 ^ 63) : ofRat q = .empty := by
  refine ofRat_eq_empty_iff.mpr fun i same => ?_
  have low : (-2 ^ 63 : ℚ) ≤ i.toInt := by exact_mod_cast i.minValue_le_toInt
  linarith

/-- The largest numbers have far more than 64 bits. -/
theorem ofRat_largest (negative : Bool) : ofRat (Finite.largest negative).value = .empty := by
  have large : (2 : ℚ) ^ 63 < (Finite.largest negative).absValue := by
    rw [Finite.absValue_largest]
    calc (2 : ℚ) ^ 63 < (2 ^ 53 - 1) * 2 ^ (11 : Int) := by norm_num
      _ ≤ (2 ^ 53 - 1) * 2 ^ (971 : Int) :=
          mul_le_mul_of_nonneg_left (zpow_le_zpow_right₀ one_le_two (by decide)) (by norm_num)
  rw [Finite.value_largest, signed]
  split
  · exact ofRat_of_lt_limit (neg_lt_neg large)
  · exact ofRat_of_limit_le large.le

end Rationals

/-! ## Numbers as integers -/

/-- The integer that a number is, is the one that its value is. -/
theorem wholeNumber?_finite (x : Finite) :
    ((Binary64.finite x).wholeNumber?).elim .empty .integer = ofRat x.value := by
  by_cases whole : ∃ i : Int, x.value = i
  · obtain ⟨i, value⟩ := whole
    rw [Binary64.wholeNumber?, Binary64.toInt?_eq_some_iff.mpr value, Option.bind_some, value,
      ofRat_intCast]
  · have none_ : (Binary64.finite x).toInt? = none := by
      rw [Option.eq_none_iff_forall_ne_some]
      exact fun i found => whole ⟨i, Binary64.toInt?_eq_some_iff.mp found⟩
    rw [Binary64.wholeNumber?, none_, ofRat_of_not_int fun i value => whole ⟨i, value⟩]
    rfl

/-- **A number is converted to the integer that its value is.** -/
theorem convert_finite (x : Finite) : (number (.finite x)).convert .integer = ofRat x.value := by
  rw [convert_integer]
  · exact wholeNumber?_finite x
  · nofun

/-! ## Texts as integers -/

section Texts

variable {s : String} {n : Numeral}

/-- An integer that is written plainly denotes itself. -/
theorem denoted_of_readInt? {i : Int} (whole : readInt? s = some i)
    (read : Numeral.read? s = some n) : n.denoted = i := by
  obtain ⟨negative, digits, spelled, rfl⟩ := read?_of_readInt? whole
  obtain rfl := Option.some.inj (read.symm.trans spelled)
  have magnitude : (Numeral.mk negative digits [] 0).magnitude = Nat.ofDigitChars 10 digits 0 := by
    rw [Binary64.magnitude_of_digits (p := 0) (congrArg (Nat.ofDigitChars 10 · 0)
      (List.append_nil digits)) rfl, zpow_zero, mul_one]
  rw [Numeral.denoted, magnitude, signed]
  split <;> push_cast <;> rfl

theorem convert_text (s : String) : (string s).convert .integer =
    ((parseInt64 (trim s)).or ((parseNumber s).bind Binary64.wholeNumber?)).elim .empty .integer :=
  convert_integer nofun

/-- What is read as an integer of 64 bits is converted as it is. -/
theorem convert_of_parseInt64 (read : Numeral.read? (trim s) = some n) {i : Int64}
    (found : parseInt64 (trim s) = some i) : (string s).convert .integer = ofRat n.denoted := by
  obtain ⟨j, whole, bits⟩ := Option.bind_eq_some_iff.mp found
  rw [convert_text, found, denoted_of_readInt? whole read, int64?_eq_some_iff.mp bits, ofRat_toInt]
  rfl

/-- Every other numeral is converted like the number that is nearest to it. -/
theorem exists_nearest_convert (read : Numeral.read? (trim s) = some n)
    (other : parseInt64 (trim s) = none) :
    ∃ x : Finite, x.Nearest n.denoted ∧ (string s).convert .integer = ofRat x.value := by
  obtain ⟨x, closest, made⟩ := n.exists_nearest
  refine ⟨x, closest, ?_⟩
  rw [convert_text, other, Option.none_or, parseNumber, Numeral.readBinary64?_of_read? read]
  rcases made with made | ⟨made, rfl⟩
  · rw [made]
    exact wholeNumber?_finite x
  · -- Infinity is no number for a cell, and the largest number is no integer of 64 bits.
    rw [made]
    exact (ofRat_largest n.negative).symm

/-- An integer that has too many bits is read as a number, and that has too many bits, too, unless
it is the least integer of 64 bits. -/
theorem convert_of_readInt? (read : Numeral.read? (trim s) = some n) {i : Int}
    (whole : readInt? (trim s) = some i) (apart : -2 ^ 63 ≤ i ∨ i < -2 ^ 63 - 1024) :
    (string s).convert .integer = ofRat n.denoted := by
  cases found : parseInt64 (trim s) with
  | some j => exact convert_of_parseInt64 read found
  | none =>
      obtain ⟨x, closest, made⟩ := exists_nearest_convert read found
      rw [parseInt64, whole, Option.bind_some] at found
      rw [denoted_of_readInt? whole read] at closest
      rw [made, denoted_of_readInt? whole read]
      rcases int64?_eq_none_iff.mp found with below | above
      · have small : (i : ℚ) < -2 ^ 63 - 1024 := by exact_mod_cast (by omega : i < -2 ^ 63 - 1024)
        rw [ofRat_of_lt_limit (closest.lt_limit small), ofRat_of_lt_limit (by linarith)]
      · have large : 2 ^ 63 ≤ (i : ℚ) := by exact_mod_cast above
        rw [ofRat_of_limit_le (closest.limit_le_iff.mpr (by linarith)), ofRat_of_limit_le large]

/-- **A numeral is converted to the integer that it denotes**: exactly, if it is written as an
integer, and else as exactly as numbers are. -/
theorem convert_numeral (read : Numeral.read? (trim s) = some n) :
    (∀ i : Int, readInt? (trim s) = some i → n.denoted = i ∧
      (-2 ^ 63 ≤ i ∨ i < -2 ^ 63 - 1024 → (string s).convert .integer = ofRat n.denoted)) ∧
    (readInt? (trim s) = none →
      ∃ x : Finite, x.Nearest n.denoted ∧ (string s).convert .integer = ofRat x.value) ∧
    ∀ x : Finite, x.value = n.denoted → (string s).convert .integer = ofRat n.denoted := by
  refine ⟨fun i whole => ⟨denoted_of_readInt? whole read, convert_of_readInt? read whole⟩,
    fun other => ?_, fun x held => ?_⟩
  · refine exists_nearest_convert read ?_
    rw [parseInt64, other, Option.bind_none]
  · cases found : parseInt64 (trim s) with
    | some j => exact convert_of_parseInt64 read found
    | none =>
        obtain ⟨y, closest, made⟩ := exists_nearest_convert read found
        rw [made, closest.eq_of_value held]

end Texts

theorem convert_numeral_thousand :
    Numeral.read? (trim " 9007199254740.993e3 ") =
        some ⟨false, "9007199254740".toList, "993".toList, 3⟩ ∧
      readInt? (trim " 9007199254740.993e3 ") = none ∧
      ∃ x : Finite,
        x.Nearest (Numeral.mk false "9007199254740".toList "993".toList 3).denoted ∧
          (string " 9007199254740.993e3 ").convert .integer = ofRat x.value := by
  have read : Numeral.read? (trim " 9007199254740.993e3 ") =
      some ⟨false, "9007199254740".toList, "993".toList, 3⟩ := by decide +kernel
  have fraction : readInt? (trim " 9007199254740.993e3 ") = none := by decide +kernel
  obtain ⟨-, rounded, -⟩ := convert_numeral read
  exact ⟨read, fraction, rounded fraction⟩

/-- With a place behind the point, an integer of 54 bits is converted to the integer before it. -/
theorem convert_numeral_inexact :
    Numeral.read? (trim "9007199254740993.0") =
        some ⟨false, "9007199254740993".toList, ['0'], 0⟩ ∧
      (Numeral.mk false "9007199254740993".toList ['0'] 0).denoted =
        (9007199254740993 : Int64).toInt ∧
      (string "9007199254740993.0").convert .integer = .integer 9007199254740992 := by
  refine ⟨by decide +kernel, ?_, by decide +kernel⟩
  have digits : Nat.ofDigitChars 10 ("9007199254740993".toList ++ ['0']) 0 = 90071992547409930 := by
    decide +kernel
  have whole : (9007199254740993 : Int64).toInt = 9007199254740993 := by decide +kernel
  rw [Numeral.denoted, Binary64.magnitude_of_digits (p := -1) digits rfl, whole]
  norm_num [signed]

end Cell

end PhaseTable
