/-
# PhaseTable.Proofs.Number.ReadBack -- the text of a number is read as the number

The text of a number denotes a decimal in the interval of the number (`read?_formatNumber`), and a
fraction in that interval is rounded to the number (`nearest_of_contains`).  Between the two,
reading gives up on powers of ten whose size alone decides the answer, and the answer is the one
that rounding would give (`ofDecimal_cases`).

So a number is read back from its text (`parseNumber_formatNumber`), zero without its sign, and an
integer of 64 bits is read as the number that is nearest to it (`parseNumber_int64Text`).
-/
import PhaseTable.Proofs.Number.Nearest
import PhaseTable.Proofs.Number.NumberTexts

namespace PhaseTable

set_option autoImplicit false

open Text

namespace Binary64

/-! ## Decimals -/

theorem two_zpow_le_ten_zpow {p : Int} (positive : 0 ≤ p) : (2 : ℚ) ^ (3 * p) ≤ 10 ^ p :=
  calc (2 : ℚ) ^ (3 * p) = (2 ^ (3 : Int)) ^ p := zpow_mul _ _ _
    _ ≤ 10 ^ p := zpow_le_zpow_left₀ positive (by norm_num) (by norm_num)

theorem overflow_le : overflow ≤ 2 ^ (1024 : Int) :=
  calc overflow ≤ 2 ^ 54 * 2 ^ (970 : Int) :=
        mul_le_mul_of_nonneg_right (by norm_num) (zpow_pos two_pos _).le
    _ = 2 ^ (1024 : Int) := by
        rw [← zpow_natCast, ← zpow_add₀ two_ne_zero]
        rfl

section Decimal

variable {x : Finite} {digits : Nat} {p : Int}

/-- Too large a power of ten makes a decimal larger than all numbers. -/
theorem overflow_le_decimal (some_ : digits ≠ 0) (large : 400 < p) :
    overflow ≤ digits * 10 ^ p := by
  have power : (0 : ℚ) ≤ 10 ^ p := by positivity
  have one : (1 : ℚ) ≤ digits := by exact_mod_cast Nat.one_le_iff_ne_zero.mpr some_
  calc overflow ≤ 2 ^ (1024 : Int) := overflow_le
    _ ≤ 2 ^ (3 * p) := zpow_le_zpow_right₀ one_le_two (by omega)
    _ ≤ 10 ^ p := two_zpow_le_ten_zpow (by omega)
    _ ≤ digits * 10 ^ p := le_mul_of_one_le_left power one

/-- Too small a power of ten makes a decimal smaller than half of the least number. -/
theorem decimal_lt_least (small : p < -(digits.log2 + 400 : Int)) :
    (digits : ℚ) * 10 ^ p < 2 ^ (-1075 : Int) := by
  have length : (digits : ℚ) < 2 ^ ((digits.log2 + 1 : Nat) : Int) := by
    rw [zpow_natCast]
    exact_mod_cast Nat.lt_log2_self
  have power : (10 : ℚ) ^ p ≤ 2 ^ (3 * p) := ten_zpow_le_two_zpow (by omega) (by omega)
  calc digits * (10 : ℚ) ^ p < 2 ^ ((digits.log2 + 1 : Nat) : Int) * 10 ^ p :=
        mul_lt_mul_of_pos_right length (by positivity)
    _ ≤ 2 ^ ((digits.log2 + 1 : Nat) : Int) * 2 ^ (3 * p) :=
        mul_le_mul_of_nonneg_left power (zpow_pos two_pos _).le
    _ = 2 ^ (((digits.log2 + 1 : Nat) : Int) + 3 * p) := (zpow_add₀ two_ne_zero _ _).symm
    _ ≤ 2 ^ (-1075 : Int) := zpow_le_zpow_right₀ one_le_two (by omega)

/-- The fraction that stands for a decimal. -/
theorem decimal_eq (digits : Nat) (p : Int) :
    ((digits * tenPow p.toNat : Nat) : ℚ) / (tenPow (-p).toNat : Nat) = digits * 10 ^ p := by
  have ten := pow_toNat (b := 10) (by norm_num) p
  have down : (0 : ℚ) < tenPow (-p).toNat := Nat.cast_pos.mpr (tenPow_pos _)
  have powers : (tenPow p.toNat : ℚ) = 10 ^ p * tenPow (-p).toNat := by simpa [tenPow] using ten
  rw [Nat.cast_mul, powers, ← mul_assoc, mul_div_cancel_right₀ _ down.ne']

/-- What a decimal is read as: a number in whose interval it is, or infinity if it is beyond all
numbers. -/
theorem ofDecimal_cases (negative : Bool) (digits : Nat) (p : Int) :
    (∃ x : Finite, ofDecimal negative digits p = .finite x ∧ x.negative = negative ∧
        x.interval.Contains (digits * 10 ^ p)) ∨
      ofDecimal negative digits p = .infinite negative ∧ overflow ≤ digits * 10 ^ p := by
  by_cases none_ : digits = 0
  · refine .inl ⟨⟨negative, 0, -1074, by decide⟩, ?_, rfl, ?_⟩
    · rw [ofDecimal, if_pos none_, zero]
    · rw [none_, Nat.cast_zero, zero_mul]
      exact contains_of_tiny negative le_rfl (zpow_pos two_pos _).le
  by_cases large : 400 < p
  · rw [ofDecimal, if_neg none_, if_pos large]
    exact .inr ⟨rfl, overflow_le_decimal none_ large⟩
  by_cases small : p < -(digits.log2 + 400 : Int)
  · rw [ofDecimal, if_neg none_, if_neg large, if_pos small]
    exact .inl ⟨_, rfl, rfl,
      contains_of_tiny negative (by positivity) (decimal_lt_least small).le⟩
  · rw [ofDecimal, if_neg none_, if_neg large, if_neg small, ← decimal_eq]
    rcases lt_or_ge (((digits * tenPow p.toNat : Nat) : ℚ) / (tenPow (-p).toNat : Nat)) overflow
      with inside | beyond
    · exact .inl (exists_nearest negative (tenPow_pos _) inside)
    · exact .inr ⟨nearest_of_overflow negative (tenPow_pos _) beyond, beyond⟩

/-- **A decimal in the interval of a number is read as the number.** -/
theorem ofDecimal_of_contains (inside : x.interval.Contains (digits * 10 ^ p)) :
    ofDecimal x.negative digits p = .finite x := by
  rcases ofDecimal_cases x.negative digits p with ⟨y, made, sign, insideMade⟩ | ⟨-, beyond⟩
  · rw [made, Finite.ext_of_contains sign insideMade inside]
  · exact absurd (lt_overflow inside) (not_lt.mpr beyond)

end Decimal

/-! ## Texts of numbers -/

theorem readBinary64?_formatNumber {x : Finite} (nonzero : x.significand ≠ 0) :
    readBinary64? (formatNumber (.finite x)) = some (.finite x) := by
  obtain ⟨q, ⟨whole, fraction, spells, value⟩, inside⟩ := denotes_magnitudeText nonzero
  rw [formatNumber_of_nonzero nonzero, Numeral.readBinary64?_of_read? (spells.read? x.negative)]
  rw [← value x.negative] at inside
  exact congrArg some (ofDecimal_of_contains inside)

/-- Neither a digit nor a minus or a point is blank. -/
theorem trimmed_formatNumber {x : Binary64} (finite : x.isFinite = true) :
    Trimmed (formatNumber x) := by
  refine trimmed_of_solid (fun c listed => ?_) ?_
  · rcases mem_formatNumber finite listed with digit | rfl | rfl
    · exact isBlank_of_isDigit digit
    · decide
    · decide
  · cases x with
    | nan => cases finite
    | infinite negative => cases finite
    | finite x =>
      by_cases vanishes : x.significand = 0
      · rw [formatNumber_of_zero vanishes]
        decide
      · obtain ⟨q, ⟨whole, fraction, spells, -⟩, -⟩ := denotes_magnitudeText vanishes
        obtain ⟨c, rest, starts, -⟩ := spells.exists_cons
        rw [formatNumber_of_nonzero vanishes, String.toList_ofList, starts]
        split <;> exact List.cons_ne_nil _ _

/-- The number, but zero without its sign. -/
def unsigned (x : Binary64) : Binary64 :=
  if x.isZero then zero false else x

/-- The two zeros are equal as numbers. -/
theorem same_unsigned {x : Binary64} (finite : x.isFinite = true) : x.unsigned.same x = true := by
  cases x with
  | nan => cases finite
  | infinite negative => cases finite
  | finite x =>
    rw [unsigned]
    split
    · next vanishes =>
      have nothing : x.significand = 0 := beq_iff_eq.mp vanishes
      rw [zero, same, units_of_zero rfl, units_of_zero nothing]
      rfl
    · exact same_self rfl

/-- **A number is read back from its text**, and zero as the zero without a sign. -/
theorem parseNumber_formatNumber {x : Binary64} (finite : x.isFinite = true) :
    parseNumber (formatNumber x) = some x.unsigned := by
  have trimmed := trimmed_formatNumber finite
  cases x with
  | nan => cases finite
  | infinite negative => cases finite
  | finite x =>
    by_cases vanishes : x.significand = 0
    · rw [formatNumber_of_zero vanishes, unsigned, isZero, vanishes, beq_self_eq_true, if_pos rfl]
      decide
    · rw [parseNumber, trimmed.1, readBinary64?_formatNumber vanishes, unsigned, isZero,
        beq_eq_false_iff_ne.mpr vanishes]
      rfl

/-! ## Texts of integers -/

theorem natAbs_int64_le (i : Int64) : i.toInt.natAbs ≤ twoPow 63 := by
  have low := i.minValue_le_toInt
  have high := i.toInt_le
  have least : Int64.minValue.toInt = -(twoPow 63 : Int) := rfl
  have greatest : Int64.maxValue.toInt = (twoPow 63 : Int) - 1 := rfl
  omega

/-- Integers of 64 bits are far from being too large. -/
theorem natAbs_int64_lt_overflow (i : Int64) :
    (i.toInt.natAbs : ℚ) / (1 : Nat) < overflow := by
  have bits : (i.toInt.natAbs : ℚ) ≤ (twoPow 63 : Nat) := Nat.cast_le.mpr (natAbs_int64_le i)
  rw [Nat.cast_one, div_one]
  calc (i.toInt.natAbs : ℚ) ≤ (twoPow 63 : Nat) := bits
    _ < (2 ^ 54 - 1) * 2 ^ (10 : Int) := by norm_num [twoPow]
    _ ≤ overflow :=
        mul_le_mul_of_nonneg_left (zpow_le_zpow_right₀ one_le_two (by decide)) (by norm_num)

theorem isFinite_ofInt64 (i : Int64) : (ofInt i.toInt).isFinite = true := by
  obtain ⟨x, made, -, -⟩ := exists_nearest (i.toInt < 0) one_pos (natAbs_int64_lt_overflow i)
  rw [ofInt, made]
  rfl

theorem parseNumber_int64Text (i : Int64) :
    parseNumber (intText i.toInt) = some (.ofInt i.toInt) :=
  parseNumber_intText (isFinite_ofInt64 i)

end Binary64

end PhaseTable
