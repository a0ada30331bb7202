/-
# PhaseTable.Proofs.Number.NumberTexts -- different numbers have different texts

The text of a finite number is a numeral without an exponent: digits, perhaps a minus before and a
point among them (`Numeral.Spells`).  What the numeral denotes lies in the interval of the number
(`Binary64.read?_formatNumber`), and the intervals of two numbers do not meet.  So numbers with one
text are equal, and the two zeros are the only ones that share a text.
-/
import PhaseTable.Proofs.Number.IntegerTexts

namespace PhaseTable

set_option autoImplicit false

/-- What a numeral denotes, without its sign. -/
def Numeral.magnitude (n : Numeral) : ℚ :=
  Nat.ofDigitChars 10 (n.whole ++ n.fraction) 0 * (10 : ℚ) ^ (n.exponent - n.fraction.length)

namespace Binary64

open Numeral

/-- The number that digits before and behind a point denote. -/
theorem magnitude_of_digits {negative : Bool} {whole fraction : List Char} {d : Nat} {p : Int}
    (value : Nat.ofDigitChars 10 (whole ++ fraction) 0 = d)
    (places : (fraction.length : Int) = -p) :
    (Numeral.mk negative whole fraction 0).magnitude = d * 10 ^ p := by
  have exponent : (0 : Int) - fraction.length = p := by omega
  rw [magnitude, value, exponent]

/-- The characters are digits that denote a number, perhaps with a point among them. -/
def Denotes (cs : List Char) (q : ℚ) : Prop :=
  ∃ whole fraction, Spells cs whole fraction ∧
    ∀ negative, (Numeral.mk negative whole fraction 0).magnitude = q

section Places

variable {d : Nat}

theorem denotes_whole (nonzero : d ≠ 0) (places : Nat) :
    Denotes (decimalDigits d ++ List.replicate places '0') (d * 10 ^ places) := by
  have value : Nat.ofDigitChars 10 (decimalDigits (d * tenPow places) ++ []) 0 =
      d * tenPow places := by
    rw [List.append_nil]
    exact Nat.ofDigitChars_ten_toDigits
  have power : (tenPow places : ℚ) = 10 ^ places := by
    rw [tenPow, Nat.pow_eq, Nat.cast_pow, Nat.cast_ofNat]
  rw [← decimalDigits_mul_tenPow nonzero]
  refine ⟨_, [], spells_decimalDigits _, fun negative => ?_⟩
  rw [magnitude_of_digits (p := 0) value rfl, Nat.cast_mul, power, zpow_zero, mul_one]

theorem denotes_inside {places : Nat} (some_ : 0 < places)
    (inside : places < (decimalDigits d).length) :
    Denotes ((decimalDigits d).take ((decimalDigits d).length - places) ++
      '.' :: (decimalDigits d).drop ((decimalDigits d).length - places))
      (d * 10 ^ (-places : Int)) := by
  have value : Nat.ofDigitChars 10 (decimalDigits d) 0 = d := Nat.ofDigitChars_ten_toDigits
  generalize place : (decimalDigits d).length - places = before
  have whole : (decimalDigits d).take before ≠ [] := by
    rw [ne_eq, List.take_eq_nil_iff, not_or]
    exact ⟨by omega, decimalDigits_ne_nil d⟩
  have fraction : (decimalDigits d).drop before ≠ [] := by
    rw [ne_eq, List.drop_eq_nil_iff]
    omega
  refine ⟨_, _, ⟨(if_neg fraction).symm, whole, fun c listed => ?_, fun c listed => ?_⟩,
    fun negative => magnitude_of_digits (by rw [List.take_append_drop, value]) ?_⟩
  · exact isDigit_of_mem_decimalDigits (List.mem_of_mem_take listed)
  · exact isDigit_of_mem_decimalDigits (List.mem_of_mem_drop listed)
  · rw [List.length_drop]
    omega

theorem denotes_before {places : Nat} (before : (decimalDigits d).length ≤ places) :
    Denotes ('0' :: '.' :: (List.replicate (places - (decimalDigits d).length) '0' ++
      decimalDigits d)) (d * 10 ^ (-places : Int)) := by
  have value : Nat.ofDigitChars 10 (decimalDigits d) 0 = d := Nat.ofDigitChars_ten_toDigits
  generalize zeros : places - (decimalDigits d).length = missing
  have fraction : List.replicate missing '0' ++ decimalDigits d ≠ [] :=
    List.append_ne_nil_of_right_ne_nil _ (decimalDigits_ne_nil d)
  refine ⟨['0'], _, ⟨(if_neg fraction).symm, List.cons_ne_nil _ _, by simp, fun c listed => ?_⟩,
    fun negative => magnitude_of_digits ?_ ?_⟩
  · rcases List.mem_append.mp listed with padding | digit
    · rw [List.eq_of_mem_replicate padding]
      rfl
    · exact isDigit_of_mem_decimalDigits digit
  · have oneMore : '0' :: List.replicate missing '0' = List.replicate (missing + 1) '0' := rfl
    rw [List.singleton_append, ← List.cons_append, oneMore, Nat.ofDigitChars_append,
      Nat.ofDigitChars_replicate_zero, Nat.mul_zero, value]
  · rw [List.length_append, List.length_replicate]
    omega

/-- A decimal is written in digits that denote it. -/
theorem denotes_positional (nonzero : d ≠ 0) (p : Int) :
    Denotes (positional (decimalDigits d) p) (d * 10 ^ p) := by
  simp only [positional]
  split
  · next large =>
    have denotes := denotes_whole nonzero p.toNat
    rwa [← zpow_natCast, Int.toNat_of_nonneg large] at denotes
  · next small =>
    have exponent : -((-p).toNat : Int) = p := by omega
    split
    · next inside =>
      have denotes := denotes_inside (by omega) inside
      rwa [exponent] at denotes
    · next before =>
      have denotes := denotes_before (Nat.not_lt.mp before)
      rwa [exponent] at denotes

end Places

/-- The digits of a number denote one of its interval. -/
theorem denotes_magnitudeText {x : Finite} (nonzero : x.significand ≠ 0) :
    ∃ q, Denotes x.magnitudeText q ∧ x.interval.Contains q := by
  obtain ⟨some_, inside⟩ := Finite.contains_shortest nonzero .upper
  exact ⟨_, denotes_positional some_ _, inside⟩

theorem formatNumber_of_zero {x : Finite} (vanishes : x.significand = 0) :
    formatNumber (.finite x) = "0" := by
  rw [formatNumber, isZero, vanishes]
  rfl

theorem formatNumber_of_nonzero {x : Finite} (nonzero : x.significand ≠ 0) :
    formatNumber (.finite x) =
      String.ofList (if x.negative then '-' :: x.magnitudeText else x.magnitudeText) := by
  rw [formatNumber, isZero, beq_eq_false_iff_ne.mpr nonzero]
  rfl

/-- **The text of a number is read as a numeral in the interval of the number.** -/
theorem read?_formatNumber {x : Finite} (nonzero : x.significand ≠ 0) :
    ∃ n, Numeral.read? (formatNumber (.finite x)) = some n ∧ n.negative = x.negative ∧
      x.interval.Contains n.magnitude := by
  obtain ⟨q, ⟨whole, fraction, spells, value⟩, inside⟩ := denotes_magnitudeText nonzero
  refine ⟨_, ?_, rfl, value x.negative ▸ inside⟩
  rw [formatNumber_of_nonzero nonzero]
  exact spells.read? x.negative

/-- The text of a number other than zero is not that of zero. -/
theorem formatNumber_ne_zero {x : Finite} (nonzero : x.significand ≠ 0) :
    formatNumber (.finite x) ≠ "0" := by
  intro same
  obtain ⟨n, read, -, inside⟩ := read?_formatNumber nonzero
  have digit : Numeral.read? "0" = some ⟨false, ['0'], [], 0⟩ := by decide
  have nothing : (Numeral.mk false ['0'] [] 0).magnitude = 0 := by
    rw [magnitude_of_digits (d := 0) (p := 0) rfl rfl, Nat.cast_zero, zero_mul]
  rw [same, digit] at read
  rw [← Option.some.inj read, nothing] at inside
  exact lt_irrefl 0 (Interval.Contains.pos nonzero inside)

theorem units_of_zero {x : Finite} (vanishes : x.significand = 0) : x.units = 0 := by
  simp [Finite.units, Finite.magnitude, vanishes]

theorem same_self {x : Binary64} (finite : x.isFinite = true) : x.same x = true := by
  cases x with
  | nan => cases finite
  | infinite negative => cases finite
  | finite x => exact beq_self_eq_true x.units

/-- **Numbers that are shown in the same way are equal**, the two zeros among them. -/
theorem same_of_formatNumber {x y : Binary64} (finite : x.isFinite = true)
    (finiteY : y.isFinite = true) (shown : formatNumber x = formatNumber y) :
    x.same y = true := by
  cases x with
  | nan => cases finite
  | infinite negative => cases finite
  | finite x =>
    cases y with
    | nan => cases finiteY
    | infinite negative => cases finiteY
    | finite y =>
      rw [same, beq_iff_eq]
      by_cases xZero : x.significand = 0
      · by_cases yZero : y.significand = 0
        · rw [units_of_zero xZero, units_of_zero yZero]
        · rw [formatNumber_of_zero xZero] at shown
          exact absurd shown.symm (formatNumber_ne_zero yZero)
      · by_cases yZero : y.significand = 0
        · rw [formatNumber_of_zero yZero] at shown
          exact absurd shown (formatNumber_ne_zero xZero)
        · obtain ⟨n, read, sign, inside⟩ := read?_formatNumber xZero
          obtain ⟨m, readY, signY, insideY⟩ := read?_formatNumber yZero
          obtain rfl : n = m := by
            rw [shown, readY] at read
            exact (Option.some.inj read).symm
          obtain ⟨significands, exponents⟩ := Finite.eq_of_contains inside insideY
          rw [Finite.units, Finite.units, Finite.magnitude, Finite.magnitude, significands,
            exponents, ← sign, ← signY]

/-- Texts of finite numbers are made of digits, a minus and a point. -/
theorem mem_formatNumber {x : Binary64} (finite : x.isFinite = true) {c : Char}
    (listed : c ∈ (formatNumber x).toList) : c.isDigit = true ∨ c = '-' ∨ c = '.' := by
  cases x with
  | nan => cases finite
  | infinite negative => cases finite
  | finite x =>
    by_cases vanishes : x.significand = 0
    · rw [formatNumber_of_zero vanishes] at listed
      obtain rfl : c = '0' := List.mem_singleton.mp listed
      exact .inl rfl
    · obtain ⟨q, ⟨whole, fraction, spells, -⟩, -⟩ := denotes_magnitudeText vanishes
      rw [formatNumber_of_nonzero vanishes, String.toList_ofList] at listed
      split at listed
      · rcases List.mem_cons.mp listed with minus | inside
        · exact .inr (.inl minus)
        · exact (spells.mem inside).imp_right .inr
      · exact (spells.mem listed).imp_right .inr

end Binary64

end PhaseTable
