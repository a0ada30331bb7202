/-
# PhaseTable.Proofs.Number.IntegerTexts -- integers as texts and as numbers

An integer is written in decimal digits (`intText`).  The text is read back as the integer
(`readInt?_intText`), and as the number that the integer is (`readBinary64?_intText`).

A number is written with as few digits as lead back to it (`Finite.shortest`), but an integer of
53 bits keeps all of its digits (`formatNumber_ofInt`): the reals that round to it lie less than
one half around it, so a grid of tens, hundreds and so on has a point among them only if that
point is the integer itself, and then zeros are written for the digits that the grid leaves out.
-/
import PhaseTable.Number.Positional
import PhaseTable.Proofs.Number.Shortest
import PhaseTable.Proofs.Number.Spelling

namespace PhaseTable

set_option autoImplicit false

open Text

/-! ## Digits -/

theorem isDigit_of_mem_decimalDigits {n : Nat} {c : Char} (listed : c ∈ decimalDigits n) :
    c.isDigit = true :=
  Nat.isDigit_of_mem_toDigits (by decide) (by decide) listed

theorem all_isDigit_decimalDigits (n : Nat) : (decimalDigits n).all Char.isDigit = true :=
  List.all_eq_true.mpr fun _ => isDigit_of_mem_decimalDigits

theorem decimalDigits_ne_nil (n : Nat) : decimalDigits n ≠ [] :=
  Nat.toDigits_ne_nil

/-- Ten times a number is written with one more zero. -/
theorem decimalDigits_mul_tenPow {n : Nat} (nonzero : n ≠ 0) (places : Nat) :
    decimalDigits (n * tenPow places) = decimalDigits n ++ List.replicate places '0' := by
  induction places with
  | zero => simp [tenPow]
  | succ places ih =>
      have shorter : 0 < n * tenPow places := Nat.mul_pos (by omega) (tenPow_pos places)
      have tenfold : n * tenPow (places + 1) = 10 * (n * tenPow places) + 0 := by
        have next : tenPow (places + 1) = tenPow places * 10 := rfl
        rw [next, ← Nat.mul_assoc, Nat.mul_comm, Nat.add_zero]
      have single : Nat.toDigits 10 0 = ['0'] := Nat.toDigits_zero 10
      rw [List.replicate_succ', ← List.append_assoc, ← ih, ← single, tenfold]
      exact (Nat.toDigits_append_toDigits (by decide) shorter (by decide)).symm

/-! ## Integers -/

theorem toList_intText (i : Int) :
    (intText i).toList =
      if i < 0 then '-' :: decimalDigits i.natAbs else decimalDigits i.natAbs :=
  String.toList_ofList

/-- Texts of integers hold digits and perhaps a minus. -/
theorem mem_intText {i : Int} {c : Char} (listed : c ∈ (intText i).toList) :
    c = '-' ∨ c.isDigit = true := by
  rw [toList_intText] at listed
  split at listed
  · exact (List.mem_cons.mp listed).imp_right isDigit_of_mem_decimalDigits
  · exact .inr (isDigit_of_mem_decimalDigits listed)

theorem spells_decimalDigits (n : Nat) :
    Numeral.Spells (decimalDigits n) (decimalDigits n) [] :=
  Numeral.spells_digits (decimalDigits_ne_nil n) (all_isDigit_decimalDigits n)

theorem readSign_intText (i : Int) :
    readSign (intText i).toList = (decide (i < 0), decimalDigits i.natAbs) := by
  have read := (spells_decimalDigits i.natAbs).readSign (decide (i < 0))
  rw [toList_intText]
  simpa only [decide_eq_true_eq] using read

/-- **The text of an integer is read back as the integer.** -/
theorem readInt?_intText (i : Int) : readInt? (intText i) = some i := by
  have digits : decimalDigits i.natAbs ≠ [] ∧ (decimalDigits i.natAbs).all Char.isDigit = true :=
    ⟨decimalDigits_ne_nil _, all_isDigit_decimalDigits _⟩
  have value : Nat.ofDigitChars 10 (decimalDigits i.natAbs) 0 = i.natAbs :=
    Nat.ofDigitChars_ten_toDigits
  simp only [readInt?, readSign_intText, if_pos digits, value, decide_eq_true_eq]
  split
  · next negative => exact congrArg some (by omega)
  · next positive => exact congrArg some (by omega)

/-- Different integers are written in different texts. -/
theorem intText_injective : Function.Injective intText := by
  intro i j same
  have read := readInt?_intText i
  rw [same, readInt?_intText] at read
  exact (Option.some.inj read).symm

/-- Neither a digit nor a minus is blank. -/
theorem trimmed_intText (i : Int) : Trimmed (intText i) := by
  refine trimmed_of_solid (fun c listed => ?_) ?_
  · rcases mem_intText listed with rfl | digit
    · decide
    · exact isBlank_of_isDigit digit
  · rw [toList_intText]
    split
    · exact List.cons_ne_nil _ _
    · exact decimalDigits_ne_nil _

/-! ## Words -/

/-- Neither a digit nor a minus has a small letter. -/
theorem asciiLower_intText (i : Int) : asciiLower (intText i) = intText i := by
  have each : ∀ c ∈ (intText i).toList, c.toLower = c := by
    intro c listed
    refine (toLower_eq_iff ?_).mpr rfl
    rcases mem_intText listed with rfl | digit
    · decide
    · have bounds := isDigit_iff.mp digit
      omega
  have unchanged : (intText i).toList.map Char.toLower = (intText i).toList :=
    (List.map_congr_left each).trans (List.map_id _)
  rw [asciiLower, unchanged, String.ofList_toList]

/-- The text of an integer is a word in any case only if it is the word. -/
theorem sameIgnoringAsciiCase_intText (i : Int) {word : String} (small : asciiLower word = word) :
    sameIgnoringAsciiCase (intText i) word = decide (intText i = word) := by
  rw [Bool.eq_iff_iff, sameIgnoringAsciiCase_iff, asciiLower_intText, small, decide_eq_true_eq]

/-! ## Numerals -/

namespace Binary64

/-- A decimal numeral without an exponent denotes an integer. -/
theorem ofDecimal_zero (negative : Bool) (n : Nat) :
    ofDecimal negative n 0 = nearest negative n 1 := by
  have one : tenPow 0 = 1 := rfl
  by_cases vanishes : n = 0
  · simp only [ofDecimal, nearest, if_pos vanishes]
  · have small : ¬(400 : Int) < 0 := by decide
    have large : ¬(0 : Int) < -((n.log2 : Int) + 400) := by omega
    simp only [ofDecimal, if_neg vanishes, if_neg small, if_neg large, Int.toNat_zero, Int.neg_zero,
      one, Nat.mul_one]

end Binary64

/-- **The text of an integer is read as the number that the integer is.** -/
theorem readBinary64?_intText (i : Int) : readBinary64? (intText i) = some (.ofInt i) := by
  have value : Nat.ofDigitChars 10 (decimalDigits i.natAbs) 0 = i.natAbs :=
    Nat.ofDigitChars_ten_toDigits
  have read := Numeral.readBinary64?_of_read?
    ((spells_decimalDigits i.natAbs).read? (decide (i < 0)))
  simp only [decide_eq_true_eq, Numeral.value, List.append_nil, value, List.length_nil] at read
  rw [intText, read]
  exact congrArg some (Binary64.ofDecimal_zero (i < 0) i.natAbs)

theorem parseNumber_intText {i : Int} (finite : (Binary64.ofInt i).isFinite = true) :
    parseNumber (intText i) = some (.ofInt i) := by
  rw [parseNumber, (trimmed_intText i).1, readBinary64?_intText, Option.filter_some, finite,
    if_pos rfl]

/-! ## Numbers that are integers -/

namespace Binary64

/-- The interval of an integer whose last bit stands for one or less. -/
structure Interval.Around (i : Interval) (n places : Nat) : Prop where
  /-- The last bit stands for `2 ^ -places`. -/
  exponent : i.exponent = -(places : Int)
  value : i.value = n * twoPow (places + 2)
  low : i.value < i.low + 3
  below : i.low < i.value
  high : i.high = i.value + 2

namespace Interval.Around

variable {i : Interval} {n places : Nat}

/-- On a grid of tens, hundreds and so on nothing has to be scaled down. -/
theorem onGrid (around : i.Around n places) (p count : Nat) :
    i.onGrid p count = (count, twoPow (places + 2) * tenPow p) := by
  have up : (i.exponent - 2).toNat = 0 := by rw [around.exponent]; omega
  have down : (2 - i.exponent).toNat = places + 2 := by rw [around.exponent]; omega
  have left : (-(p : Int)).toNat = 0 := by omega
  have one : twoPow 0 = 1 ∧ tenPow 0 = 1 := ⟨rfl, rfl⟩
  simp only [Interval.onGrid, up, down, left, one, Nat.mul_one, Int.toNat_natCast]

/-- The only integer in the interval is the one that it is around. -/
theorem eq_of_holds (around : i.Around n places) {p digits : Nat}
    (holds : i.holds p digits = true) : digits * tenPow p = n := by
  have unit : digits * (twoPow (places + 2) * tenPow p) =
      digits * tenPow p * twoPow (places + 2) := by
    rw [Nat.mul_comm (twoPow _), Nat.mul_assoc]
  have bounds : i.low ≤ digits * tenPow p * twoPow (places + 2) ∧
      digits * tenPow p * twoPow (places + 2) ≤ i.high := by
    simp only [Interval.holds, around.onGrid, unit] at holds
    split at holds
    · simpa using holds
    · have strict : i.low < digits * tenPow p * twoPow (places + 2) ∧
          digits * tenPow p * twoPow (places + 2) < i.high := by simpa using holds
      exact ⟨strict.1.le, strict.2.le⟩
  obtain ⟨low, high⟩ := bounds
  have near := around.low
  rw [around.high] at high
  rw [around.value] at high near
  -- Two integers that differ are at least four steps of the interval apart.
  have wide : 4 ≤ twoPow (places + 2) := by
    have four : twoPow (places + 2) = twoPow places * 4 := twoPow_add places 2
    have := twoPow_pos places
    omega
  generalize digits * tenPow p = m at low high ⊢
  by_contra other
  rcases Nat.lt_or_gt_of_ne other with less | more
  · have step : (m + 1) * twoPow (places + 2) ≤ n * twoPow (places + 2) :=
      Nat.mul_le_mul_right _ less
    rw [Nat.add_mul] at step
    omega
  · have step : (n + 1) * twoPow (places + 2) ≤ m * twoPow (places + 2) :=
      Nat.mul_le_mul_right _ more
    rw [Nat.add_mul] at step
    omega

/-- The grid of all integers has a point in the interval. -/
theorem pointOn?_zero (around : i.Around n places) (nonzero : n ≠ 0) (tie : Tie) :
    (i.pointOn? tie 0).isSome = true := by
  have grid : ∀ count, i.onGrid 0 count = (count, twoPow (places + 2)) := by
    intro count
    have := around.onGrid 0 count
    rwa [show tenPow 0 = 1 from rfl, Nat.mul_one] at this
  have lower : i.value / twoPow (places + 2) = n := by
    rw [around.value, Nat.mul_div_cancel _ (twoPow_pos _)]
  have inside : i.holds 0 n = true := by
    have below := around.below
    have high := around.high
    simp only [Interval.holds, grid, ← around.value]
    split
    · simp only [Bool.and_eq_true, decide_eq_true_eq]
      omega
    · simp only [Bool.and_eq_true, decide_eq_true_eq]
      omega
  exact Interval.pointOn?_of_holds (by rw [grid, lower]) nonzero inside

/-- From a grid of powers of ten down to that of all integers a point is found, and it is the
integer. -/
theorem firstPoint_eq (around : i.Around n places) (nonzero : n ≠ 0) (tie : Tie) {grids p : Nat}
    (enough : p < grids) :
    ∃ digits power : Nat, i.firstPoint tie grids p = ⟨digits, power⟩ ∧
      digits * tenPow power = n := by
  have last : (i.pointOn? tie ((p : Int) - p)).isSome = true := by
    rw [Int.sub_self]
    exact around.pointOn?_zero nonzero tie
  obtain ⟨digits, j, near, first, found⟩ := Interval.firstPoint_of_some enough last
  rw [← Int.ofNat_sub near] at first found
  exact ⟨digits, p - j, first, around.eq_of_holds (Interval.holds_of_pointOn? found).2⟩

end Interval.Around

/-- The number of an integer of 53 bits lies in the middle of an interval without another
integer. -/
theorem around_interval {x : Finite} {n places : Nat}
    (significand : x.significand = n * twoPow places) (exponent : x.exponent = -(places : Int))
    (nonzero : n ≠ 0) : x.interval.Around n places := by
  have value : 4 * x.significand = n * twoPow (places + 2) := by
    have four : twoPow (places + 2) = twoPow places * 4 := twoPow_add places 2
    rw [significand, four, Nat.mul_comm 4, Nat.mul_assoc]
  have positive : 0 < x.significand := by
    rw [significand]
    exact Nat.mul_pos (by omega) (twoPow_pos places)
  refine ⟨exponent, value, ?_, ?_, rfl⟩
  · simp only [Finite.interval]
    split <;> omega
  · simp only [Finite.interval]
    split <;> omega

/-- **The shortest decimal of an integer of 53 bits is the integer**, with or without the zeros at
its end. -/
theorem shortest_of_small {n : Nat} (nonzero : n ≠ 0) (small : n < twoPow 53) {x : Finite}
    (significand : x.significand = n * twoPow (52 - n.log2))
    (exponent : x.exponent = -((52 - n.log2 : Nat) : Int)) (tie : Tie) :
    ∃ digits power : Nat, x.shortest tie = ⟨digits, power⟩ ∧ digits * tenPow power = n := by
  obtain ⟨bits, low, high⟩ := shifted_bounds nonzero small
  rw [← significand] at low high
  have filled : x.significand ≠ 0 := Nat.ne_of_gt (Nat.lt_of_lt_of_le (twoPow_pos 52) low)
  have length : x.significand.log2 = 52 := by
    have below : x.significand.log2 < 53 := (Nat.log2_lt filled).mpr high
    have above : 52 ≤ x.significand.log2 := (Nat.le_log2 filled).mpr low
    omega
  -- The coarsest grid is that of a power of ten from 1 to 16.
  obtain ⟨p, start, enough⟩ : ∃ p : Nat, x.tenPowerAbove = p ∧ p < 24 := by
    refine ⟨x.tenPowerAbove.toNat, ?_, ?_⟩
    · rw [Finite.tenPowerAbove, length, exponent]
      omega
    · rw [Finite.tenPowerAbove, length, exponent]
      omega
  rw [Finite.shortest, if_neg filled, start]
  exact (around_interval significand exponent nonzero).firstPoint_eq nonzero tie enough

/-- An integer of 53 bits is written as a number with all of its digits. -/
theorem magnitudeText_of_small {n : Nat} (nonzero : n ≠ 0) (small : n < twoPow 53) {x : Finite}
    (significand : x.significand = n * twoPow (52 - n.log2))
    (exponent : x.exponent = -((52 - n.log2 : Nat) : Int)) :
    x.magnitudeText = decimalDigits n := by
  obtain ⟨digits, power, shortest, rfl⟩ :=
    shortest_of_small nonzero small significand exponent .upper
  have some_ : digits ≠ 0 := by
    rintro rfl
    exact nonzero (Nat.zero_mul _)
  have whole : (0 : Int) ≤ power := Int.natCast_nonneg power
  rw [Finite.magnitudeText, shortest, decimalDigits_mul_tenPow some_]
  simp only [positional, if_pos whole, Int.toNat_natCast]

end Binary64

/-- **An integer of 53 bits is shown as a number in the same way as an integer.** -/
theorem formatNumber_ofInt {i : Int} (small : i.natAbs < twoPow 53) :
    formatNumber (.ofInt i) = intText i := by
  by_cases vanishes : i = 0
  · subst vanishes
    decide
  · have nonzero : i.natAbs ≠ 0 := by omega
    obtain ⟨canonical, rounded⟩ := Binary64.nearest_of_small (i < 0) nonzero small
    obtain ⟨-, low, -⟩ := Binary64.shifted_bounds nonzero small
    have positive : i.natAbs * twoPow (52 - i.natAbs.log2) ≠ 0 :=
      Nat.ne_of_gt (Nat.lt_of_lt_of_le (twoPow_pos 52) low)
    have digits := Binary64.magnitudeText_of_small nonzero small
      (x := ⟨decide (i < 0), _, _, canonical⟩) rfl rfl
    rw [Binary64.ofInt, rounded, formatNumber, Binary64.isZero, beq_eq_false_iff_ne.mpr positive]
    simp only [Bool.false_eq_true, if_false, Binary64.text, digits, intText, decide_eq_true_eq]

end PhaseTable
