/-
# PhaseTable.Proofs.Number.WholeValues -- integers among the numbers

A number is an integer exactly if its value is one (`toInt?_eq_some_iff`).  The integers that are
numbers are those of which 53 bits count at most (`exists_value_iff`).  Every other integer is
rounded to an integer too (`Finite.Nearest.exists_int`).

Rounding does not go beyond a number (`Finite.Nearest.value_le`, `Finite.Nearest.le_value`), so no
integer of 64 bits is rounded to one below them.  The largest ones are rounded to `2 ^ 63`, which is
above them (`Finite.Nearest.limit_le_iff`).
-/
import PhaseTable.Proofs.Number.Values

namespace PhaseTable

set_option autoImplicit false

namespace Binary64

/-! ## Integers that are numbers -/

namespace Finite

variable {x y : Finite} {q : ℚ}

theorem cast_twoPow (n : Nat) : (twoPow n : ℚ) = 2 ^ n := by
  rw [twoPow, Nat.pow_eq, Nat.cast_pow, Nat.cast_ofNat]

theorem magnitude_eq (x : Finite) : (x.magnitude : ℚ) = x.absValue * twoPow 1074 := by
  obtain ⟨-, least, -, -⟩ := x.canonical
  have exponent : ((x.exponent + 1074).toNat : Int) = x.exponent + (1074 : Nat) := by omega
  have power : (twoPow (x.exponent + 1074).toNat : ℚ) = 2 ^ x.exponent * twoPow 1074 := by
    rw [cast_twoPow, ← zpow_natCast, exponent, zpow_add₀ two_ne_zero, zpow_natCast, cast_twoPow]
  rw [magnitude, Nat.cast_mul, power, absValue, mul_assoc]

theorem units_eq (x : Finite) : (x.units : ℚ) = x.value * twoPow 1074 := by
  rw [units, value, signed]
  split
  · rw [Int.cast_neg, Int.cast_natCast, magnitude_eq, neg_mul]
  · rw [Int.cast_natCast, magnitude_eq]

end Finite

variable {x y : Finite}

theorem lt_iff : lt (.finite x) (.finite y) = true ↔ x.value < y.value := by
  have unit : (0 : ℚ) < twoPow 1074 := Nat.cast_pos.mpr (twoPow_pos 1074)
  rw [lt, decide_eq_true_eq, ← Int.cast_lt (R := ℚ), Finite.units_eq, Finite.units_eq,
    mul_lt_mul_iff_left₀ unit]

/-- **The integer that a number is, is its value.** -/
theorem toInt?_eq_some_iff {i : Int} : (finite x).toInt? = some i ↔ x.value = i := by
  have unit : (twoPow 1074 : ℚ) ≠ 0 := Nat.cast_ne_zero.mpr (Nat.ne_of_gt (twoPow_pos 1074))
  have one : ((twoPow 1074 : Nat) : Int) ≠ 0 :=
    Int.natCast_ne_zero.mpr (Nat.ne_of_gt (twoPow_pos 1074))
  have multiple : x.units = i * (twoPow 1074 : Nat) ↔ x.value = i := by
    rw [← Int.cast_inj (α := ℚ), Finite.units_eq, Int.cast_mul, Int.cast_natCast,
      mul_left_inj' unit]
  rw [← multiple]
  simp only [toInt?]
  constructor
  · intro whole
    split at whole
    · next divides =>
      rw [← Option.some.inj whole, Int.ediv_mul_cancel_of_emod_eq_zero divides]
    · cases whole
  · intro units
    rw [units, Int.mul_emod_left, if_pos rfl, Int.mul_ediv_cancel _ one]

/-- A number of 53 bits with zeros behind them. -/
theorem exists_value {k e : Nat} (bits : k < twoPow 53) (small : e ≤ 971) (negative : Bool) :
    ∃ x : Finite, x.value = signed negative ((k * twoPow e : Nat) : ℚ) := by
  by_cases none_ : k = 0
  · refine ⟨⟨negative, 0, -1074, by decide⟩, ?_⟩
    rw [Finite.value, Finite.absValue_eq_zero rfl, none_, Nat.zero_mul, Nat.cast_zero]
  · obtain ⟨length, low, high⟩ := shifted_bounds none_ bits
    have canonical : Canonical (k * twoPow (52 - k.log2)) ((e : Int) - (52 - k.log2 : Nat)) :=
      ⟨high, by omega, by omega, .inl low⟩
    refine ⟨⟨negative, _, _, canonical⟩, ?_⟩
    have shift : ((e : Int) - (52 - k.log2 : Nat)) + (52 - k.log2 : Nat) = (e : Nat) := by omega
    rw [Finite.value, Finite.absValue]
    congr 1
    rw [Nat.cast_mul, mul_assoc, twoPow_mul_zpow, shift, zpow_natCast, Nat.cast_mul,
      Finite.cast_twoPow]

/-- At most 53 bits of the integer count: the others are zeros at its end. -/
def Short (i : Int) : Prop :=
  ∃ k e : Nat, k < twoPow 53 ∧ i.natAbs = k * twoPow e

theorem short_of_small {i : Int} (small : i.natAbs < twoPow 53) : Short i :=
  ⟨i.natAbs, 0, small, (Nat.mul_one _).symm⟩

/-- A number that is an integer has no other bits than those of its significand. -/
theorem short_of_value {i : Int} (whole : x.value = i) : Short i := by
  have bits : x.significand < twoPow 53 := x.canonical.1
  have magnitude : (i.natAbs : ℚ) = x.absValue := by
    rw [Nat.cast_natAbs, Int.cast_abs, ← whole, x.abs_value]
  rcases Int.le_total 0 x.exponent with positive | negative
  · refine ⟨x.significand, x.exponent.toNat, bits, ?_⟩
    have power : (x.absValue : ℚ) = (x.significand * twoPow x.exponent.toNat : Nat) := by
      rw [Nat.cast_mul, Finite.cast_twoPow, ← zpow_natCast, Int.toNat_of_nonneg positive,
        Finite.absValue]
    rw [power] at magnitude
    exact Nat.cast_injective magnitude
  · have below : (i.natAbs : ℚ) ≤ x.significand := by
      rw [magnitude, Finite.absValue]
      exact mul_le_of_le_one_right (Nat.cast_nonneg _) (zpow_le_one_of_nonpos₀ one_le_two negative)
    exact short_of_small (Nat.lt_of_le_of_lt (Nat.cast_le.mp below) bits)

/-- **The integers that are numbers are those of which 53 bits count at most**, unless they are too
large for numbers altogether. -/
theorem exists_value_iff {i : Int} (small : i.natAbs < twoPow 972) :
    (∃ x : Finite, x.value = i) ↔ Short i := by
  refine ⟨fun ⟨x, whole⟩ => short_of_value whole, ?_⟩
  rintro ⟨k, e, bits, same⟩
  have shift : e ≤ 971 ∨ k = 0 := by
    by_contra! large
    have power : twoPow 972 ≤ twoPow e := twoPow_le large.1
    have some_ : twoPow e ≤ k * twoPow e := Nat.le_mul_of_pos_left _ (Nat.pos_of_ne_zero large.2)
    omega
  rcases shift with shift | none_
  · obtain ⟨x, value⟩ := exists_value bits shift (decide (i < 0))
    rw [← same, signed_natAbs] at value
    exact ⟨x, value⟩
  · have vanishes : i.natAbs = 0 * twoPow 0 := by rw [same, none_, Nat.zero_mul, Nat.zero_mul]
    obtain ⟨x, value⟩ := exists_value (twoPow_pos 53) (Nat.zero_le _) (decide (i < 0))
    rw [← vanishes, signed_natAbs] at value
    exact ⟨x, value⟩

/-- The last bit of a large number stands for one or more. -/
theorem Finite.exists_int_of_large (x : Finite) (large : 2 ^ 53 ≤ x.absValue) :
    ∃ j : Int, x.value = j := by
  have whole : 0 ≤ x.exponent := by
    by_contra! fraction
    have bits : (x.significand : ℚ) < (twoPow 53 : Nat) := Nat.cast_lt.mpr x.canonical.1
    have below : x.absValue ≤ x.significand :=
      mul_le_of_le_one_right (Nat.cast_nonneg _) (zpow_le_one_of_nonpos₀ one_le_two fraction.le)
    rw [cast_twoPow] at bits
    linarith
  obtain ⟨k, multiple⟩ := exists_multiple whole
  rw [zpow_zero, mul_one] at multiple
  cases sign : x.negative with
  | true => exact ⟨-k, by rw [value, sign, multiple, signed, if_pos rfl]; push_cast; rfl⟩
  | false => exact ⟨k, by rw [value, sign, multiple]; rfl⟩

namespace Finite.Nearest

variable {q : ℚ}

/-! ## Numbers are not crossed -/

/-- What is at most a number is rounded to a number that is at most that. -/
theorem value_le (closest : x.Nearest q) (below : q ≤ y.value) : x.value ≤ y.value := by
  by_contra! crossed
  have middle := midpoint_le_of_near crossed (closest.near y)
  linarith

theorem le_value (closest : x.Nearest q) (above : y.value ≤ q) : y.value ≤ x.value := by
  by_contra! crossed
  have middle := le_midpoint_of_near crossed (closest.near y)
  linarith

/-- A number is the only one that is nearest to it. -/
theorem eq_of_value (closest : x.Nearest q) (held : y.value = q) : x.value = q :=
  held ▸ le_antisymm (closest.value_le held.ge) (closest.le_value held.le)

/-! ## Integers are rounded to integers -/

theorem le_absValue {i : Int} (closest : x.Nearest i) (large : twoPow 53 ≤ i.natAbs) :
    2 ^ 53 ≤ x.absValue := by
  have power (negative : Bool) : ∃ y : Finite, y.value = signed negative (2 ^ 53) := by
    obtain ⟨y, held⟩ := exists_value (e := 53) (by decide : 1 < twoPow 53) (by decide) negative
    rw [Nat.one_mul, cast_twoPow] at held
    exact ⟨y, held⟩
  have bound : (2 : Int) ^ 53 ≤ i.natAbs := Int.ofNat_le.mpr large
  rw [← x.abs_value, le_abs]
  rcases Int.lt_or_le i 0 with negative | positive
  · obtain ⟨y, held⟩ := power true
    have below : ((i : Int) : ℚ) ≤ -(2 ^ 53) := by exact_mod_cast (by omega : i ≤ -(2 ^ 53))
    have exactly : y.value = -(2 ^ 53) := held
    exact .inr (le_neg_of_le_neg (exactly ▸ closest.value_le (below.trans exactly.ge)))
  · obtain ⟨y, held⟩ := power false
    have above : (2 ^ 53 : ℚ) ≤ i := by exact_mod_cast (by omega : (2 : Int) ^ 53 ≤ i)
    have exactly : y.value = 2 ^ 53 := held
    exact .inl (exactly ▸ closest.le_value (exactly.le.trans above))

/-- **Integers are rounded to integers.** -/
theorem exists_int {i : Int} (closest : x.Nearest i) : ∃ j : Int, x.value = j := by
  rcases Nat.lt_or_ge i.natAbs (twoPow 53) with small | large
  · obtain ⟨y, held⟩ := (exists_value_iff (small.trans (twoPow_lt (by decide)))).mpr
      (short_of_small small)
    exact ⟨i, closest.eq_of_value held⟩
  · exact x.exists_int_of_large (closest.le_absValue large)

/-- **Rounding leaves an integer as it is if 53 of its bits count at most**, and only then. -/
theorem value_eq_iff {i : Int} (small : i.natAbs < twoPow 972) (closest : x.Nearest i) :
    x.value = i ↔ Short i := by
  refine ⟨short_of_value, fun short => ?_⟩
  obtain ⟨y, held⟩ := (exists_value_iff small).mpr short
  exact closest.eq_of_value held

end Finite.Nearest

namespace Finite

variable {q : ℚ}

/-! ## The limits of 64 bits -/

def limit (negative : Bool) : Finite :=
  ⟨negative, 2 ^ 52, 11, by decide⟩

/-- The number before `2 ^ 63`. -/
def beforeLimit : Finite :=
  ⟨false, 2 ^ 53 - 1, 10, by decide⟩

/-- The number behind `-2 ^ 63`. -/
def behindLimit : Finite :=
  ⟨true, 2 ^ 52 + 1, 11, by decide⟩

theorem absValue_limit (negative : Bool) : (limit negative).absValue = 2 ^ 63 := by
  norm_num [limit, absValue]

theorem value_limit (negative : Bool) : (limit negative).value = signed negative (2 ^ 63) :=
  congrArg (signed negative) (absValue_limit negative)

theorem value_beforeLimit : beforeLimit.value = 2 ^ 63 - 1024 := by
  norm_num [beforeLimit, value, absValue, signed]

theorem value_behindLimit : behindLimit.value = -2 ^ 63 - 2048 := by
  norm_num [behindLimit, value, absValue, signed]

/-- No number is between `2 ^ 63` and the one before it. -/
theorem value_le_beforeLimit (below : x.value < 2 ^ 63) : x.value ≤ beforeLimit.value := by
  rw [value_beforeLimit]
  rcases le_or_gt 0 x.value with positive | negative
  · rw [value_of_nonneg positive] at below ⊢
    have less : x.absValue < (limit false).absValue := by rwa [absValue_limit]
    have step : (2 : ℚ) ^ ((limit false).exponent - 1) = 1024 := by norm_num [limit]
    have next := add_half_unit_le less
    rw [step, absValue_limit] at next
    linarith
  · linarith

namespace Nearest

/-- **What is rounded to a number beyond 64 bits**: all that is not below the middle between the
least of them and the number before, since the significand of the latter is odd. -/
theorem limit_le_iff (closest : x.Nearest q) : 2 ^ 63 ≤ x.value ↔ 2 ^ 63 - 512 ≤ q := by
  have before := value_beforeLimit
  have last : (limit false).value = 2 ^ 63 := value_limit false
  constructor
  · intro beyond
    have less : beforeLimit.value < x.value := by linarith
    have middle := midpoint_le_of_near less (closest.near beforeLimit)
    linarith
  · intro above
    by_contra! inside
    have low := value_le_beforeLimit inside
    have less : x.value < (limit false).value := by rwa [last]
    have middle := le_midpoint_of_near less (closest.near (limit false))
    -- Only the middle itself is left, and there the other number is as near.
    have tie : q = 2 ^ 63 - 512 := by linarith
    have same : x.value = beforeLimit.value := by linarith
    have near : |q - (limit false).value| = |q - x.value| := by
      rw [tie, last, same, before]
      norm_num
    have magnitude : x.absValue = beforeLimit.absValue := by
      rw [← x.abs_value, same, beforeLimit.abs_value]
    have odd : x.significand = 2 ^ 53 - 1 := (parts_of_absValue magnitude).1
    rcases closest.even _ near with equal | even
    · exact less.ne' equal
    · rw [odd] at even
      exact absurd even (by decide)

/-- What is below the least integer of 64 bits by more than half of a unit stays below it. -/
theorem lt_limit (closest : x.Nearest q) (below : q < -2 ^ 63 - 1024) : x.value < -2 ^ 63 := by
  have behind := value_behindLimit
  by_contra! inside
  have less : behindLimit.value < x.value := by linarith
  have middle := midpoint_le_of_near less (closest.near behindLimit)
  linarith

end Nearest

end Finite

end Binary64

end PhaseTable
