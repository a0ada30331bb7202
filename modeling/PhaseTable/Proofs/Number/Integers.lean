/-
# PhaseTable.Proofs.Number.Integers -- integers of 53 bits are numbers

Rounding changes no integer of at most 53 bits: its significand is the integer itself,
shifted until 53 bits are used (`Binary64.nearest_of_small`).  So the integer is read back
from the number (`Binary64.toInt?_ofInt`), and different integers are different numbers.
-/
import PhaseTable.Number.Rounding

namespace PhaseTable

set_option autoImplicit false

theorem twoPow_pos (n : Nat) : 0 < twoPow n :=
  Nat.two_pow_pos n

theorem twoPow_add (m n : Nat) : twoPow (m + n) = twoPow m * twoPow n :=
  Nat.pow_add 2 m n

theorem tenPow_pos (n : Nat) : 0 < tenPow n :=
  Nat.pow_pos (by decide)

theorem twoPow_lt {m n : Nat} (less : m < n) : twoPow m < twoPow n :=
  Nat.pow_lt_pow_right (by decide) less

theorem twoPow_le {m n : Nat} (below : m ≤ n) : twoPow m ≤ twoPow n :=
  Nat.pow_le_pow_right (by decide) below

namespace Binary64

/-- An integer of at most 53 bits, shifted until the highest of them is the first bit. -/
theorem shifted_bounds {n : Nat} (nonzero : n ≠ 0) (small : n < twoPow 53) :
    n.log2 ≤ 52 ∧ twoPow 52 ≤ n * twoPow (52 - n.log2) ∧ n * twoPow (52 - n.log2) < twoPow 53 := by
  have bits : n.log2 < 53 := (Nat.log2_lt nonzero).mpr small
  have low : twoPow n.log2 ≤ n := Nat.log2_self_le nonzero
  have high : n < twoPow (n.log2 + 1) := Nat.lt_log2_self
  refine ⟨by omega, ?_, ?_⟩
  · calc twoPow 52 = twoPow (n.log2 + (52 - n.log2)) := by congr 1; omega
      _ = twoPow n.log2 * twoPow (52 - n.log2) := twoPow_add _ _
      _ ≤ n * twoPow (52 - n.log2) := Nat.mul_le_mul_right _ low
  · calc n * twoPow (52 - n.log2)
        < twoPow (n.log2 + 1) * twoPow (52 - n.log2) :=
          Nat.mul_lt_mul_of_pos_right high (twoPow_pos _)
      _ = twoPow (n.log2 + 1 + (52 - n.log2)) := (twoPow_add _ _).symm
      _ = twoPow 53 := by congr 1; omega

/-- An integer divided by a power of two of which it has enough bits. -/
theorem scaled_int {n k : Nat} {exponent : Int} (shift : exponent = -(k : Int)) :
    scaled n 1 exponent = (n * twoPow k, 1) := by
  have up : (-exponent).toNat = k := by omega
  have down : exponent.toNat = 0 := by omega
  rw [scaled, up, down]
  rfl

theorem exponentOf_int {n : Nat} (nonzero : n ≠ 0) (small : n < twoPow 53) :
    exponentOf n 1 = -((52 - n.log2 : Nat) : Int) := by
  obtain ⟨bits, low, -⟩ := shifted_bounds nonzero small
  have one : Nat.log2 1 = 0 := rfl
  have least : max (-1074) ((n.log2 : Int) - (Nat.log2 1 : Nat) - 53) =
      -((53 - n.log2 : Nat) : Int) := by
    rw [one]
    omega
  have more : twoPow 53 ≤ n * twoPow (53 - n.log2) := by
    calc twoPow 53 = twoPow 52 * 2 := rfl
      _ ≤ n * twoPow (52 - n.log2) * 2 := Nat.mul_le_mul_right 2 low
      _ = n * (twoPow (52 - n.log2) * twoPow 1) := Nat.mul_assoc _ _ _
      _ = n * twoPow (53 - n.log2) := by
          rw [← twoPow_add]
          congr 2
          omega
  simp only [exponentOf, least, scaled_int rfl, Nat.div_one, if_pos more]
  omega

theorem roundHalfEven_one (n : Nat) : roundHalfEven n 1 = n := by
  simp [roundHalfEven, Nat.mod_one]

/-- Rounding changes no integer of at most 53 bits. -/
theorem nearest_of_small (negative : Bool) {n : Nat} (nonzero : n ≠ 0) (small : n < twoPow 53) :
    ∃ canonical, nearest negative n 1 =
      .finite ⟨negative, n * twoPow (52 - n.log2), -((52 - n.log2 : Nat) : Int), canonical⟩ := by
  obtain ⟨bits, low, high⟩ := shifted_bounds nonzero small
  have canonical : Canonical (n * twoPow (52 - n.log2)) (-((52 - n.log2 : Nat) : Int)) :=
    ⟨high, by omega, by omega, .inl low⟩
  refine ⟨canonical, ?_⟩
  simp only [nearest, if_neg nonzero, exponentOf_int nonzero small, scaled_int rfl,
    roundHalfEven_one, if_neg (Nat.ne_of_lt high), ofParts, dif_pos canonical]

/-- How many times `2 ^ (-1074)` such an integer is. -/
theorem magnitude_shifted {n : Nat} (bits : n.log2 ≤ 52) :
    n * twoPow (52 - n.log2) * twoPow (-((52 - n.log2 : Nat) : Int) + 1074).toNat =
      n * twoPow 1074 := by
  rw [Nat.mul_assoc, ← twoPow_add]
  congr 2
  omega

/-- **An integer of at most 53 bits is read back from its number.** -/
theorem toInt?_ofInt {i : Int} (small : i.natAbs < twoPow 53) : (ofInt i).toInt? = some i := by
  have one : ((twoPow 1074 : Nat) : Int) ≠ 0 :=
    Int.natCast_ne_zero.mpr (Nat.ne_of_gt (twoPow_pos 1074))
  by_cases vanishes : i = 0
  · subst vanishes
    decide +kernel
  · have nonzero : i.natAbs ≠ 0 := by omega
    obtain ⟨canonical, rounded⟩ := nearest_of_small (i < 0) nonzero small
    obtain ⟨bits, -, -⟩ := shifted_bounds nonzero small
    have units : (Finite.mk (i < 0) _ _ canonical).units = i * (twoPow 1074 : Nat) := by
      simp only [Finite.units, Finite.magnitude, magnitude_shifted bits]
      split
      · next negative =>
        have sign : (i.natAbs : Int) = -i := by
          have := of_decide_eq_true negative
          omega
        rw [Int.natCast_mul, sign, Int.neg_mul, Int.neg_neg]
      · next positive =>
        have sign : (i.natAbs : Int) = i := by
          have : ¬ i < 0 := fun negative => positive (decide_eq_true negative)
          omega
        rw [Int.natCast_mul, sign]
    rw [ofInt, rounded]
    simp only [toInt?, units, Int.mul_emod_left, if_true, Int.mul_ediv_cancel _ one]

theorem isFinite_of_toInt? {x : Binary64} {i : Int} (whole : x.toInt? = some i) :
    x.isFinite = true := by
  cases x with
  | nan => cases whole
  | infinite negative => cases whole
  | finite number => rfl

/-- Integers of at most 53 bits are finite numbers. -/
theorem isFinite_ofInt {i : Int} (small : i.natAbs < twoPow 53) : (ofInt i).isFinite = true :=
  isFinite_of_toInt? (toInt?_ofInt small)

/-- Only zero is too small to tell from zero. -/
theorem exceedsEpsilon_ofInt {i : Int} (small : i.natAbs < twoPow 53) :
    (ofInt i).exceedsEpsilon = decide (i ≠ 0) := by
  by_cases vanishes : i = 0
  · subst vanishes
    decide +kernel
  · have nonzero : i.natAbs ≠ 0 := by omega
    obtain ⟨canonical, rounded⟩ := nearest_of_small (i < 0) nonzero small
    obtain ⟨bits, -, -⟩ := shifted_bounds nonzero small
    have less : twoPow 1022 < twoPow 1074 := twoPow_lt (by decide)
    have multiple : twoPow 1074 ≤ i.natAbs * twoPow 1074 :=
      Nat.le_mul_of_pos_left _ (Nat.pos_of_ne_zero nonzero)
    rw [ofInt, rounded]
    simp only [exceedsEpsilon, Finite.magnitude, magnitude_shifted bits, ne_eq, vanishes,
      not_false_eq_true, decide_true, decide_eq_true_eq]
    exact Nat.lt_of_lt_of_le less multiple

theorem natAbs_int32_lt (n : Int32) : n.toInt.natAbs < twoPow 53 := by
  have least := n.le_toInt
  have greatest := n.toInt_lt
  have wide : (2147483648 : Nat) < twoPow 53 := by decide
  omega

theorem ofInt_int32_injective {m n : Int32} (same : ofInt m.toInt = ofInt n.toInt) : m = n := by
  have read := toInt?_ofInt (natAbs_int32_lt m)
  rw [same, toInt?_ofInt (natAbs_int32_lt n)] at read
  exact (Int32.toInt_inj.mp (Option.some.inj read)).symm

end Binary64

end PhaseTable
