/-
# PhaseTable.Proofs.Number.Shortest -- the shortest decimal is the number and no other

The reals that round to a number form its interval.  `Interval.Contains` says in rationals what
`Interval.holds` computes in whole numbers (`Interval.holds_iff`), so a point that is found on a
grid lies in the interval.  One is found (`Finite.contains_shortest`): the grids go down to one
that is finer than the interval, whatever the exponent.

The intervals of two numbers do not meet (`Finite.eq_of_contains`).  They can share an end, but then
one of the significands is odd, and its interval leaves the end out.  So different numbers have
different decimals.
-/
import PhaseTable.Number.Shortest
import PhaseTable.Proofs.Number.Integers
import Mathlib.Algebra.Order.Field.Power
import Mathlib.Tactic.Linarith
import Mathlib.Tactic.Positivity
import Mathlib.Tactic.Ring

namespace PhaseTable.Binary64

set_option autoImplicit false

def Scientific.value (s : Scientific) : ℚ :=
  s.digits * (10 : ℚ) ^ s.exponent

/-- A power with a sign in its exponent, as two powers without. -/
theorem pow_toNat {b : ℚ} (nonzero : b ≠ 0) (n : Int) :
    b ^ n.toNat = b ^ n * b ^ (-n).toNat := by
  rcases Int.le_total 0 n with positive | negative
  · have down : (-n).toNat = 0 := by omega
    rw [down, pow_zero, mul_one, ← zpow_natCast, Int.toNat_of_nonneg positive]
  · have up : n.toNat = 0 := by omega
    have inverse : n + ((-n).toNat : Int) = 0 := by omega
    rw [up, pow_zero, ← zpow_natCast b (-n).toNat, ← zpow_add₀ nonzero, inverse, zpow_zero]

namespace Interval

variable {i : Interval}

/-- What one count of the interval stands for. -/
def step (i : Interval) : ℚ :=
  (2 : ℚ) ^ (i.exponent - 2)

def Contains (i : Interval) (q : ℚ) : Prop :=
  if i.closed then i.low * i.step ≤ q ∧ q ≤ i.high * i.step
  else i.low * i.step < q ∧ q < i.high * i.step

theorem step_pos (i : Interval) : 0 < i.step :=
  zpow_pos (by norm_num) _

/-- What a count is multiplied by to be compared with grid points. -/
def scale (i : Interval) (p : Int) : Nat :=
  twoPow (i.exponent - 2).toNat * tenPow (-p).toNat

/-- What the digits of a grid point are multiplied by to be compared with counts. -/
def unit (i : Interval) (p : Int) : Nat :=
  twoPow (2 - i.exponent).toNat * tenPow p.toNat

theorem onGrid_eq (i : Interval) (p : Int) (count : Nat) :
    i.onGrid p count = (count * i.scale p, i.unit p) := by
  rw [onGrid, scale, unit, Nat.mul_assoc]

theorem scale_mul (i : Interval) (p : Int) : (i.scale p : ℚ) * 10 ^ p = i.step * i.unit p := by
  have two := pow_toNat (b := 2) two_ne_zero (i.exponent - 2)
  have ten := pow_toNat (b := 10) (by norm_num) p
  have opposite : -(i.exponent - 2) = 2 - i.exponent := by omega
  rw [opposite] at two
  have scaleEq : (i.scale p : ℚ) = 2 ^ (i.exponent - 2).toNat * 10 ^ (-p).toNat := by
    simp [scale, twoPow, tenPow]
  have unitEq : (i.unit p : ℚ) = 2 ^ (2 - i.exponent).toNat * 10 ^ p.toNat := by
    simp [unit, twoPow, tenPow]
  rw [scaleEq, unitEq, two, ten, step]
  ring

theorem scale_pos (i : Interval) (p : Int) : 0 < i.scale p :=
  Nat.mul_pos (twoPow_pos _) (tenPow_pos _)

theorem unit_pos (i : Interval) (p : Int) : 0 < i.unit p :=
  Nat.mul_pos (twoPow_pos _) (tenPow_pos _)

/-- Counts are compared with grid points as the numbers that they stand for. -/
theorem exists_factor (i : Interval) (p : Int) : ∃ factor : ℚ, 0 < factor ∧
    (∀ count : Nat, ((count * i.scale p : Nat) : ℚ) * factor = count * i.step) ∧
    ∀ digits : Nat, ((digits * i.unit p : Nat) : ℚ) * factor = digits * 10 ^ p := by
  have unitPos : (0 : ℚ) < i.unit p := Nat.cast_pos.mpr (i.unit_pos p)
  refine ⟨10 ^ p / i.unit p, by positivity, fun count => ?_, fun digits => ?_⟩
  · rw [Nat.cast_mul, mul_assoc, mul_div_assoc', scale_mul, mul_div_cancel_right₀ _ unitPos.ne']
  · rw [Nat.cast_mul, mul_assoc, mul_div_cancel₀ _ unitPos.ne']

/-- **The points of a grid that an interval holds are those that lie in it.** -/
theorem holds_iff {p : Int} {digits : Nat} :
    i.holds p digits = true ↔ i.Contains (digits * 10 ^ p) := by
  obtain ⟨factor, positive, counts, points⟩ := i.exists_factor p
  simp only [holds, onGrid_eq, Contains]
  rw [← points, ← counts, ← counts]
  split
  · simp only [Bool.and_eq_true, decide_eq_true_eq, mul_le_mul_iff_left₀ positive, Nat.cast_le]
  · simp only [Bool.and_eq_true, decide_eq_true_eq, mul_lt_mul_iff_left₀ positive, Nat.cast_lt]

/-- A point that is found is one that the interval holds, and is not zero. -/
theorem holds_of_pointOn? {tie : Tie} {p : Int} {digits : Nat}
    (found : i.pointOn? tie p = some digits) : digits ≠ 0 ∧ i.holds p digits = true := by
  simp only [pointOn?] at found
  generalize (i.onGrid p i.value).1 / (i.onGrid p i.value).2 = below at found
  have lower : (i.holds p below && below != 0) = true → below ≠ 0 ∧ i.holds p below = true := by
    intro both
    rw [Bool.and_eq_true, bne_iff_ne] at both
    exact both.symm
  split at found
  · cases found
  · next taken _ =>
    cases found
    exact lower taken
  · next _ taken =>
    cases found
    exact ⟨Nat.succ_ne_zero _, taken⟩
  · next taken above =>
    cases found
    split
    · exact ⟨Nat.succ_ne_zero _, above⟩
    · exact lower taken

/-- A point is found if the interval holds the one below its value. -/
theorem pointOn?_of_holds {tie : Tie} {p : Int} {below : Nat}
    (floor : (i.onGrid p i.value).1 / (i.onGrid p i.value).2 = below) (nonzero : below ≠ 0)
    (inside : i.holds p below = true) : (i.pointOn? tie p).isSome = true := by
  simp only [pointOn?, floor, inside, Bool.true_and, bne_iff_ne.mpr nonzero]
  cases i.holds p (below + 1) with
  | false => rfl
  | true => rfl

/-- A grid that is as fine as the interval has a point in it. -/
theorem pointOn?_of_fine {tie : Tie} {p : Int} (fine : i.unit p ≤ i.scale p) (low : i.low < i.value)
    (high : i.value < i.high) (large : 1 < i.value) : (i.pointOn? tie p).isSome = true := by
  have unitPos := i.unit_pos p
  have scalePos := i.scale_pos p
  have division := Nat.div_add_mod' (i.value * i.scale p) (i.unit p)
  have part := Nat.mod_lt (i.value * i.scale p) unitPos
  have whole : i.scale p ≤ i.value * i.scale p := Nat.le_mul_of_pos_left _ (by omega)
  generalize floor : i.value * i.scale p / i.unit p = below at division
  -- The point below the value is less than one count below it.
  have near : (i.value - 1) * i.scale p < below * i.unit p := by
    rw [Nat.sub_mul]
    omega
  have aboveLow : i.low * i.scale p < below * i.unit p :=
    Nat.lt_of_le_of_lt (Nat.mul_le_mul_right _ (by omega)) near
  have belowHigh : below * i.unit p < i.high * i.scale p :=
    Nat.lt_of_le_of_lt (by omega) (Nat.mul_lt_mul_of_pos_right high scalePos)
  have inside : i.holds p below = true := by
    simp only [holds, onGrid_eq]
    split
    · simp [aboveLow.le, belowHigh.le]
    · simp [aboveLow, belowHigh]
  have nonzero : below ≠ 0 := by
    rintro rfl
    omega
  exact pointOn?_of_holds (by rw [onGrid_eq]; exact floor) nonzero inside

/-- If there is a point on one of some grids, the first point is one on that grid or on one before
it. -/
theorem firstPoint_of_some {tie : Tie} : ∀ {grids k : Nat} {p : Int}, k < grids →
    (i.pointOn? tie (p - k)).isSome = true →
      ∃ digits, ∃ j ≤ k, i.firstPoint tie grids p = ⟨digits, p - j⟩ ∧
        i.pointOn? tie (p - j) = some digits
  | grids + 1, k, p, less, some_ => by
      cases found : i.pointOn? tie p with
      | some digits =>
          have same : p - (0 : Nat) = p := Int.sub_zero p
          exact ⟨digits, 0, k.zero_le, by simp only [firstPoint, found, same], by rw [same, found]⟩
      | none =>
          cases k with
          | zero =>
              rw [Nat.cast_zero, sub_zero, found] at some_
              cases some_
          | succ k =>
              have finer : ∀ j : Nat, p - ((j + 1 : Nat) : Int) = p - 1 - j := fun j => by omega
              rw [finer] at some_
              obtain ⟨digits, j, near, first, reached⟩ :=
                firstPoint_of_some (Nat.lt_of_succ_lt_succ less) some_
              refine ⟨digits, j + 1, Nat.succ_le_succ near, ?_, ?_⟩
              · simp only [firstPoint, found, finer, first]
              · rw [finer, reached]

end Interval

/-- `10 ^ 3` is just below `2 ^ 10`, and `10 ^ 10` just above `2 ^ 33`. -/
theorem ten_zpow_le_two_zpow {p n : Int} (coarse : 10 * p ≤ 3 * n) (fine : 33 * p ≤ 10 * n) :
    (10 : ℚ) ^ p ≤ 2 ^ n := by
  have ten : (0 : ℚ) ≤ 10 ^ p := by positivity
  have two : (0 : ℚ) ≤ 2 ^ n := by positivity
  rcases Int.le_total 0 p with positive | negative
  · rw [← zpow_le_zpow_iff_left₀ ten two (n := 3) (by decide)]
    calc ((10 : ℚ) ^ p) ^ (3 : Int) = (10 ^ (3 : Int)) ^ p := zpow_comm _ _ _
      _ ≤ (2 ^ (10 : Int)) ^ p := zpow_le_zpow_left₀ positive (by norm_num) (by norm_num)
      _ = 2 ^ (10 * p) := (zpow_mul _ _ _).symm
      _ ≤ 2 ^ (n * 3) := zpow_le_zpow_right₀ (by norm_num) (by omega)
      _ = (2 ^ n) ^ (3 : Int) := zpow_mul _ _ _
  · rw [← zpow_le_zpow_iff_left₀ ten two (n := 10) (by decide)]
    have upward : (0 : Int) ≤ -p := by omega
    calc ((10 : ℚ) ^ p) ^ (10 : Int) = (10 ^ (10 : Int)) ^ p := zpow_comm _ _ _
      _ = ((10 ^ (10 : Int))⁻¹) ^ (-p) := by rw [inv_zpow', neg_neg]
      _ ≤ ((2 ^ (33 : Int))⁻¹) ^ (-p) := zpow_le_zpow_left₀ upward (by norm_num) (by norm_num)
      _ = (2 ^ (33 : Int)) ^ p := by rw [inv_zpow', neg_neg]
      _ = 2 ^ (33 * p) := (zpow_mul _ _ _).symm
      _ ≤ 2 ^ (n * 10) := zpow_le_zpow_right₀ (by norm_num) (by omega)
      _ = (2 ^ n) ^ (10 : Int) := zpow_mul _ _ _

namespace Finite

variable {x : Finite}

/-- The last grid is finer than the interval. -/
theorem fine_grid (nonzero : x.significand ≠ 0) :
    x.interval.unit (x.tenPowerAbove - (23 : Nat)) ≤
      x.interval.scale (x.tenPowerAbove - (23 : Nat)) := by
  obtain ⟨bits, least, greatest, -⟩ := x.canonical
  have length : x.significand.log2 < 53 := (Nat.log2_lt nonzero).mpr bits
  have fine : (10 : ℚ) ^ (x.tenPowerAbove - (23 : Nat)) ≤ x.interval.step := by
    refine ten_zpow_le_two_zpow ?_ ?_
    · simp only [tenPowerAbove, interval]
      omega
    · simp only [tenPowerAbove, interval]
      omega
  generalize x.tenPowerAbove - (23 : Nat) = p at fine
  have unitPos : (0 : ℚ) < x.interval.unit p := Nat.cast_pos.mpr (x.interval.unit_pos p)
  have ten : (0 : ℚ) < 10 ^ p := by positivity
  have scaled : (x.interval.unit p : ℚ) * 10 ^ p ≤ x.interval.scale p * 10 ^ p := by
    rw [Interval.scale_mul, mul_comm]
    exact mul_le_mul_of_nonneg_right fine unitPos.le
  exact Nat.cast_le.mp (le_of_mul_le_mul_right scaled ten)

/-- **The shortest decimal of a number lies in its interval.** -/
theorem contains_shortest (nonzero : x.significand ≠ 0) (tie : Tie) :
    (x.shortest tie).digits ≠ 0 ∧ x.interval.Contains (x.shortest tie).value := by
  have low : x.interval.low < x.interval.value := by
    simp only [interval]
    split <;> omega
  have high : x.interval.value < x.interval.high := by
    simp only [interval]
    omega
  have large : 1 < x.interval.value := by
    simp only [interval]
    omega
  have last : (x.interval.pointOn? tie (x.tenPowerAbove - (23 : Nat))).isSome = true :=
    Interval.pointOn?_of_fine (fine_grid nonzero) low high large
  obtain ⟨digits, j, -, first, found⟩ := Interval.firstPoint_of_some (by decide : 23 < 24) last
  obtain ⟨some_, taken⟩ := Interval.holds_of_pointOn? found
  rw [shortest, if_neg nonzero, first]
  exact ⟨some_, Interval.holds_iff.mp taken⟩

end Finite

namespace Interval

variable {i j : Interval} {q : ℚ}

theorem Contains.le (inside : i.Contains q) : i.low * i.step ≤ q ∧ q ≤ i.high * i.step := by
  unfold Contains at inside
  split at inside
  · exact inside
  · exact ⟨inside.1.le, inside.2.le⟩

theorem Contains.lt (inside : i.Contains q) (open_ : i.closed = false) :
    i.low * i.step < q ∧ q < i.high * i.step := by
  rw [Contains, open_] at inside
  exact inside

/-- No interval of a number other than zero goes below half of the least number. -/
theorem Contains.least {x : Finite} (nonzero : x.significand ≠ 0) (inside : x.interval.Contains q) :
    (2 : ℚ) ^ (-1075 : Int) ≤ q := by
  obtain ⟨-, least, -, -⟩ := x.canonical
  have low : 2 ≤ x.interval.low := by
    simp only [Finite.interval]
    split <;> omega
  have step : (2 : ℚ) ^ (-1076 : Int) ≤ x.interval.step :=
    zpow_le_zpow_right₀ one_le_two (by simp only [Finite.interval]; omega)
  calc (2 : ℚ) ^ (-1075 : Int) = (2 : Nat) * 2 ^ (-1076 : Int) := by
        rw [show (-1075 : Int) = -1076 + 1 from rfl, zpow_add_one₀ two_ne_zero, mul_comm,
          Nat.cast_ofNat]
    _ ≤ x.interval.low * 2 ^ (-1076 : Int) :=
        mul_le_mul_of_nonneg_right (Nat.cast_le.mpr low) (zpow_pos two_pos _).le
    _ ≤ x.interval.low * x.interval.step := mul_le_mul_of_nonneg_left step (Nat.cast_nonneg _)
    _ ≤ q := inside.le.1

theorem Contains.pos {x : Finite} (nonzero : x.significand ≠ 0) (inside : x.interval.Contains q) :
    0 < q :=
  (zpow_pos two_pos _).trans_le (Contains.least nonzero inside)

/-- One interval ends before the other one begins.  An end that they share lies in one of them at
most. -/
structure Before (i j : Interval) : Prop where
  le : i.high * i.step ≤ j.low * j.step
  apart : i.closed = false ∨ j.closed = false ∨ i.high * i.step < j.low * j.step

theorem Before.disjoint (before : i.Before j) (inside : i.Contains q) : ¬ j.Contains q := by
  intro insideJ
  have high := inside.le.2
  have low := insideJ.le.1
  have between := before.le
  rcases before.apart with open_ | open_ | apart
  · have strictHigh := (inside.lt open_).2
    linarith
  · have strictLow := (insideJ.lt open_).1
    linarith
  · linarith

end Interval

namespace Finite

variable {x y : Finite}

theorem before_of_significand (same : x.exponent = y.exponent)
    (less : x.significand < y.significand) : x.interval.Before y.interval := by
  have step : x.interval.step = y.interval.step := congrArg (fun e : Int => (2 : ℚ) ^ (e - 2)) same
  have positive := y.interval.step_pos
  have closed : x.significand % 2 = 1 → x.interval.closed = false := fun odd => by
    simp [interval, odd]
  have closedY : y.significand % 2 = 1 → y.interval.closed = false := fun odd => by
    simp [interval, odd]
  have low : 4 * y.significand ≤ y.interval.low + 2 := by
    simp only [interval]
    split <;> omega
  have high : x.interval.high = 4 * x.significand + 2 := rfl
  have ends : x.interval.high ≤ y.interval.low := by omega
  refine ⟨?_, ?_⟩
  · rw [step]
    exact mul_le_mul_of_nonneg_right (Nat.cast_le.mpr ends) positive.le
  · rcases Nat.eq_or_lt_of_le ends with touching | apart
    · have next : y.significand = x.significand + 1 := by
        simp only [interval] at touching
        split at touching <;> omega
      rcases Nat.mod_two_eq_zero_or_one x.significand with even | odd
      · exact .inr (.inl (closedY (by omega)))
      · exact .inl (closed odd)
    · rw [step]
      exact .inr (.inr (mul_lt_mul_of_pos_right (Nat.cast_lt.mpr apart) positive))

theorem before_of_exponent (less : x.exponent < y.exponent) : x.interval.Before y.interval := by
  obtain ⟨bits, least, -, -⟩ := x.canonical
  obtain ⟨-, -, -, normal⟩ := y.canonical
  have powers : twoPow 53 = 2 ^ 53 ∧ twoPow 52 = 2 ^ 52 := ⟨rfl, rfl⟩
  have wide : 2 * x.interval.step ≤ y.interval.step := by
    rw [Interval.step, Interval.step, mul_comm, ← zpow_add_one₀ two_ne_zero]
    exact zpow_le_zpow_right₀ one_le_two (by simp only [interval]; omega)
  have positive := x.interval.step_pos
  have low : 2 ^ 54 - 1 ≤ y.interval.low := by
    simp only [interval]
    split <;> omega
  have lowEnd : ((2 ^ 55 - 2 : Nat) : ℚ) * x.interval.step ≤ y.interval.low * y.interval.step :=
    calc ((2 ^ 55 - 2 : Nat) : ℚ) * x.interval.step
        = ((2 ^ 54 - 1 : Nat) : ℚ) * (2 * x.interval.step) := by norm_num; ring
      _ ≤ y.interval.low * (2 * x.interval.step) :=
          mul_le_mul_of_nonneg_right (Nat.cast_le.mpr low) (by linarith)
      _ ≤ y.interval.low * y.interval.step := mul_le_mul_of_nonneg_left wide (Nat.cast_nonneg _)
  have high : x.interval.high = 4 * x.significand + 2 := rfl
  have ends : x.interval.high ≤ 2 ^ 55 - 2 := by omega
  refine ⟨?_, ?_⟩
  · exact (mul_le_mul_of_nonneg_right (Nat.cast_le.mpr ends) positive.le).trans lowEnd
  · rcases Nat.eq_or_lt_of_le ends with touching | apart
    · have odd : x.significand % 2 = 1 := by omega
      exact .inl (by simp [interval, odd])
    · exact .inr (.inr ((mul_lt_mul_of_pos_right (Nat.cast_lt.mpr apart) positive).trans_le lowEnd))

/-- **Numbers of different magnitudes have disjoint intervals.** -/
theorem eq_of_contains {q : ℚ} (inside : x.interval.Contains q) (insideY : y.interval.Contains q) :
    x.significand = y.significand ∧ x.exponent = y.exponent := by
  rcases lt_trichotomy x.exponent y.exponent with less | same | more
  · exact absurd insideY ((before_of_exponent less).disjoint inside)
  · rcases lt_trichotomy x.significand y.significand with less | equal | more
    · exact absurd insideY ((before_of_significand same less).disjoint inside)
    · exact ⟨equal, same⟩
    · exact absurd inside ((before_of_significand same.symm more).disjoint insideY)
  · exact absurd inside ((before_of_exponent more).disjoint insideY)

/-- Numbers of one sign with a rational in the intervals of both are one number. -/
theorem ext_of_contains {q : ℚ} (sign : x.negative = y.negative) (inside : x.interval.Contains q)
    (insideY : y.interval.Contains q) : x = y := by
  obtain ⟨significands, exponents⟩ := eq_of_contains inside insideY
  cases x
  cases y
  cases sign
  cases significands
  cases exponents
  rfl

end Finite

end PhaseTable.Binary64
