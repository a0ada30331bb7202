/-
# PhaseTable.Proofs.Number.Values -- the number nearest to a rational

A finite number denotes a rational (`Finite.value`).  The interval of a number ends half way to the
numbers next to it or before (`Finite.high_le_midpoint`, `Finite.midpoint_le_low`), and takes its
ends in only if the significand is even.  So no other number is nearer to a rational of the
interval, and of two that are equally near it is the even one (`Finite.nearest_of_contains`).

`Finite.Nearest` says so without intervals.  It is what rounding means here: integers
(`exists_nearest_ofInt`) and decimals (`Numeral.exists_nearest`) become the number nearest to them,
but for decimals beyond all numbers.  Of two numbers next to each other one is odd, so only one
number is nearest (`Finite.Nearest.value_unique`), and rounding keeps the order
(`Finite.Nearest.mono`).
-/
import PhaseTable.Proofs.Number.ReadBack

namespace PhaseTable

set_option autoImplicit false

/-- A magnitude with a sign. -/
def signed (negative : Bool) (q : ℚ) : ℚ :=
  if negative then -q else q

theorem signed_inj {negative : Bool} {p q : ℚ} : signed negative p = signed negative q ↔ p = q := by
  cases negative with
  | false => exact Iff.rfl
  | true => exact neg_inj

theorem abs_signed_sub_signed (negative : Bool) (p q : ℚ) :
    |signed negative p - signed negative q| = |p - q| := by
  cases negative with
  | false => rfl
  | true =>
      show |(-p) - (-q)| = |p - q|
      rw [neg_sub_neg, abs_sub_comm]

/-- Magnitudes on either side of zero are as far apart as they are large. -/
theorem abs_signed_sub_of_ne {negative opposite : Bool} (other : opposite ≠ negative) {p q : ℚ}
    (positive : 0 ≤ p) (positiveQ : 0 ≤ q) :
    |signed negative p - signed opposite q| = p + q := by
  cases negative with
  | false =>
      obtain rfl : opposite = true := Bool.eq_true_of_not_eq_false other
      show |p - -q| = p + q
      rw [sub_neg_eq_add, abs_of_nonneg (add_nonneg positive positiveQ)]
  | true =>
      obtain rfl : opposite = false := Bool.eq_false_of_not_eq_true other
      show |-p - q| = p + q
      rw [← neg_add', abs_neg, abs_of_nonneg (add_nonneg positive positiveQ)]

theorem signed_natAbs (i : Int) : signed (decide (i < 0)) (i.natAbs : ℚ) = i := by
  rw [signed, Nat.cast_natAbs]
  by_cases negative : i < 0
  · rw [if_pos (decide_eq_true negative), abs_of_neg negative, Int.cast_neg, neg_neg]
  · rw [if_neg (by simpa using negative), abs_of_nonneg (not_lt.mp negative)]

section Distances

variable {p q r : ℚ}

/-- What is as near to the larger one of two as to the smaller one is not below their middle. -/
theorem midpoint_le_of_near (less : p < r) (near : |q - r| ≤ |q - p|) : p + r ≤ 2 * q := by
  by_contra below
  have left : |q - r| = r - q := by
    rw [abs_sub_comm]
    exact abs_of_nonneg (by linarith)
  rw [left, le_abs] at near
  rcases near with right | right
  · linarith
  · linarith

theorem le_midpoint_of_near (less : p < r) (near : |q - p| ≤ |q - r|) : 2 * q ≤ p + r := by
  by_contra above
  have right : |q - p| = q - p := abs_of_nonneg (by linarith)
  rw [right, le_abs] at near
  rcases near with left | left
  · linarith
  · linarith

end Distances

namespace Binary64

namespace Finite

/-- What the number denotes, without its sign. -/
def absValue (x : Finite) : ℚ :=
  x.significand * 2 ^ x.exponent

def value (x : Finite) : ℚ :=
  signed x.negative x.absValue

variable {x y : Finite}

theorem absValue_nonneg (x : Finite) : 0 ≤ x.absValue :=
  mul_nonneg (Nat.cast_nonneg _) (zpow_pos two_pos _).le

theorem absValue_eq_zero (vanishes : x.significand = 0) : x.absValue = 0 := by
  rw [absValue, vanishes, Nat.cast_zero, zero_mul]

theorem abs_value (x : Finite) : |x.value| = x.absValue := by
  rw [value, signed]
  split
  · rw [abs_neg, abs_of_nonneg x.absValue_nonneg]
  · rw [abs_of_nonneg x.absValue_nonneg]

theorem value_of_nonneg (positive : 0 ≤ x.value) : x.value = x.absValue := by
  rw [← x.abs_value, abs_of_nonneg positive]

theorem value_of_nonpos (negative : x.value ≤ 0) : x.value = -x.absValue := by
  rw [← x.abs_value, abs_of_nonpos negative, neg_neg]

/-! ## The numbers next to a number -/

theorem four_steps (x : Finite) : 4 * x.interval.step = 2 ^ x.exponent := by
  have exponent : x.exponent - 2 + 2 = x.exponent := by omega
  calc 4 * x.interval.step = 2 ^ (x.exponent - 2) * 2 ^ (2 : Int) := by
        rw [Interval.step, mul_comm]
        norm_num [interval]
    _ = 2 ^ x.exponent := by rw [← zpow_add₀ two_ne_zero, exponent]

/-- A number is a multiple of each power of two below its last bit. -/
theorem exists_multiple {e : Int} (below : e ≤ x.exponent) :
    ∃ k : Nat, x.absValue = k * 2 ^ e := by
  refine ⟨x.significand * 2 ^ (x.exponent - e).toNat, ?_⟩
  have shift : (x.exponent - e).toNat + e = x.exponent := by omega
  rw [absValue, Nat.cast_mul, Nat.cast_pow, Nat.cast_ofNat, mul_assoc, ← zpow_natCast,
    ← zpow_add₀ two_ne_zero, shift]

/-- Different multiples of a power of two differ by the power at least. -/
theorem add_unit_le_of_multiples {e : Int} (below : e ≤ x.exponent) (belowY : e ≤ y.exponent)
    (less : x.absValue < y.absValue) : x.absValue + 2 ^ e ≤ y.absValue := by
  obtain ⟨k, first⟩ := exists_multiple below
  obtain ⟨l, second⟩ := exists_multiple belowY
  have unit : (0 : ℚ) < 2 ^ e := zpow_pos two_pos _
  rw [first, second, mul_lt_mul_iff_left₀ unit, Nat.cast_lt] at less
  have next : ((k + 1 : Nat) : ℚ) ≤ l := Nat.cast_le.mpr less
  rw [first, second]
  calc (k : ℚ) * 2 ^ e + 2 ^ e = ((k + 1 : Nat) : ℚ) * 2 ^ e := by push_cast; ring
    _ ≤ l * 2 ^ e := mul_le_mul_of_nonneg_right next unit.le

/-- A number whose last bit is lower is less than the power of two with which the numbers of the
other one's exponent begin, by half of its unit at least. -/
theorem absValue_le_of_exponent_lt (less : x.exponent < y.exponent) :
    x.absValue + 2 ^ (y.exponent - 1) ≤ 2 ^ 52 * 2 ^ y.exponent := by
  have bits : x.significand + 1 ≤ 2 ^ 53 := x.canonical.1
  have unit : (0 : ℚ) < 2 ^ x.exponent := zpow_pos two_pos _
  have half : (2 : ℚ) ^ x.exponent ≤ 2 ^ (y.exponent - 1) :=
    zpow_le_zpow_right₀ one_le_two (by omega)
  have double : (2 : ℚ) ^ y.exponent = 2 * 2 ^ (y.exponent - 1) := by
    rw [mul_comm, ← zpow_add_one₀ two_ne_zero, sub_add_cancel]
  have largest : (x.significand : ℚ) ≤ 2 ^ 53 - 1 := by
    have cast : ((x.significand + 1 : Nat) : ℚ) ≤ (2 ^ 53 : Nat) := Nat.cast_le.mpr bits
    push_cast at cast
    linarith
  have below : x.absValue ≤ (2 ^ 53 - 1) * 2 ^ (y.exponent - 1) :=
    calc x.absValue ≤ (2 ^ 53 - 1) * 2 ^ x.exponent := mul_le_mul_of_nonneg_right largest unit.le
      _ ≤ (2 ^ 53 - 1) * 2 ^ (y.exponent - 1) := mul_le_mul_of_nonneg_left half (by norm_num)
  rw [double]
  linarith

/-- If the exponent is not the least one, all bits of the significand are used. -/
theorem significand_ge_of_exponent_lt (less : x.exponent < y.exponent) : 2 ^ 52 ≤ y.significand :=
  y.canonical.2.2.2.resolve_right fun least => absurd x.canonical.2.1 (by omega)

theorem begin_le_of_exponent_lt (less : x.exponent < y.exponent) :
    2 ^ 52 * 2 ^ y.exponent ≤ y.absValue := by
  have bits : ((2 ^ 52 : Nat) : ℚ) ≤ y.significand :=
    Nat.cast_le.mpr (significand_ge_of_exponent_lt less)
  rw [Nat.cast_pow, Nat.cast_ofNat] at bits
  exact mul_le_mul_of_nonneg_right bits (zpow_pos two_pos _).le

theorem absValue_lt_of_exponent_lt (less : x.exponent < y.exponent) :
    x.absValue < y.absValue := by
  have half : (0 : ℚ) < 2 ^ (y.exponent - 1) := zpow_pos two_pos _
  calc x.absValue < x.absValue + 2 ^ (y.exponent - 1) := lt_add_of_pos_right _ half
    _ ≤ 2 ^ 52 * 2 ^ y.exponent := absValue_le_of_exponent_lt less
    _ ≤ y.absValue := begin_le_of_exponent_lt less

/-- A smaller number is less by half of the unit at least. -/
theorem add_half_unit_le (less : x.absValue < y.absValue) :
    x.absValue + 2 ^ (y.exponent - 1) ≤ y.absValue := by
  rcases Int.lt_or_le x.exponent y.exponent with lower | higher
  · exact (absValue_le_of_exponent_lt lower).trans (begin_le_of_exponent_lt lower)
  · exact add_unit_le_of_multiples (by omega) (by omega) less

/-- A smaller number is less by the unit at least, unless the numbers begin to lie closer. -/
theorem add_unit_le (other : ¬(y.significand = twoPow 52 ∧ -1074 < y.exponent))
    (less : x.absValue < y.absValue) : x.absValue + 2 ^ y.exponent ≤ y.absValue := by
  rcases Int.lt_or_le x.exponent y.exponent with lower | higher
  · have below := absValue_le_of_exponent_lt lower
    have half : (0 : ℚ) < 2 ^ (y.exponent - 1) := zpow_pos two_pos _
    have more : 2 ^ 52 + 1 ≤ y.significand := by
      have bits := significand_ge_of_exponent_lt lower
      have least := x.canonical.2.1
      have different : y.significand ≠ twoPow 52 := fun same => other ⟨same, by omega⟩
      have power : twoPow 52 = 2 ^ 52 := rfl
      omega
    have above : ((2 ^ 52 + 1 : Nat) : ℚ) * 2 ^ y.exponent ≤ y.absValue :=
      mul_le_mul_of_nonneg_right (Nat.cast_le.mpr more) (zpow_pos two_pos _).le
    push_cast at above
    linarith
  · exact add_unit_le_of_multiples higher le_rfl less

/-- Numbers with one magnitude have the same parts. -/
theorem parts_of_absValue (same : x.absValue = y.absValue) :
    x.significand = y.significand ∧ x.exponent = y.exponent := by
  rcases lt_trichotomy x.exponent y.exponent with less | equal | more
  · exact absurd same (absValue_lt_of_exponent_lt less).ne
  · have unit : (2 : ℚ) ^ y.exponent ≠ 0 := zpow_ne_zero _ two_ne_zero
    rw [absValue, absValue, equal, mul_left_inj' unit, Nat.cast_inj] at same
    exact ⟨same, equal⟩
  · exact absurd same (absValue_lt_of_exponent_lt more).ne'

/-- The upper end of the interval is not beyond the middle between the number and a larger one. -/
theorem high_le_midpoint (less : x.absValue < y.absValue) :
    2 * (x.interval.high * x.interval.step) ≤ x.absValue + y.absValue := by
  have higher : x.exponent ≤ y.exponent :=
    not_lt.mp fun lower => absurd less (absValue_lt_of_exponent_lt lower).not_gt
  have next := add_unit_le_of_multiples le_rfl higher less
  have high : x.interval.high * x.interval.step = x.absValue + 2 * x.interval.step := by
    have ends : (x.interval.high : ℚ) = 4 * x.significand + 2 := by
      rw [interval_eq, high_intervalOf]
      push_cast
      rfl
    rw [ends, absValue, ← four_steps]
    ring
  have unit := x.four_steps
  linarith

/-- The lower end of the interval is not below the middle between the number and a smaller one. -/
theorem midpoint_le_low (less : x.absValue < y.absValue) :
    x.absValue + y.absValue ≤ 2 * (y.interval.low * y.interval.step) := by
  have unit := y.four_steps
  have large : 2 ≤ 4 * y.significand := by
    have some_ : y.significand ≠ 0 := by
      intro none_
      rw [absValue_eq_zero none_] at less
      exact absurd less (not_lt.mpr x.absValue_nonneg)
    omega
  rcases low_intervalOf y.significand y.exponent with ⟨wide, other⟩ | ⟨narrow, -, -⟩
  · have next := add_unit_le other less
    have low : y.interval.low * y.interval.step = y.absValue - 2 * y.interval.step := by
      rw [interval_eq, wide, ← interval_eq, Nat.cast_sub large, absValue, ← four_steps]
      push_cast
      ring
    linarith
  · have next := add_half_unit_le less
    have half : (2 : ℚ) ^ (y.exponent - 1) * 2 = 2 ^ y.exponent := by
      rw [← zpow_add_one₀ two_ne_zero, sub_add_cancel]
    have low : y.interval.low * y.interval.step = y.absValue - y.interval.step := by
      rw [interval_eq, narrow, ← interval_eq, Nat.cast_sub (by omega), absValue, ← four_steps]
      push_cast
      ring
    linarith

/-! ## The nearest number -/

/-- No number is nearer to the rational, and if another one is as near, the significand is even. -/
structure Nearest (x : Finite) (q : ℚ) : Prop where
  near : ∀ y : Finite, |q - x.value| ≤ |q - y.value|
  even : ∀ y : Finite, |q - y.value| = |q - x.value| → y.value = x.value ∨ x.significand % 2 = 0

section Magnitudes

variable {q : ℚ}

/-- An end of the interval is in the interval only if the significand is even. -/
theorem even_or_inside (inside : x.interval.Contains q) :
    x.significand % 2 = 0 ∨
      x.interval.low * x.interval.step < q ∧ q < x.interval.high * x.interval.step := by
  cases closed : x.interval.closed with
  | true => exact .inl (of_decide_eq_true closed)
  | false => exact .inr (inside.lt closed)

/-- No magnitude is nearer to a rational of the interval. -/
theorem near_absValue (inside : x.interval.Contains q) (y : Finite) :
    |q - x.absValue| ≤ |q - y.absValue| ∧
      (|q - y.absValue| = |q - x.absValue| →
        y.absValue = x.absValue ∨ x.significand % 2 = 0) := by
  obtain ⟨low, high⟩ := inside.le
  rcases lt_trichotomy y.absValue x.absValue with less | same | more
  · have middle := midpoint_le_low less
    have right : |q - y.absValue| = q - y.absValue := abs_of_nonneg (by linarith)
    rw [right]
    refine ⟨abs_le.mpr ⟨by linarith, by linarith⟩, fun equal => .inr ?_⟩
    refine (even_or_inside inside).resolve_right fun strict => ?_
    have farther : |q - x.absValue| < q - y.absValue :=
      abs_lt.mpr ⟨by linarith [strict.1], by linarith⟩
    exact absurd equal farther.ne'
  · rw [same]
    exact ⟨le_rfl, fun _ => .inl rfl⟩
  · have middle := high_le_midpoint more
    have left : |q - y.absValue| = y.absValue - q := by
      rw [abs_sub_comm]
      exact abs_of_nonneg (by linarith)
    rw [left]
    refine ⟨abs_le.mpr ⟨by linarith, by linarith⟩, fun equal => .inr ?_⟩
    refine (even_or_inside inside).resolve_right fun strict => ?_
    have farther : |q - x.absValue| < y.absValue - q :=
      abs_lt.mpr ⟨by linarith, by linarith [strict.2]⟩
    exact absurd equal farther.ne'

end Magnitudes

/-- Zero is a number, so no number is nearer to a rational than zero would be. -/
theorem near_zero {q : ℚ} (positive : 0 ≤ q) (inside : x.interval.Contains q) :
    |q - x.absValue| ≤ q ∧ (q = |q - x.absValue| → x.absValue = 0 ∨ x.significand % 2 = 0) := by
  have nothing : absValue ⟨false, 0, -1074, by decide⟩ = 0 := absValue_eq_zero rfl
  obtain ⟨near, even⟩ := near_absValue inside ⟨false, 0, -1074, by decide⟩
  rw [nothing, sub_zero, abs_of_nonneg positive] at near even
  exact ⟨near, fun equal => (even equal).imp_left Eq.symm⟩

/-- **A number is the nearest one to the rationals of its interval.** -/
theorem nearest_of_contains {q : ℚ} (inside : x.interval.Contains q) :
    x.Nearest (signed x.negative q) := by
  have positive : 0 ≤ q :=
    (mul_nonneg (Nat.cast_nonneg _) x.interval.step_pos.le).trans inside.le.1
  have side (y : Finite) (same : y.negative = x.negative) :
      |signed x.negative q - y.value| = |q - y.absValue| := by
    rw [value, same, abs_signed_sub_signed]
  have other (y : Finite) (different : y.negative ≠ x.negative) :
      |signed x.negative q - y.value| = q + y.absValue :=
    abs_signed_sub_of_ne different positive y.absValue_nonneg
  refine ⟨fun y => ?_, fun y equal => ?_⟩
  · rw [side x rfl]
    by_cases same : y.negative = x.negative
    · rw [side y same]
      exact (near_absValue inside y).1
    · rw [other y same]
      exact (near_zero positive inside).1.trans (le_add_of_nonneg_right y.absValue_nonneg)
  · rw [side x rfl] at equal
    by_cases same : y.negative = x.negative
    · rw [side y same] at equal
      refine ((near_absValue inside y).2 equal).imp_left fun sameAbs => ?_
      rw [value, value, same, sameAbs]
    · -- Beyond zero nothing is as near, unless it is zero itself.
      rw [other y same] at equal
      have near := (near_zero positive inside).1
      have yZero : y.absValue = 0 := by linarith [y.absValue_nonneg]
      rw [yZero, add_zero] at equal
      refine ((near_zero positive inside).2 equal).imp_left fun xZero => ?_
      rw [value, value, yZero, xZero, signed, signed, neg_zero, ite_self, ite_self]

/-! ## Only one number is nearest -/

theorem absValue_lt_of_significand_lt (same : x.exponent = y.exponent)
    (less : x.significand < y.significand) : x.absValue < y.absValue := by
  rw [absValue, absValue, same]
  exact mul_lt_mul_of_pos_right (Nat.cast_lt.mpr less) (zpow_pos two_pos _)

/-- Of two numbers next to each other one is odd. -/
theorem exists_absValue_between (less : x.absValue < y.absValue) (even : x.significand % 2 = 0)
    (evenY : y.significand % 2 = 0) :
    ∃ z : Finite, x.absValue < z.absValue ∧ z.absValue < y.absValue := by
  obtain ⟨bits, low, high, full⟩ := x.canonical
  obtain ⟨bitsY, lowY, highY, _⟩ := y.canonical
  have power : twoPow 53 = 2 ^ 53 ∧ twoPow 52 = 2 ^ 52 := ⟨rfl, rfl⟩
  rcases lt_trichotomy x.exponent y.exponent with lower | same | higher
  · have normalY := significand_ge_of_exponent_lt lower
    by_cases first : y.significand = 2 ^ 52
    · -- The number before has a lower exponent and the last significand, which is odd.
      have canonical : Canonical (2 ^ 53 - 1) (y.exponent - 1) :=
        ⟨by omega, by omega, by omega, .inl (by omega)⟩
      refine ⟨⟨false, _, _, canonical⟩, ?_, absValue_lt_of_exponent_lt ?_⟩
      · rcases Int.lt_or_eq_of_le (Int.le_sub_one_of_lt lower) with muchLower | same
        · exact absValue_lt_of_exponent_lt muchLower
        · refine absValue_lt_of_significand_lt same ?_
          show x.significand < 2 ^ 53 - 1
          omega
      · show y.exponent - 1 < y.exponent
        omega
    · have canonical : Canonical (y.significand - 1) y.exponent :=
        ⟨by omega, lowY, highY, .inl (by omega)⟩
      refine ⟨⟨false, _, _, canonical⟩, absValue_lt_of_exponent_lt lower, ?_⟩
      exact absValue_lt_of_significand_lt rfl (Nat.sub_one_lt (by omega))
  · have more : x.significand < y.significand := by
      by_contra! above
      rcases above.eq_or_lt with equal | above
      · rw [absValue, absValue, same, equal] at less
        exact lt_irrefl _ less
      · exact lt_asymm less (absValue_lt_of_significand_lt same.symm above)
    have canonical : Canonical (x.significand + 1) x.exponent :=
      ⟨by omega, low, high, full.imp_left (·.trans (Nat.le_succ _))⟩
    refine ⟨⟨false, _, _, canonical⟩, absValue_lt_of_significand_lt rfl (Nat.lt_succ_self _), ?_⟩
    refine absValue_lt_of_significand_lt same ?_
    show x.significand + 1 < y.significand
    omega
  · exact absurd less (absValue_lt_of_exponent_lt higher).not_gt

/-- Two even numbers have another number between them. -/
theorem exists_between (less : x.value < y.value) (even : x.significand % 2 = 0)
    (evenY : y.significand % 2 = 0) : ∃ z : Finite, x.value < z.value ∧ z.value < y.value := by
  rcases le_or_gt 0 x.value with positive | below
  · have positiveY : 0 ≤ y.value := positive.trans less.le
    rw [value_of_nonneg positive, value_of_nonneg positiveY] at less ⊢
    obtain ⟨z, after, before⟩ := exists_absValue_between less even evenY
    exact ⟨⟨false, z.significand, z.exponent, z.canonical⟩, after, before⟩
  · rcases le_or_gt y.value 0 with negative | above
    · rw [value_of_nonpos below.le, value_of_nonpos negative] at less ⊢
      obtain ⟨z, after, before⟩ := exists_absValue_between (neg_lt_neg_iff.mp less) evenY even
      exact ⟨⟨true, z.significand, z.exponent, z.canonical⟩, neg_lt_neg before, neg_lt_neg after⟩
    · have nothing : value ⟨false, 0, -1074, by decide⟩ = 0 := absValue_eq_zero rfl
      exact ⟨_, nothing.symm ▸ below, nothing.symm ▸ above⟩

/-- Of two numbers that are nearest, none is less. -/
theorem Nearest.not_value_lt {q : ℚ} (first : x.Nearest q) (second : y.Nearest q) :
    ¬x.value < y.value := by
  intro less
  have equal := le_antisymm (first.near y) (second.near x)
  have even := (first.even y equal.symm).resolve_left less.ne'
  have evenY := (second.even x equal).resolve_left less.ne
  obtain ⟨z, after, before⟩ := exists_between less even evenY
  have below := midpoint_le_of_near less (second.near x)
  have above := le_midpoint_of_near after (first.near z)
  linarith

/-- **Only one number is nearest.** -/
theorem Nearest.value_unique {q : ℚ} (first : x.Nearest q) (second : y.Nearest q) :
    x.value = y.value :=
  le_antisymm (not_lt.mp (second.not_value_lt first)) (not_lt.mp (first.not_value_lt second))

/-- **Rounding keeps the order.** -/
theorem Nearest.mono {p q : ℚ} (first : x.Nearest p) (second : y.Nearest q) (below : p ≤ q) :
    x.value ≤ y.value := by
  rcases below.eq_or_lt with rfl | less
  · exact (first.value_unique second).le
  · by_contra! crossed
    have above := midpoint_le_of_near crossed (first.near y)
    have below := le_midpoint_of_near crossed (second.near x)
    linarith

/-! ## The largest numbers -/

def largest (negative : Bool) : Finite :=
  ⟨negative, 2 ^ 53 - 1, 971, by decide⟩

theorem absValue_largest (negative : Bool) :
    (largest negative).absValue = (2 ^ 53 - 1) * 2 ^ (971 : Int) := by
  rw [absValue]
  norm_num [largest]

theorem value_largest (negative : Bool) :
    (largest negative).value = signed negative (largest negative).absValue :=
  rfl

theorem absValue_largest_le_overflow (negative : Bool) :
    (largest negative).absValue ≤ overflow := by
  have double : (2 : ℚ) ^ (971 : Int) = 2 ^ (970 : Int) * 2 := zpow_add_one₀ two_ne_zero 970
  calc (largest negative).absValue = (2 ^ 54 - 2) * 2 ^ (970 : Int) := by
        rw [absValue_largest, double]
        ring
    _ ≤ overflow := mul_le_mul_of_nonneg_right (by norm_num) (zpow_pos two_pos _).le

theorem absValue_le_largest (x : Finite) (negative : Bool) :
    x.absValue ≤ (largest negative).absValue := by
  obtain ⟨bits, -, greatest, -⟩ := x.canonical
  have atMost : x.significand ≤ 2 ^ 53 - 1 := Nat.le_sub_one_of_lt bits
  have significand : (x.significand : ℚ) ≤ 2 ^ 53 - 1 := by
    have cast : (x.significand : ℚ) ≤ ((2 ^ 53 - 1 : Nat) : ℚ) := Nat.cast_le.mpr atMost
    norm_num at cast ⊢
    exact cast
  rw [absValue_largest]
  exact mul_le_mul significand (zpow_le_zpow_right₀ one_le_two greatest) (zpow_pos two_pos _).le
    (by norm_num)

/-- What is beyond all numbers is nearest to the largest one. -/
theorem nearest_largest (negative : Bool) {q : ℚ} (beyond : (largest negative).absValue ≤ q) :
    (largest negative).Nearest (signed negative q) := by
  have top : 0 < (largest negative).absValue := by
    rw [absValue_largest]
    exact mul_pos (by norm_num) (zpow_pos two_pos _)
  have self : |signed negative q - (largest negative).value| = q - (largest negative).absValue := by
    rw [value_largest, abs_signed_sub_signed, abs_of_nonneg (sub_nonneg.mpr beyond)]
  refine ⟨fun y => ?_, fun y equal => ?_⟩
  · have below := y.absValue_le_largest negative
    rw [self]
    by_cases same : y.negative = negative
    · rw [value, same, abs_signed_sub_signed, abs_of_nonneg (by linarith)]
      linarith
    · rw [value, abs_signed_sub_of_ne same (by linarith) y.absValue_nonneg]
      linarith [y.absValue_nonneg]
  · have below := y.absValue_le_largest negative
    rw [self] at equal
    by_cases same : y.negative = negative
    · rw [value, same, abs_signed_sub_signed, abs_of_nonneg (by linarith)] at equal
      have sameAbs : y.absValue = (largest negative).absValue := by linarith
      rw [value, same, value_largest, sameAbs]
      exact .inl rfl
    · rw [value, abs_signed_sub_of_ne same (by linarith) y.absValue_nonneg] at equal
      linarith [y.absValue_nonneg]

end Finite

/-! ## What is rounded -/

/-- **An integer of 64 bits becomes the number that is nearest to it.** -/
theorem exists_nearest_ofInt (i : Int64) :
    ∃ x : Finite, ofInt i.toInt = .finite x ∧ x.Nearest i.toInt := by
  obtain ⟨x, made, sign, inside⟩ :=
    exists_nearest (decide (i.toInt < 0)) one_pos (natAbs_int64_lt_overflow i)
  have closest := Finite.nearest_of_contains inside
  have whole : signed (decide (i.toInt < 0)) (i.toInt.natAbs / (1 : Nat)) = i.toInt := by
    rw [Nat.cast_one, div_one, signed_natAbs]
  rw [sign, whole] at closest
  exact ⟨x, made, closest⟩

end Binary64

/-- What a numeral denotes. -/
def Numeral.denoted (n : Numeral) : ℚ :=
  signed n.negative n.magnitude

/-- **A numeral is read as the number that is nearest to what it denotes**, or as infinity if that
is the largest one. -/
theorem Numeral.exists_nearest (n : Numeral) :
    ∃ x : Binary64.Finite, x.Nearest n.denoted ∧
      (n.value = .finite x ∨ n.value = .infinite n.negative ∧ x = .largest n.negative) := by
  rcases Binary64.ofDecimal_cases n.negative (Nat.ofDigitChars 10 (n.whole ++ n.fraction) 0)
    (n.exponent - n.fraction.length) with ⟨x, made, sign, inside⟩ | ⟨made, beyond⟩
  · have closest := Binary64.Finite.nearest_of_contains inside
    rw [sign] at closest
    exact ⟨x, closest, .inl made⟩
  · have pastLargest := (Binary64.Finite.absValue_largest_le_overflow n.negative).trans beyond
    exact ⟨_, Binary64.Finite.nearest_largest n.negative pastLargest, .inr ⟨made, rfl⟩⟩

end PhaseTable
