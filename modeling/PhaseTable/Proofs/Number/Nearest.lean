/-
# PhaseTable.Proofs.Number.Nearest -- a fraction is rounded to the number whose interval it is in

Rounding divides a fraction by the power of two that leaves 53 bits before the point
(`exponentOf_spec`) and takes the nearest integer, of two the even one (`roundHalfEven_spec`).  So
the fraction lies in the interval of what comes of it (`exists_parts`).  Intervals do not meet, so a
fraction in the interval of a number is rounded to that number (`nearest_of_contains`).

What is rounded can still have too large an exponent.  That happens to fractions beyond the
intervals of all numbers only, which begin at `overflow`.
-/
import Mathlib.Tactic.FieldSimp
import PhaseTable.Number.Rounding
import PhaseTable.Proofs.Number.Shortest

namespace PhaseTable.Binary64

set_option autoImplicit false

/-! ## Fractions in units of a power of two -/

theorem twoPow_mul_zpow (n : Nat) (e : Int) : (twoPow n : ℚ) * 2 ^ e = 2 ^ (e + n) := by
  rw [zpow_add₀ two_ne_zero, zpow_natCast, twoPow, Nat.pow_eq, Nat.cast_pow, Nat.cast_ofNat,
    mul_comm]

section Scaled

variable (num : Nat) {den : Nat}

theorem scaled_pos (positive : 0 < den) (e : Int) : 0 < (scaled num den e).2 :=
  Nat.mul_pos positive (twoPow_pos _)

/-- A fraction in quarters of the unit by which it is divided. -/
theorem quarters_eq (positive : 0 < den) (e : Int) :
    (num : ℚ) / den =
      ((4 * (scaled num den e).1 : Nat) : ℚ) / (scaled num den e).2 * 2 ^ (e - 2) := by
  have two := pow_toNat (b := 2) two_ne_zero e
  have denNonzero : (den : ℚ) ≠ 0 := Nat.cast_ne_zero.mpr positive.ne'
  have power : (2 : ℚ) ^ (e - 2) = 2 ^ e / 4 := by
    rw [zpow_sub₀ two_ne_zero]
    norm_num
  have nonzero : (2 : ℚ) ^ e ≠ 0 := zpow_ne_zero _ two_ne_zero
  have up : ((scaled num den e).1 : ℚ) = num * 2 ^ (-e).toNat := by simp [scaled, twoPow]
  have down : ((scaled num den e).2 : ℚ) = den * 2 ^ e.toNat := by simp [scaled, twoPow]
  rw [Nat.cast_mul, up, down, two, power]
  field_simp
  norm_num

/-- Quarters are compared with the fraction in whole numbers. -/
theorem quarters_le_iff (positive : 0 < den) (e : Int) (count : Nat) :
    (count : ℚ) * 2 ^ (e - 2) ≤ num / den ↔
      count * (scaled num den e).2 ≤ 4 * (scaled num den e).1 := by
  have denPos : (0 : ℚ) < (scaled num den e).2 := Nat.cast_pos.mpr (scaled_pos _ positive e)
  rw [quarters_eq _ positive e, mul_le_mul_iff_left₀ (zpow_pos two_pos _), le_div_iff₀ denPos,
    ← Nat.cast_mul, Nat.cast_le]

theorem le_quarters_iff (positive : 0 < den) (e : Int) (count : Nat) :
    (num : ℚ) / den ≤ count * 2 ^ (e - 2) ↔
      4 * (scaled num den e).1 ≤ count * (scaled num den e).2 := by
  have denPos : (0 : ℚ) < (scaled num den e).2 := Nat.cast_pos.mpr (scaled_pos _ positive e)
  rw [quarters_eq _ positive e, mul_le_mul_iff_left₀ (zpow_pos two_pos _), div_le_iff₀ denPos,
    ← Nat.cast_mul, Nat.cast_le]

/-- An integer is below the fraction if it is not above its whole part. -/
theorem units_le_iff (positive : 0 < den) (e : Int) (count : Nat) :
    (count : ℚ) * 2 ^ e ≤ num / den ↔
      count ≤ (scaled num den e).1 / (scaled num den e).2 := by
  have quarters := quarters_le_iff num positive e (4 * count)
  have unit : ((4 * count : Nat) : ℚ) * 2 ^ (e - 2) = count * 2 ^ e := by
    rw [zpow_sub₀ two_ne_zero, Nat.cast_mul]
    norm_num
    ring
  rw [unit, Nat.mul_assoc, Nat.mul_le_mul_left_iff (by decide)] at quarters
  rw [quarters, Nat.le_div_iff_mul_le (scaled_pos _ positive e)]

end Scaled

/-! ## Rounding -/

/-- What is rounded is half a unit away at most, and less than that from an odd integer. -/
theorem roundHalfEven_spec {n d : Nat} (positive : 0 < d) :
    2 * roundHalfEven n d * d ≤ 2 * n + d ∧ 2 * n ≤ 2 * roundHalfEven n d * d + d ∧
      (roundHalfEven n d % 2 = 1 →
        2 * roundHalfEven n d * d < 2 * n + d ∧ 2 * n < 2 * roundHalfEven n d * d + d) := by
  have division := Nat.div_add_mod' n d
  have part := Nat.mod_lt n positive
  simp only [roundHalfEven]
  generalize n / d = floor at division ⊢
  generalize n % d = rest at division part ⊢
  have here : 2 * floor * d = 2 * (floor * d) := Nat.mul_assoc _ _ _
  have next : 2 * (floor + 1) * d = 2 * (floor * d) + 2 * d := by ring
  split
  · next below => omega
  · next above => omega

theorem roundHalfEven_le {n d bound : Nat} (below : n / d < bound) :
    roundHalfEven n d ≤ bound := by
  simp only [roundHalfEven]
  split <;> omega

theorem le_roundHalfEven {n d bound : Nat} (above : bound ≤ n / d) :
    bound ≤ roundHalfEven n d := by
  simp only [roundHalfEven]
  split <;> omega

/-- The bounds of a fraction by the lengths of its parts. -/
theorem bounds_of_log2 {num den : Nat} (numNonzero : num ≠ 0) (denNonzero : den ≠ 0) :
    (2 : ℚ) ^ ((num.log2 : Int) - den.log2 - 1) ≤ num / den ∧
      (num : ℚ) / den < 2 ^ ((num.log2 : Int) - den.log2 + 1) := by
  have numLow : ((2 ^ num.log2 : Nat) : ℚ) ≤ num := Nat.cast_le.mpr (Nat.log2_self_le numNonzero)
  have numHigh : (num : ℚ) < (2 ^ (num.log2 + 1) : Nat) := Nat.cast_lt.mpr Nat.lt_log2_self
  have denLow : ((2 ^ den.log2 : Nat) : ℚ) ≤ den := Nat.cast_le.mpr (Nat.log2_self_le denNonzero)
  have denHigh : (den : ℚ) ≤ (2 ^ (den.log2 + 1) : Nat) := Nat.cast_le.mpr Nat.lt_log2_self.le
  have positive : (0 : ℚ) < den := Nat.cast_pos.mpr (Nat.pos_of_ne_zero denNonzero)
  simp only [Nat.cast_pow, Nat.cast_ofNat, ← zpow_natCast, Nat.cast_add, Nat.cast_one]
    at numLow numHigh denLow denHigh
  constructor
  · rw [le_div_iff₀ positive]
    calc (2 : ℚ) ^ ((num.log2 : Int) - den.log2 - 1) * den
        ≤ 2 ^ ((num.log2 : Int) - den.log2 - 1) * 2 ^ ((den.log2 : Int) + 1) :=
          mul_le_mul_of_nonneg_left denHigh (zpow_pos two_pos _).le
      _ = 2 ^ (num.log2 : Int) := by
          rw [← zpow_add₀ two_ne_zero]
          congr 1
          omega
      _ ≤ num := numLow
  · rw [div_lt_iff₀ positive]
    calc (num : ℚ) < 2 ^ ((num.log2 : Int) + 1) := numHigh
      _ = 2 ^ ((num.log2 : Int) - den.log2 + 1) * 2 ^ (den.log2 : Int) := by
          rw [← zpow_add₀ two_ne_zero]
          congr 1
          omega
      _ ≤ 2 ^ ((num.log2 : Int) - den.log2 + 1) * den :=
          mul_le_mul_of_nonneg_left denLow (zpow_pos two_pos _).le

/-- The exponent leaves 53 bits before the point, or fewer if it is the least one. -/
theorem exponentOf_spec {num den : Nat} (numNonzero : num ≠ 0) (positive : 0 < den) :
    -1074 ≤ exponentOf num den ∧ (num : ℚ) / den < 2 ^ (exponentOf num den + 53) ∧
      ((2 : ℚ) ^ (exponentOf num den + 52) ≤ num / den ∨ exponentOf num den = -1074) := by
  obtain ⟨low, high⟩ := bounds_of_log2 numNonzero positive.ne'
  have one_le : (1 : ℚ) ≤ 2 := one_le_two
  simp only [exponentOf]
  generalize least : max (-1074) ((num.log2 : Int) - den.log2 - 53) = e
  have test := units_le_iff num positive e (twoPow 53)
  rw [twoPow_mul_zpow, Nat.cast_ofNat] at test
  split
  · next long =>
    refine ⟨by omega, ?_, .inl ?_⟩
    · exact high.trans_le (zpow_le_zpow_right₀ one_le (by omega))
    · rw [show e + 1 + 52 = e + 53 by omega]
      exact test.mpr long
  · next short =>
    refine ⟨by omega, not_le.mp (mt test.mp short), ?_⟩
    by_cases clamped : e = -1074
    · exact .inr clamped
    · refine .inl ((zpow_le_zpow_right₀ one_le ?_).trans low)
      omega

/-! ## Intervals -/

/-- The interval of a number with the given parts, even if the exponent is too large. -/
def intervalOf (significand : Nat) (exponent : Int) : Interval where
  low := 4 * significand - (if significand = twoPow 52 ∧ -1074 < exponent then 1 else 2)
  value := 4 * significand
  high := 4 * significand + 2
  exponent := exponent
  closed := significand % 2 = 0

theorem interval_eq (x : Finite) : x.interval = intervalOf x.significand x.exponent := rfl

section Ends

variable (s : Nat) (e : Int)

theorem exponent_intervalOf : (intervalOf s e).exponent = e := rfl

theorem high_intervalOf : (intervalOf s e).high = 4 * s + 2 := rfl

theorem low_intervalOf : (intervalOf s e).low = 4 * s - 2 ∧ ¬(s = twoPow 52 ∧ -1074 < e) ∨
    (intervalOf s e).low = 4 * s - 1 ∧ s = twoPow 52 ∧ -1074 < e := by
  simp only [intervalOf]
  split
  · next power => exact .inr ⟨rfl, power⟩
  · next other => exact .inl ⟨rfl, other⟩

theorem closed_intervalOf : (intervalOf s e).closed = true ↔ s % 2 = 0 :=
  decide_eq_true_iff

end Ends

/-- Parts of a number, of which the exponent may be too large, with a fraction in their interval. -/
structure RoundsTo (q : ℚ) (significand : Nat) (exponent : Int) : Prop where
  bits : significand < twoPow 53
  least : -1074 ≤ exponent
  normal : twoPow 52 ≤ significand ∨ exponent = -1074
  inside : (intervalOf significand exponent).Contains q

section Parts

variable (num : Nat) {den : Nat}

theorem contains_of_le {i : Interval} (positive : 0 < den) (closed : i.closed = true)
    (low : i.low * (scaled num den i.exponent).2 ≤ 4 * (scaled num den i.exponent).1)
    (high : 4 * (scaled num den i.exponent).1 ≤ i.high * (scaled num den i.exponent).2) :
    i.Contains (num / den) := by
  rw [Interval.Contains, if_pos closed]
  exact ⟨(quarters_le_iff _ positive _ _).mpr low, (le_quarters_iff _ positive _ _).mpr high⟩

theorem contains_of_lt {i : Interval} (positive : 0 < den)
    (low : i.low * (scaled num den i.exponent).2 < 4 * (scaled num den i.exponent).1)
    (high : 4 * (scaled num den i.exponent).1 < i.high * (scaled num den i.exponent).2) :
    i.Contains (num / den) := by
  rw [← not_le, ← le_quarters_iff _ positive, not_le] at low
  rw [← not_le, ← quarters_le_iff _ positive, not_le] at high
  rw [Interval.Contains]
  split
  · exact ⟨low.le, high.le⟩
  · exact ⟨low, high⟩

variable {num}

/-- A fraction that is rounded to at most 53 bits lies in the interval of what comes of it. -/
theorem roundsTo_of_short {e : Int} {s : Nat} (positive : 0 < den) (least : -1074 ≤ e)
    (normal : twoPow 52 ≤ (scaled num den e).1 / (scaled num den e).2 ∨ e = -1074)
    (rounded : roundHalfEven (scaled num den e).1 (scaled num den e).2 = s)
    (short : s < twoPow 53) : RoundsTo (num / den) s e := by
  refine ⟨short, least, normal.imp_left fun long => rounded ▸ le_roundHalfEven long, ?_⟩
  have scaledPos := scaled_pos num positive e
  obtain ⟨low, high, odd⟩ := roundHalfEven_spec (n := (scaled num den e).1) scaledPos
  have closed := contains_of_le num (i := intervalOf s e) positive
  have open_ := contains_of_lt num (i := intervalOf s e) positive
  have ends := low_intervalOf s e
  rw [exponent_intervalOf, high_intervalOf] at closed open_
  rw [closed_intervalOf] at closed
  rw [rounded] at low high odd
  rw [Nat.le_div_iff_mul_le scaledPos] at normal
  generalize (scaled num den e).1 = n at *
  generalize (scaled num den e).2 = d at *
  generalize (intervalOf s e).low = lower at *
  have highEnd : (4 * s + 2) * d = 2 * (2 * s * d) + 2 * d := by ring
  have lowEnd : (4 * s - 2) * d = 2 * (2 * s * d) - 2 * d := by
    rw [Nat.sub_mul]
    congr 1
    ring
  have power : (4 * s - 1) * d ≤ 4 * (s * d) := by
    rw [← Nat.mul_assoc]
    exact Nat.mul_le_mul_right d (Nat.sub_le _ 1)
  rcases Nat.mod_two_eq_zero_or_one s with even | uneven
  · refine closed even ?_ (by omega)
    rcases ends with ⟨rfl, -⟩ | ⟨rfl, rfl, above⟩
    · omega
    · -- Below a power of two the numbers lie closer, but the fraction is not below it.
      have large : twoPow 52 * d ≤ n := normal.resolve_right (by omega)
      omega
  · obtain ⟨less, more⟩ := odd uneven
    refine open_ ?_ (by omega)
    rcases ends with ⟨rfl, -⟩ | ⟨rfl, rfl, -⟩
    · have some_ : 2 * d ≤ 2 * s * d := Nat.mul_le_mul_right d (by omega)
      omega
    · exact absurd uneven (by decide)

/-- A fraction that is rounded up to 54 bits lies in the interval of the power of two. -/
theorem roundsTo_of_long {e : Int} (positive : 0 < den) (least : -1074 ≤ e)
    (bits : (num : ℚ) / den < 2 ^ (e + 53))
    (rounded : roundHalfEven (scaled num den e).1 (scaled num den e).2 = twoPow 53) :
    RoundsTo (num / den) (twoPow 52) (e + 1) := by
  obtain ⟨low, -, -⟩ := roundHalfEven_spec (n := (scaled num den e).1) (scaled_pos _ positive e)
  have half : ((2 * (twoPow 54 - 1) : Nat) : ℚ) * 2 ^ (e - 2) ≤ num / den := by
    rw [quarters_le_iff _ positive, Nat.mul_assoc, Nat.sub_mul]
    rw [rounded] at low
    have double : 2 * twoPow 53 * (scaled num den e).2 = twoPow 54 * (scaled num den e).2 := rfl
    omega
  have step : (2 : ℚ) ^ (e + 1 - 2) = 2 * 2 ^ (e - 2) := by
    rw [show e + 1 - 2 = e - 2 + 1 by omega, zpow_add_one₀ two_ne_zero, mul_comm]
  have top : (2 : ℚ) ^ (e + 53) = 2 ^ 55 * 2 ^ (e - 2) := by
    rw [← zpow_natCast, ← zpow_add₀ two_ne_zero]
    congr 1
    omega
  have unitPos : (0 : ℚ) < 2 ^ (e - 2) := zpow_pos two_pos _
  have closed : (intervalOf (twoPow 52) (e + 1)).closed = true := rfl
  have lower : (intervalOf (twoPow 52) (e + 1)).low ≤ twoPow 54 - 1 := by
    have double : 4 * twoPow 52 = twoPow 54 := rfl
    rcases low_intervalOf (twoPow 52) (e + 1) with ⟨same, -⟩ | ⟨same, -, -⟩
    · omega
    · omega
  refine ⟨by decide, by omega, .inl le_rfl, ?_⟩
  rw [Interval.Contains, if_pos closed, Interval.step, exponent_intervalOf, step]
  constructor
  · refine le_trans ?_ half
    rw [← mul_assoc, mul_le_mul_iff_left₀ unitPos, mul_comm, Nat.cast_mul, Nat.cast_ofNat,
      mul_le_mul_iff_right₀ two_pos, Nat.cast_le]
    exact lower
  · refine bits.le.trans ?_
    rw [top, ← mul_assoc, mul_le_mul_iff_left₀ unitPos, high_intervalOf]
    norm_num [twoPow]

/-- What a fraction is rounded to, before the exponent is looked at. -/
theorem exists_parts (negative : Bool) (nonzero : num ≠ 0) (positive : 0 < den) :
    ∃ s e, nearest negative num den = ofParts negative s e ∧ RoundsTo (num / den) s e := by
  obtain ⟨least, bits, normal⟩ := exponentOf_spec nonzero positive
  have unit : ∀ bits : Nat, (2 : ℚ) ^ (exponentOf num den + bits) ≤ num / den ↔ _ := fun bits =>
    twoPow_mul_zpow bits _ ▸ units_le_iff _ positive (exponentOf num den) (twoPow bits)
  have below := roundHalfEven_le (not_le.mp (mt (unit 53).mpr (not_le.mpr bits)))
  have normalScaled := normal.imp_left (unit 52).mp
  generalize rounded : roundHalfEven (scaled num den (exponentOf num den)).1
    (scaled num den (exponentOf num den)).2 = s at below
  by_cases long : s = twoPow 53
  · refine ⟨_, _, ?_, roundsTo_of_long positive least bits (rounded.trans long)⟩
    simp only [nearest, if_neg nonzero, rounded, if_pos long]
  · have short : s < twoPow 53 := Nat.lt_of_le_of_ne below long
    refine ⟨_, _, ?_, roundsTo_of_short positive least normalScaled rounded short⟩
    simp only [nearest, if_neg nonzero, rounded, if_neg long]

end Parts

/-! ## Numbers -/

/-- Where the intervals of all numbers end. -/
def overflow : ℚ :=
  (2 ^ 54 - 1) * 2 ^ (970 : Int)

theorem overflow_pos : 0 < overflow :=
  mul_pos (by norm_num) (zpow_pos two_pos _)

/-- The interval of the largest number ends there, and leaves its end out. -/
theorem lt_overflow {x : Finite} {q : ℚ} (inside : x.interval.Contains q) : q < overflow := by
  obtain ⟨bits, -, greatest, -⟩ := x.canonical
  have step : x.interval.step ≤ 2 ^ (969 : Int) :=
    zpow_le_zpow_right₀ one_le_two (by simp only [Finite.interval]; omega)
  have positive := x.interval.step_pos
  have top : overflow = ((2 ^ 55 - 2 : Nat) : ℚ) * 2 ^ (969 : Int) := by
    rw [overflow, show (970 : Int) = 969 + 1 from rfl, zpow_add_one₀ two_ne_zero]
    generalize (2 : ℚ) ^ (969 : Int) = unit
    norm_num
    ring
  have high : x.interval.high = 4 * x.significand + 2 := rfl
  have limit : twoPow 53 = 2 ^ 53 := rfl
  rw [top]
  by_cases even : x.significand % 2 = 0
  · have less : x.interval.high < 2 ^ 55 - 2 := by omega
    calc q ≤ x.interval.high * x.interval.step := inside.le.2
      _ < ((2 ^ 55 - 2 : Nat) : ℚ) * x.interval.step :=
          mul_lt_mul_of_pos_right (Nat.cast_lt.mpr less) positive
      _ ≤ ((2 ^ 55 - 2 : Nat) : ℚ) * 2 ^ (969 : Int) :=
          mul_le_mul_of_nonneg_left step (Nat.cast_nonneg _)
  · have open_ : x.interval.closed = false := by simp [Finite.interval, even]
    have le : x.interval.high ≤ 2 ^ 55 - 2 := by omega
    calc q < x.interval.high * x.interval.step := (inside.lt open_).2
      _ ≤ ((2 ^ 55 - 2 : Nat) : ℚ) * x.interval.step :=
          mul_le_mul_of_nonneg_right (Nat.cast_le.mpr le) positive.le
      _ ≤ ((2 ^ 55 - 2 : Nat) : ℚ) * 2 ^ (969 : Int) :=
          mul_le_mul_of_nonneg_left step (Nat.cast_nonneg _)

/-- Parts whose exponent is too large for a number are those of a fraction beyond all numbers. -/
theorem RoundsTo.exponent_le {q : ℚ} {s : Nat} {e : Int} (rounds : RoundsTo q s e)
    (small : q < overflow) : e ≤ 971 := by
  by_contra large
  have normal : twoPow 52 ≤ s := rounds.normal.resolve_right (by omega)
  have low : twoPow 54 - 1 ≤ (intervalOf s e).low := by
    have double : twoPow 54 = 4 * twoPow 52 := rfl
    rcases low_intervalOf s e with ⟨same, other⟩ | ⟨same, -, -⟩
    · have next : s ≠ twoPow 52 := fun power => other ⟨power, by omega⟩
      omega
    · omega
  have step : (2 : ℚ) ^ (970 : Int) ≤ (intervalOf s e).step :=
    zpow_le_zpow_right₀ one_le_two (by rw [exponent_intervalOf]; omega)
  refine absurd rounds.inside.le.1 (not_le.mpr (small.trans_le ?_))
  calc overflow = ((twoPow 54 - 1 : Nat) : ℚ) * 2 ^ (970 : Int) := by
        rw [overflow]
        congr 1
        norm_num [twoPow]
    _ ≤ (intervalOf s e).low * 2 ^ (970 : Int) :=
        mul_le_mul_of_nonneg_right (Nat.cast_le.mpr low) (zpow_pos two_pos _).le
    _ ≤ (intervalOf s e).low * (intervalOf s e).step :=
        mul_le_mul_of_nonneg_left step (Nat.cast_nonneg _)

section Nearest

variable {num den : Nat}

/-- What is at most half of the least number is in the interval of zero. -/
theorem contains_of_tiny (negative : Bool) {q : ℚ} (positive : 0 ≤ q)
    (tiny : q ≤ 2 ^ (-1075 : Int)) :
    (Finite.interval ⟨negative, 0, -1074, by decide⟩).Contains q := by
  have ends : (intervalOf 0 (-1074)).closed = true ∧ (intervalOf 0 (-1074)).low = 0 ∧
      (intervalOf 0 (-1074)).high = 2 := ⟨rfl, rfl, rfl⟩
  have half : (2 : ℚ) * 2 ^ (-1076 : Int) = 2 ^ (-1075 : Int) := by
    rw [mul_comm, ← zpow_add_one₀ two_ne_zero]
    norm_num
  rw [interval_eq, Interval.Contains, if_pos ends.1, ends.2.1, ends.2.2, Nat.cast_zero, zero_mul]
  exact ⟨positive, tiny.trans half.ge⟩

/-- A fraction that is not beyond all numbers is rounded to a number, and lies in its interval. -/
theorem exists_nearest (negative : Bool) (positive : 0 < den) (small : (num : ℚ) / den < overflow) :
    ∃ x : Finite, nearest negative num den = .finite x ∧ x.negative = negative ∧
      x.interval.Contains (num / den) := by
  by_cases nonzero : num = 0
  · subst nonzero
    refine ⟨⟨negative, 0, -1074, by decide⟩, rfl, rfl, ?_⟩
    rw [Nat.cast_zero, zero_div]
    exact contains_of_tiny negative le_rfl (zpow_pos two_pos _).le
  · obtain ⟨s, e, made, rounds⟩ := exists_parts negative nonzero positive
    have canonical : Canonical s e :=
      ⟨rounds.bits, rounds.least, rounds.exponent_le small, rounds.normal⟩
    refine ⟨⟨negative, s, e, canonical⟩, ?_, rfl, rounds.inside⟩
    rw [made, ofParts, dif_pos canonical]

/-- **A fraction in the interval of a number is rounded to the number.** -/
theorem nearest_of_contains {x : Finite} (positive : 0 < den)
    (inside : x.interval.Contains (num / den)) : nearest x.negative num den = .finite x := by
  obtain ⟨y, made, sign, insideMade⟩ := exists_nearest x.negative positive (lt_overflow inside)
  rw [made, Finite.ext_of_contains sign insideMade inside]

/-- A fraction that is beyond all numbers is rounded to infinity. -/
theorem nearest_of_overflow (negative : Bool) (positive : 0 < den)
    (large : overflow ≤ (num : ℚ) / den) : nearest negative num den = .infinite negative := by
  have nonzero : num ≠ 0 := by
    rintro rfl
    rw [Nat.cast_zero, zero_div] at large
    exact absurd large (not_le.mpr overflow_pos)
  obtain ⟨s, e, made, rounds⟩ := exists_parts negative nonzero positive
  have tooLarge : ¬ Canonical s e := fun canonical =>
    absurd (lt_overflow (x := ⟨negative, s, e, canonical⟩) rounds.inside) (not_lt.mpr large)
  rw [made, ofParts, dif_neg tooLarge]

end Nearest

end PhaseTable.Binary64
