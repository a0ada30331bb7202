/-
# PhaseTable.Proofs.Reduction.Extremes -- the least and the greatest of integers

The least and the greatest of many values are found among numbers.  `pick` keeps one of two numbers,
so what is left of many is one of them, and none goes before it (`Picks.foldl`).

Integers become the numbers nearest to them on the way in.  Rounding keeps their order, so the
number that is left is the one that the least (greatest) integer became (`Cell.pickOf_integers`).
It is that integer if 53 of its bits count at most, and it is beyond all integers of 64 bits if the
integer is among the last 512 of them (`Cell.Rounded`).
-/
import Mathlib.Data.Finset.Max
import PhaseTable.Proofs.Cell.WholeNumbers
import PhaseTable.Reduction

namespace PhaseTable

set_option autoImplicit false

open Binary64 (Finite Short)

/-! ## One of many numbers -/

/-- Of two numbers the function picks the one that is less, or more if the order is turned round. -/
def Picks (pick : Binary64 → Binary64 → Binary64) (down : Bool) : Prop :=
  ∀ x y : Finite,
    pick (.finite x) (.finite y) = .finite x ∧ signed down x.value ≤ signed down y.value ∨
      pick (.finite x) (.finite y) = .finite y ∧ signed down y.value ≤ signed down x.value

theorem Binary64.picks_least : Picks .least false := by
  intro x y
  by_cases less : lt (.finite y) (.finite x) = true
  · exact .inr ⟨if_pos less, (lt_iff.mp less).le⟩
  · exact .inl ⟨if_neg less, not_lt.mp fun below => less (lt_iff.mpr below)⟩

theorem Binary64.picks_greatest : Picks .greatest true := by
  intro x y
  by_cases less : lt (.finite x) (.finite y) = true
  · exact .inr ⟨if_pos less, neg_le_neg (lt_iff.mp less).le⟩
  · exact .inl ⟨if_neg less, neg_le_neg (not_lt.mp fun below => less (lt_iff.mpr below))⟩

/-- What is left of many numbers is one of them, and none goes before it. -/
theorem Picks.foldl {pick : Binary64 → Binary64 → Binary64} {down : Bool} (picks : Picks pick down)
    (x : Finite) (xs : List Finite) :
    ∃ y ∈ x :: xs, (xs.map Binary64.finite).foldl pick (.finite x) = .finite y ∧
      ∀ z ∈ x :: xs, signed down y.value ≤ signed down z.value := by
  induction xs generalizing x with
  | nil => exact ⟨x, List.mem_singleton_self x, rfl, by simp⟩
  | cons next xs ih =>
      rw [List.map_cons, List.foldl_cons]
      rcases picks x next with ⟨kept, before⟩ | ⟨kept, before⟩
      · obtain ⟨y, member, left, least⟩ := ih x
        refine ⟨y, by grind, by rw [kept, left], ?_⟩
        have first := least x List.mem_cons_self
        exact List.forall_mem_cons.mpr ⟨first, List.forall_mem_cons.mpr ⟨first.trans before,
          fun z later => least z (List.mem_cons_of_mem _ later)⟩⟩
      · obtain ⟨y, member, left, least⟩ := ih next
        refine ⟨y, List.mem_cons_of_mem _ member, by rw [kept, left], ?_⟩
        exact List.forall_mem_cons.mpr ⟨(least next List.mem_cons_self).trans before, least⟩

/-- Rounding keeps the order, also if it is turned round. -/
theorem Binary64.Finite.Nearest.mono_signed {x y : Finite} {p q : ℚ} {down : Bool}
    (first : x.Nearest p) (second : y.Nearest q) (below : signed down p ≤ signed down q) :
    signed down x.value ≤ signed down y.value := by
  cases down with
  | false => exact first.mono second below
  | true => exact neg_le_neg (second.mono first (neg_le_neg_iff.mp below))

/-! ## One of many integers -/

namespace Cell

theorem filterMap_asNumber_integers (values : List Int64) :
    (values.map integer).filterMap asNumber = values.map fun i => .ofInt i.toInt := by
  rw [List.filterMap_map, ← List.filterMap_eq_map]
  rfl

/-- One of many integers is the first in the order. -/
theorem exists_first (down : Bool) (first : Int64) (rest : List Int64) :
    ∃ m ∈ first :: rest, ∀ i ∈ first :: rest, signed down m.toInt ≤ signed down i.toInt := by
  obtain ⟨m, member, least⟩ := (first :: rest).toFinset.exists_min_image
    (fun i => signed down i.toInt) ⟨first, List.mem_toFinset.mpr List.mem_cons_self⟩
  exact ⟨m, List.mem_toFinset.mp member, fun i listed => least i (List.mem_toFinset.mpr listed)⟩

/-- **What is left of many integers is the number that is nearest to the first of them in the
order.** -/
theorem pickOf_integers {pick : Binary64 → Binary64 → Binary64} {down : Bool}
    (picks : Picks pick down) (first : Int64) (rest : List Int64) :
    ∃ m ∈ first :: rest, (∀ i ∈ first :: rest, signed down m.toInt ≤ signed down i.toInt) ∧
      ∃ x : Finite, x.Nearest m.toInt ∧
        (pickOf pick ((first :: rest).map .integer)).convert .integer = ofRat x.value := by
  choose image made closest using Binary64.exists_nearest_ofInt
  obtain ⟨m, member, least⟩ := exists_first down first rest
  obtain ⟨y, listed, left, below⟩ := picks.foldl (image first) (rest.map image)
  have picked : pickOf pick ((first :: rest).map integer) = .number (.finite y) := by
    rw [pickOf, filterMap_asNumber_integers, funext made, ← left, List.map_map]
    rfl
  refine ⟨m, member, least, image m, closest m, ?_⟩
  -- Other integers may have become the same number, so only the values agree.
  have same : y.value = (image m).value := by
    rw [← List.map_cons, List.mem_map] at listed
    obtain ⟨i, among, rfl⟩ := listed
    have after := (closest m).mono_signed (closest i) (least i among)
    have before := below (image m) (List.map_cons ▸ List.mem_map_of_mem member)
    exact signed_inj.mp (le_antisymm before after)
  rw [picked, convert_finite, same]

/-- The cell that an integer becomes on its way through numbers. -/
structure Rounded (i : Int64) (c : Cell) : Prop where
  /-- It holds the number that is nearest to the integer. -/
  nearest : ∃ x : Finite, x.Nearest i.toInt ∧ c = ofRat x.value
  /-- It is the integer exactly if 53 bits of the integer count at most. -/
  exact_iff : c = .integer i ↔ Short i.toInt
  /-- It is empty exactly if the integer is one of the last ones of 64 bits. -/
  empty_iff : c = .empty ↔ 2 ^ 63 - 512 ≤ i.toInt

/-- No integer of 64 bits is rounded to one below them, and only the last ones to one beyond. -/
theorem ofRat_eq_empty_of_nearest {x : Finite} {i : Int64} (closest : x.Nearest i.toInt) :
    ofRat x.value = .empty ↔ 2 ^ 63 - 512 ≤ i.toInt := by
  obtain ⟨j, held⟩ := closest.exists_int
  have low : -2 ^ 63 ≤ j := by
    have least : (Finite.limit true).value ≤ i.toInt := by
      rw [Finite.value_limit, signed, if_pos rfl]
      exact_mod_cast i.minValue_le_toInt
    have kept := closest.le_value least
    rw [Finite.value_limit, held, signed, if_pos rfl] at kept
    exact_mod_cast kept
  have high : 2 ^ 63 ≤ j ↔ 2 ^ 63 - 512 ≤ i.toInt := by
    have limit := closest.limit_le_iff
    rw [held] at limit
    rw [← Int.cast_le (R := ℚ), ← Int.cast_le (R := ℚ)]
    norm_num at limit ⊢
    exact limit
  rw [held, ofRat_intCast_eq_empty_iff, ← high]
  exact or_iff_right (not_lt.mpr low)

theorem rounded_of_nearest {x : Finite} {i : Int64} (closest : x.Nearest i.toInt) :
    Rounded i (ofRat x.value) where
  nearest := ⟨x, closest, rfl⟩
  exact_iff := by
    have small : i.toInt.natAbs < twoPow 972 :=
      (Binary64.natAbs_int64_le i).trans_lt (twoPow_lt (by decide))
    rw [ofRat_eq_integer_iff, closest.value_eq_iff small]
  empty_iff := ofRat_eq_empty_of_nearest closest

end Cell

namespace Aggregate

open Cell

/-- **The least and the greatest of integers are exact as far as numbers are**: the cell holds the
number that is nearest to the least (greatest) integer. -/
theorem reduce_integers (first : Int64) (rest : List Int64) (objectCount : Nat) :
    (∃ m ∈ first :: rest, (∀ i ∈ first :: rest, m ≤ i) ∧
      Rounded m ((Aggregate.min.reduce ((first :: rest).map .integer) objectCount).convert
        .integer)) ∧
    ∃ m ∈ first :: rest, (∀ i ∈ first :: rest, i ≤ m) ∧
      Rounded m ((Aggregate.max.reduce ((first :: rest).map .integer) objectCount).convert
        .integer) := by
  constructor
  · obtain ⟨m, member, least, x, closest, made⟩ :=
      pickOf_integers Binary64.picks_least first rest
    refine ⟨m, member, fun i listed => ?_, ?_⟩
    · exact Int64.le_iff_toInt_le.mpr (Int.cast_le.mp (least i listed))
    · rw [reduce, made]
      exact rounded_of_nearest closest
  · obtain ⟨m, member, greatest, x, closest, made⟩ :=
      pickOf_integers Binary64.picks_greatest first rest
    refine ⟨m, member, fun i listed => ?_, ?_⟩
    · exact Int64.le_iff_toInt_le.mpr (Int.cast_le.mp (neg_le_neg_iff.mp (greatest i listed)))
    · rw [reduce, made]
      exact rounded_of_nearest closest

/-- Of the only integer 54 bits count, and the least one is the integer before it. -/
theorem reduce_integers_inexact :
    (Aggregate.min.reduce ([9007199254740993].map .integer) 1).convert .integer =
      .integer 9007199254740992 := by
  decide +kernel

end Aggregate

end PhaseTable
