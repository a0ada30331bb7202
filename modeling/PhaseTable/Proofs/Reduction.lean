/-
# PhaseTable.Proofs.Reduction -- what many values become

Values that are all empty become an empty cell, unless they are counted (`reduce_of_empty`).  The
text of a reduced cell is tidy unless it is the first of the values, which stays as it is
(`tidy_reduce_iff`).

The objects of a phase all have its number.  First, least and greatest of equal numbers is the
number, and they make one text, so the reduced cell is converted like the number itself; only the
text is converted differently to a truth value (`convert_reduce_int32`).
-/
import PhaseTable.Proofs.Cell
import PhaseTable.Proofs.Text.Distinct
import PhaseTable.Reduction

namespace PhaseTable

set_option autoImplicit false

open Text

namespace Binary64

theorem lt_self (x : Binary64) : lt x x = false := by
  cases x with
  | nan => rfl
  | infinite negative => cases negative <;> rfl
  | finite x => exact decide_eq_false (Int.lt_irrefl _)

theorem least_self (x : Binary64) : least x x = x := by
  rw [least, lt_self]
  split <;> rfl

theorem greatest_self (x : Binary64) : greatest x x = x := by
  rw [greatest, lt_self]
  split <;> rfl

end Binary64

namespace Cell

variable {values : List Cell}

theorem firstOf_mem_or_empty (values : List Cell) :
    firstOf values ∈ values ∨ firstOf values = .empty := by
  rw [firstOf]
  cases found : values.find? hasValue with
  | none => exact .inr rfl
  | some c => exact .inl (List.mem_of_find?_eq_some found)

theorem tidy_firstOf {values : List Cell} (tidy : ∀ c ∈ values, c.Tidy) :
    (firstOf values).Tidy := by
  rcases firstOf_mem_or_empty values with member | vacant
  · exact tidy _ member
  · rw [vacant]
    trivial

/-! ## Values that are all empty -/

theorem firstOf_of_empty (vacant : ∀ c ∈ values, c = .empty) : firstOf values = .empty :=
  (firstOf_mem_or_empty values).elim (vacant _) id

theorem distinctOf_of_empty (vacant : ∀ c ∈ values, c = .empty) :
    distinctOf values = .empty := by
  have texts : (values.map display).filter (fun s => !Text.blank s) = [] := by
    rw [List.filter_eq_nil_iff]
    intro s listed
    obtain ⟨c, member, rfl⟩ := List.mem_map.mp listed
    rw [vacant c member]
    decide
  rw [distinctOf, distinctTexts, texts]
  decide

theorem pickOf_of_empty (pick : Binary64 → Binary64 → Binary64)
    (vacant : ∀ c ∈ values, c = .empty) : pickOf pick values = .empty := by
  have numbers : values.filterMap asNumber = [] := by
    rw [List.filterMap_eq_nil_iff]
    intro c member
    rw [vacant c member]
    rfl
  rw [pickOf, numbers]

/-! ## Equal values -/

theorem firstOf_replicate {c : Cell} (valued : c.hasValue = true) (more : Nat) :
    firstOf (List.replicate (more + 1) c) = c := by
  rw [firstOf, List.replicate_succ, List.find?_cons_of_pos valued, Option.getD_some]

theorem distinctOf_replicate {c : Cell} (solid : Text.blank c.display = false) (more : Nat) :
    distinctOf (List.replicate (more + 1) c) = text c.display := by
  have kept : (List.replicate (more + 1) c.display).filter (fun s => !Text.blank s) =
      List.replicate (more + 1) c.display :=
    List.filter_replicate_of_pos (by rw [solid]; rfl)
  rw [distinctOf, distinctTexts, List.map_replicate, kept, distinctBy_replicate]
  rfl

theorem pickOf_replicate {pick : Binary64 → Binary64 → Binary64} {c : Cell} {x : Binary64}
    (numeric : c.asNumber = some x) (itself : pick x x = x) (more : Nat) :
    pickOf pick (List.replicate (more + 1) c) = .number x := by
  -- The number that is picked is the accumulator of the fold at every step.
  have fold : ∀ more, (List.replicate more x).foldl pick x = x := by
    intro more
    induction more with
    | zero => rfl
    | succ more ih => rw [List.replicate_succ, List.foldl_cons, itself, ih]
  rw [pickOf, List.filterMap_replicate_of_some numeric]
  exact congrArg Cell.number (fold more)

end Cell

namespace Aggregate

open Cell

variable {a : Aggregate}

/-- Nothing can be made of empty values. -/
theorem reduce_of_empty (plain : a ≠ .count) {values : List Cell}
    (vacant : ∀ c ∈ values, c = .empty) (objectCount : Nat) :
    a.reduce values objectCount = .empty := by
  cases a with
  | first => exact firstOf_of_empty vacant
  | distinct => exact distinctOf_of_empty vacant
  | count => exact absurd rfl plain
  | min => exact pickOf_of_empty _ vacant
  | max => exact pickOf_of_empty _ vacant

/-- **Only the first value can be an untidy text.** -/
theorem tidy_reduce_iff {values : List Cell} {objectCount : Nat} :
    (a.reduce values objectCount).Tidy ↔ (a = .first → (firstOf values).Tidy) := by
  have picked : ∀ pick, (pickOf pick values).Tidy := by
    intro pick
    rw [pickOf]
    split <;> trivial
  cases a with
  | first => exact ⟨fun tidy _ => tidy, fun tidy => tidy rfl⟩
  | distinct =>
      rw [reduce, distinctOf]
      exact iff_of_true (tidy_text _) nofun
  | count => exact iff_of_true trivial nofun
  | min =>
      rw [reduce]
      exact iff_of_true (picked _) nofun
  | max =>
      rw [reduce]
      exact iff_of_true (picked _) nofun

/-- **An integer that several objects have is converted like the integer**, except that a text of
different values is empty as a truth value unless it is 0 or 1. -/
theorem convert_reduce_int32 (plain : a ≠ .count) (n : Int32) (more objectCount : Nat)
    (t : ValueType) :
    (a.reduce (List.replicate (more + 1) (.ofInt32 n)) objectCount).convert t =
      if a = .distinct ∧ t = .boolean ∧ n ≠ 0 ∧ n ≠ 1 then .empty
      else (Cell.ofInt32 n).convert t := by
  have numeric := asNumber_ofInt32 n
  have display := display_ofInt32 n
  have solid : Text.blank (ofInt32 n).display = false :=
    display ▸ (trimmed_intText n.toInt).not_blank
  cases a with
  | first =>
      rw [reduce, firstOf_replicate rfl]
      rfl
  | distinct =>
      rw [reduce, distinctOf_replicate solid, display, text_intText, convert_text_int32]
      simp only [true_and]
  | count => exact absurd rfl plain
  | min =>
      rw [reduce, pickOf_replicate numeric (Binary64.least_self _), convert_number_int32]
      rfl
  | max =>
      rw [reduce, pickOf_replicate numeric (Binary64.greatest_self _), convert_number_int32]
      rfl

end Aggregate

end PhaseTable
