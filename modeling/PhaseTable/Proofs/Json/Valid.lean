/-
# PhaseTable.Proofs.Json.Valid -- values that JSON has

Not every term of `Json` is a JSON value: the keys of an object ascend, an integer has at most 64
bits, and a number that is infinite or not a number cannot be written.  `Json.Valid` says so of a
value and all of its parts.  What is written as the entries of a record is such a value if the keys
ascend and each entry is one (`Json.valid_ofMembers`).
-/
import PhaseTable.Proofs.Json.Ordered
import PhaseTable.Proofs.Json.Record

namespace PhaseTable

set_option autoImplicit false

/-- An integer of 64 bits, with a sign or without, or a finite number. -/
def JsonNumber.Valid : JsonNumber → Prop
  | .int i => -(twoPow 63 : Int) ≤ i ∧ i < twoPow 64
  | .float x => x.isFinite = true

namespace JsonNumber

theorem valid_int {i : Int} (least : -9223372036854775808 ≤ i)
    (greatest : i < 18446744073709551616) : (JsonNumber.int i).Valid := by
  have power : twoPow 63 = 9223372036854775808 ∧ twoPow 64 = 18446744073709551616 := by decide
  exact ⟨by omega, by omega⟩

theorem valid_int32 (i : Int32) : (JsonNumber.int i.toInt).Valid := by
  have least := i.le_toInt
  have greatest := i.toInt_lt
  exact valid_int (by omega) (by omega)

theorem valid_int64 (i : Int64) : (JsonNumber.int i.toInt).Valid := by
  have least := i.le_toInt
  have greatest := i.toInt_lt
  exact valid_int (by omega) (by omega)

theorem valid_uint64 (n : UInt64) : (JsonNumber.int n.toNat).Valid := by
  have greatest := n.toNat_lt
  exact valid_int (by omega) (by omega)

end JsonNumber

namespace Json

/-- Every object lists its members with strictly ascending keys, and every number is one that JSON
has. -/
inductive Valid : Json → Prop
  | null : Valid .null
  | bool (b : Bool) : Valid (.bool b)
  | number {n : JsonNumber} (valid : n.Valid) : Valid (.number n)
  | str (s : String) : Valid (.str s)
  | arr {items : List Json} (each : ∀ v ∈ items, v.Valid) : Valid (.arr items)
  | obj {members : List (String × Json)} (ascending : members.Pairwise fun x y => x.1 < y.1)
      (each : ∀ m ∈ members, m.2.Valid) : Valid (.obj members)

theorem Valid.ordered {v : Json} (valid : v.Valid) : v.Ordered := by
  induction valid with
  | null => exact .null
  | bool b => exact .bool b
  | number _ => exact .number _
  | str s => exact .str s
  | arr _ ih => exact .arr ih
  | obj ascending _ ih => exact .obj ascending ih

theorem valid_list {α : Type} {encode : α → Json} {xs : List α}
    (each : ∀ x ∈ xs, (encode x).Valid) : (Json.arr (xs.map encode)).Valid :=
  .arr (List.forall_mem_map.mpr each)

@[simp] theorem valid_str (s : String) : (Json.str s).Valid :=
  .str s

@[simp] theorem valid_int32 (i : Int32) : (Json.int i.toInt).Valid :=
  .number (JsonNumber.valid_int32 i)

end Json

/-- What the entry holds, if it is not left out, is a value that JSON has. -/
def Entry.Valid (e : Entry) : Prop :=
  ∀ v, e.2 = some v → v.Valid

@[simp] theorem Entry.valid_some {key : String} {v : Json} :
    Entry.Valid (key, some v) ↔ v.Valid := by
  simp [Entry.Valid]

theorem Entry.valid_map {α : Type} {key : String} {encode : α → Json} {a? : Option α}
    (each : ∀ a, a? = some a → (encode a).Valid) : Entry.Valid (key, a?.map encode) := by
  intro v written
  obtain ⟨a, found, rfl⟩ := Option.map_eq_some_iff.mp written
  exact each a found

/-- The entries of a record make a value if their keys ascend. -/
theorem Json.valid_ofMembers {entries : List Entry}
    (ascending : (entries.map (·.1)).Pairwise (· < ·))
    (each : ∀ e ∈ entries, e.Valid) :
    (ofMembers (entries.map Entry.member)).Valid := by
  have key_of_member {e : Entry} {m : String × Json} (made : e.member = some m) : m.1 = e.1 := by
    obtain ⟨v, -, rfl⟩ := Option.map_eq_some_iff.mp made
    rfl
  have filtered : (entries.map Entry.member).filterMap id = entries.filterMap Entry.member := by
    rw [List.filterMap_map]
    rfl
  rw [ofMembers, filtered]
  refine .obj ?_ fun m listed => ?_
  · rw [List.pairwise_filterMap]
    refine (List.pairwise_map.mp ascending).imp fun less m made n madeOther => ?_
    rwa [key_of_member made, key_of_member madeOther]
  · obtain ⟨e, member, made⟩ := List.mem_filterMap.mp listed
    obtain ⟨v, found, rfl⟩ := Option.map_eq_some_iff.mp made
    exact each e member v found

end PhaseTable
