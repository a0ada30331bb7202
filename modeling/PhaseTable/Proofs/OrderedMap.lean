/-
# PhaseTable.Proofs.OrderedMap -- the keys of ordered maps

The keys of a map ascend, and setting a key adds it to them and takes none away
(`mem_keys_insert`).  So `OrderedMap.keysOf` lists the members of a list, each once and
ascending (`mem_keysOf`, `ascending_keysOf`).  There is only one such list
(`eq_of_ascending`): two lists with the same members have the same keys.  What is joined along
such a list may be joined along any part of it that leaves out nothing (`flatMap_filter`).
-/
import Mathlib.Data.List.Perm.Basic
import PhaseTable.OrderedMap

namespace PhaseTable

set_option autoImplicit false

namespace OrderedMap

section Keys

variable {κ α : Type} [LT κ]

theorem ascending_keys (m : OrderedMap κ α) : m.keys.Pairwise (· < ·) :=
  List.pairwise_map.mpr m.ascending

variable [DecidableLT κ] [DecidableEq κ]

theorem mem_keys_put {key k : κ} {value : α} :
    ∀ {entries : List (κ × α)},
      k ∈ (put key value entries).map (·.1) ↔ k = key ∨ k ∈ entries.map (·.1)
  | [] => by simp [put]
  | entry :: rest => by
      rw [put]
      split
      · simp
      · split
        · next same => simp [same]
        · simp only [List.map_cons, List.mem_cons, mem_keys_put, or_left_comm]

variable [KeyOrder κ]

theorem mem_keys_insert {m : OrderedMap κ α} {key k : κ} {value : α} :
    k ∈ (m.insert key value).keys ↔ k = key ∨ k ∈ m.keys :=
  mem_keys_put

theorem mem_keys_foldl {entries : List (κ × α)} {k : κ} (m : OrderedMap κ α) :
    k ∈ (entries.foldl (fun m entry => m.insert entry.1 entry.2) m).keys ↔
      k ∈ m.keys ∨ k ∈ entries.map (·.1) := by
  induction entries generalizing m with
  | nil => simp
  | cons entry rest ih =>
      rw [List.foldl_cons, ih, mem_keys_insert, List.map_cons, List.mem_cons, or_assoc,
        or_left_comm]

theorem mem_keysOf {keys : List κ} {k : κ} : k ∈ keysOf keys ↔ k ∈ keys := by
  rw [keysOf, ofList, mem_keys_foldl]
  have empty : k ∉ (∅ : OrderedMap κ Unit).keys := List.not_mem_nil
  simp [empty]

theorem ascending_keysOf (keys : List κ) : (keysOf keys).Pairwise (· < ·) :=
  ascending_keys _

end Keys

/-- Two ascending lists with the same members are one list. -/
theorem eq_of_ascending {xs ys : List Int32} (first : xs.Pairwise (· < ·))
    (second : ys.Pairwise (· < ·)) (same : ∀ n, n ∈ xs ↔ n ∈ ys) : xs = ys := by
  have perm : xs.Perm ys := by
    rw [List.perm_ext_iff_of_nodup (first.imp Int32.ne_of_lt) (second.imp Int32.ne_of_lt)]
    exact same
  exact perm.eq_of_pairwise (fun a b _ _ less more => absurd more (Int32.lt_asymm less))
    first second

/-- An ascending list has each of its members once. -/
theorem filter_of_ascending {xs : List Int32} (ascending : xs.Pairwise (· < ·)) (n : Int32) :
    xs.filter (· = n) = if n ∈ xs then [n] else [] := by
  refine eq_of_ascending (ascending.filter _) ?_ fun m => ?_
  · split <;> simp
  · split
    · next listed => simpa using fun same : m = n => same ▸ listed
    · next absent => simpa using fun listed (same : m = n) => absent (same ▸ listed)

end OrderedMap

/-- Members that contribute nothing can be left out of a joined list. -/
theorem flatMap_filter {α β : Type} (p : α → Prop) [DecidablePred p] (f : α → List β)
    (xs : List α) : (xs.filter p).flatMap f = xs.flatMap fun x => if p x then f x else [] := by
  induction xs with
  | nil => rfl
  | cons x xs ih =>
      by_cases holds : p x
      · simp only [List.filter_cons, holds, decide_true, if_true, List.flatMap_cons, ih]
      · simp only [List.filter_cons, holds, decide_false, Bool.false_eq_true, if_false,
          List.flatMap_cons, ih, List.nil_append]

end PhaseTable
