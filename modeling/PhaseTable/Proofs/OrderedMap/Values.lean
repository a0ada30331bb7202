/-
# PhaseTable.Proofs.OrderedMap.Values -- the values of ordered maps

Setting a key sets its value and no other (`get?_insert`), so after a list of settings a key
has the last value that the list gives it (`get?_foldl_insert`).  A map holds no more than its
values: two maps with the same value for each key are one map (`ext_get?`).  A setting that a
later one of the same key hides may therefore be any other (`foldl_insert_congr`).  Entries with
different keys are all kept, so a map is that of its entries in any order (`ofList_of_perm`).  A
look-up up to case finds a value of the map too (`mem_of_lookup`).

Members of a list that are gathered under their keys stay in their order (`entries_gather`).
-/
import Mathlib.Data.List.Induction
import PhaseTable.Proofs.OrderedMap

namespace PhaseTable.OrderedMap

set_option autoImplicit false

variable {κ α : Type} [LT κ] [DecidableEq κ]

/-! ## Values and entries -/

@[simp] theorem get?_empty (k : κ) : (∅ : OrderedMap κ α).get? k = none :=
  rfl

section Entries

variable [Std.Irrefl (fun a b : κ => a < b)]

theorem find?_of_mem {k : κ} {value : α} :
    ∀ {entries : List (κ × α)}, entries.Pairwise (fun x y => x.1 < y.1) →
      (k, value) ∈ entries → entries.find? (·.1 = k) = some (k, value)
  | first :: rest, ascending, member => by
      obtain ⟨before, ascending⟩ := List.pairwise_cons.mp ascending
      rcases List.mem_cons.mp member with rfl | member
      · simp
      · have less : first.1 < k := before _ member
        have other : first.1 ≠ k := fun same => Std.Irrefl.irrefl k (same ▸ less)
        rw [List.find?_cons_of_neg (by simpa using other)]
        exact find?_of_mem ascending member

theorem get?_eq_some_iff (m : OrderedMap κ α) {k : κ} {value : α} :
    m.get? k = some value ↔ (k, value) ∈ m.entries := by
  constructor
  · intro found
    obtain ⟨entry, first, rfl⟩ := Option.map_eq_some_iff.mp found
    have same : entry.1 = k := by simpa using List.find?_some first
    exact same ▸ List.mem_of_find?_eq_some first
  · intro member
    rw [get?, find?_of_mem m.ascending member, Option.map_some]

/-- The entries of a map, from its keys and what each of them stands for. -/
theorem entries_eq_map (m : OrderedMap κ α) {value : κ → α}
    (values : ∀ k ∈ m.keys, m.get? k = some (value k)) :
    m.entries = m.keys.map fun k => (k, value k) := by
  have each : ∀ entry ∈ m.entries, entry = (entry.1, value entry.1) := by
    intro entry member
    have found : m.get? entry.1 = some entry.2 := (get?_eq_some_iff m).mpr member
    have named : m.get? entry.1 = some (value entry.1) :=
      values _ (List.mem_map_of_mem member)
    rw [← Option.some.inj (found.symm.trans named)]
  rw [keys, List.map_map]
  calc m.entries = m.entries.map id := (List.map_id _).symm
    _ = _ := List.map_congr_left each

end Entries

/-! ## Values that are set -/

variable [DecidableLT κ]

theorem find?_put (key k : κ) (value : α) :
    ∀ entries : List (κ × α),
      ((put key value entries).find? (·.1 = k)).map (·.2) =
        if k = key then some value else (entries.find? (·.1 = k)).map (·.2)
  | [] => by
      by_cases same : k = key
      · simp [put, same]
      · simp [put, same, Ne.symm same]
  | entry :: rest => by
      have ih := find?_put key k value rest
      rw [put]
      by_cases same : k = key
      · subst same
        split
        · simp
        · split
          · simp
          · next other => simpa [List.find?_cons, Ne.symm other] using ih
      · rw [if_neg same] at ih ⊢
        split
        · simp [Ne.symm same]
        · split
          · next replaced => simp [← replaced, Ne.symm same]
          · simp only [List.find?_cons]
            split
            · rfl
            · exact ih

variable [KeyOrder κ]

theorem get?_insert (m : OrderedMap κ α) (key k : κ) (value : α) :
    (m.insert key value).get? k = if k = key then some value else m.get? k :=
  find?_put key k value m.entries

/-- A key has the last value that it is given. -/
theorem get?_foldl_insert (entries : List (κ × α)) (m : OrderedMap κ α) (k : κ) :
    (entries.foldl (fun m entry => m.insert entry.1 entry.2) m).get? k =
      ((entries.reverse.find? (·.1 = k)).map (·.2)).or (m.get? k) := by
  induction entries generalizing m with
  | nil => rfl
  | cons entry rest ih =>
      rw [List.foldl_cons, ih, get?_insert, List.reverse_cons, List.find?_append]
      cases rest.reverse.find? (·.1 = k) with
      | some found => rfl
      | none =>
          by_cases same : k = entry.1
          · simp [same]
          · simp [same, Ne.symm same]

theorem ofList_append (xs ys : List (κ × α)) :
    ofList (xs ++ ys) = ys.foldl (fun m entry => m.insert entry.1 entry.2) (ofList xs) :=
  List.foldl_append

/-- A key has the last value that the list gives it. -/
theorem get?_ofList (entries : List (κ × α)) (k : κ) :
    (ofList entries).get? k = (entries.filter (·.1 = k)).getLast?.map (·.2) := by
  rw [ofList, get?_foldl_insert, get?_empty, Option.or_none, ← List.head?_filter,
    List.filter_reverse, List.head?_reverse]

theorem get?_ofList_map {β : Type} (entry : β → κ × α) (xs : List β) (k : κ) :
    (ofList (xs.map entry)).get? k =
      (xs.reverse.find? fun x => (entry x).1 = k).map fun x => (entry x).2 := by
  rw [ofList, get?_foldl_insert, get?_empty, Option.or_none, ← List.map_reverse, List.find?_map,
    Option.map_map]
  rfl

variable [Std.Irrefl (fun a b : κ => a < b)]

omit [DecidableEq κ] [DecidableLT κ] in
/-- There is one way only to put some entries in order. -/
theorem eq_of_perm {m m' : OrderedMap κ α} (perm : m.entries.Perm m'.entries) : m = m' := by
  have entries : m.entries = m'.entries := by
    refine perm.eq_of_pairwise (fun x y _ _ less more => ?_) m.ascending m'.ascending
    exact absurd (KeyOrder.trans less more) (Std.Irrefl.irrefl x.1)
  cases m
  cases m'
  cases entries
  rfl

omit [DecidableLT κ] in
theorem ext_get? {m m' : OrderedMap κ α} (same : ∀ k, m.get? k = m'.get? k) : m = m' := by
  have irrefl : ∀ x y : κ × α, x.1 < y.1 → x ≠ y :=
    fun x y less equal => Std.Irrefl.irrefl y.1 (equal ▸ less)
  refine eq_of_perm ?_
  rw [List.perm_ext_iff_of_nodup (m.ascending.imp (irrefl _ _)) (m'.ascending.imp (irrefl _ _))]
  rintro ⟨k, value⟩
  rw [← get?_eq_some_iff, same, get?_eq_some_iff]

/-- What is set anew may have been anything before. -/
theorem foldl_insert_congr {entries : List (κ × α)} {m m' : OrderedMap κ α}
    (same : ∀ k ∉ entries.map (·.1), m.get? k = m'.get? k) :
    entries.foldl (fun m entry => m.insert entry.1 entry.2) m =
      entries.foldl (fun m entry => m.insert entry.1 entry.2) m' := by
  refine ext_get? fun k => ?_
  rw [get?_foldl_insert, get?_foldl_insert]
  cases last : entries.reverse.find? (·.1 = k) with
  | some entry => rfl
  | none =>
      refine same k fun listed => ?_
      obtain ⟨entry, member, named⟩ := List.mem_map.mp listed
      exact List.find?_eq_none.mp last entry (List.mem_reverse.mpr member) (by simpa using named)

/-! ## Lists of entries -/

omit [KeyOrder κ] [Std.Irrefl (fun a b : κ => a < b)] in
/-- A new entry stands somewhere among the others. -/
theorem put_perm {key : κ} (value : α) :
    ∀ {entries : List (κ × α)}, key ∉ entries.map (·.1) →
      (put key value entries).Perm ((key, value) :: entries)
  | [], _ => .refl _
  | entry :: rest, absent => by
      rw [List.map_cons, List.mem_cons, not_or] at absent
      rw [put]
      split
      · exact .refl _
      · rw [if_neg absent.1]
        exact ((put_perm value absent.2).cons entry).trans (.swap _ _ _)

omit [Std.Irrefl (fun a b : κ => a < b)] in
theorem foldl_insert_perm {entries : List (κ × α)} (nodup : (entries.map (·.1)).Nodup)
    {m : OrderedMap κ α} (absent : ∀ k ∈ entries.map (·.1), k ∉ m.keys) :
    (entries.foldl (fun m entry => m.insert entry.1 entry.2) m).entries.Perm
      (m.entries ++ entries) := by
  induction entries generalizing m with
  | nil => rw [List.foldl_nil, List.append_nil]
  | cons entry rest ih =>
      obtain ⟨once, nodup⟩ := List.nodup_cons.mp nodup
      obtain ⟨first, others⟩ := List.forall_mem_cons.mp absent
      have later : ∀ k ∈ rest.map (·.1), k ∉ (m.insert entry.1 entry.2).keys := by
        intro k listed known
        rcases mem_keys_insert.mp known with rfl | known
        · exact once listed
        · exact others k listed known
      have inserted : (m.insert entry.1 entry.2).entries.Perm (entry :: m.entries) :=
        put_perm entry.2 first
      exact (ih nodup later).trans ((inserted.append_right rest).trans List.perm_middle.symm)

omit [Std.Irrefl (fun a b : κ => a < b)] in
/-- Entries with different keys are all kept. -/
theorem ofList_perm {entries : List (κ × α)} (nodup : (entries.map (·.1)).Nodup) :
    (ofList entries).entries.Perm entries :=
  foldl_insert_perm nodup fun _ _ => List.not_mem_nil

omit [DecidableEq κ] [DecidableLT κ] [KeyOrder κ] in
theorem nodup_keys (m : OrderedMap κ α) : m.keys.Nodup := by
  have differ : ∀ a b : κ, a < b → a ≠ b :=
    fun a b less same => Std.Irrefl.irrefl b (same ▸ less)
  exact m.ascending_keys.imp (differ _ _)

/-- A map is that of its entries, in whatever order they come. -/
theorem ofList_of_perm {m : OrderedMap κ α} {entries : List (κ × α)}
    (perm : entries.Perm m.entries) : ofList entries = m :=
  have nodup : (entries.map (·.1)).Nodup := (perm.map _).nodup_iff.mpr m.nodup_keys
  eq_of_perm ((ofList_perm nodup).trans perm)

/-! ## Groups -/

section Gather

variable {β : Type} (key : β → Int32) (values : β → List α)

theorem gather_concat (xs : List β) (x : β) :
    gather key values (xs ++ [x]) = (gather key values xs).insert (key x)
      (((gather key values xs).get? (key x)).getD [] ++ values x) := by
  simp only [gather, List.foldl_append, List.foldl_cons, List.foldl_nil]

theorem keys_gather (xs : List β) : (gather key values xs).keys = keysOf (xs.map key) := by
  refine eq_of_ascending (ascending_keys _) (ascending_keysOf _) fun k => ?_
  rw [mem_keysOf]
  induction xs using List.reverseRecOn with
  | nil => exact Iff.rfl
  | append_singleton xs x ih =>
      rw [gather_concat, mem_keys_insert, ih]
      simp [or_comm]

theorem getD_get?_gather (xs : List β) (k : Int32) :
    ((gather key values xs).get? k).getD [] = (xs.filter (key · = k)).flatMap values := by
  induction xs using List.reverseRecOn with
  | nil => rfl
  | append_singleton xs x ih =>
      rw [gather_concat, get?_insert, List.filter_append, List.flatMap_append, ← ih]
      by_cases own : k = key x
      · simp [own]
      · simp [own, Ne.symm own]

/-- There is a group for each key, and it has what the members with the key have, in their order. -/
theorem entries_gather (xs : List β) :
    (gather key values xs).entries =
      (keysOf (xs.map key)).map fun k => (k, (xs.filter (key · = k)).flatMap values) := by
  rw [← keys_gather key values]
  refine entries_eq_map _ fun k listed => ?_
  obtain ⟨entry, member, rfl⟩ := List.mem_map.mp listed
  have found : (gather key values xs).get? entry.1 = some entry.2 :=
    (get?_eq_some_iff _).mpr member
  rw [← getD_get?_gather, found, Option.getD_some]

end Gather

/-! ## Look-up up to case -/

theorem mem_of_lookup {α : Type} {m : OrderedMap String α} {key : String} {value : α}
    (found : m.lookup key = some value) : ∃ entry ∈ m.entries, entry.2 = value := by
  have named : ∀ {p : String × α → Bool}, (m.entries.find? p).map (·.2) = some value →
      ∃ entry ∈ m.entries, entry.2 = value := by
    intro p first
    obtain ⟨entry, member, rfl⟩ := Option.map_eq_some_iff.mp first
    exact ⟨entry, List.mem_of_find?_eq_some member, rfl⟩
  rcases Option.or_eq_some_iff.mp found with exactly | ⟨-, similar⟩
  · exact named exactly
  · exact named similar

/-- Where only one key equals another up to case, its value is found. -/
theorem lookup_of_only {α : Type} {m : OrderedMap String α} {key k : String} {value : α}
    (member : (k, value) ∈ m.entries) (similar : Text.sameIgnoringAsciiCase k key = true)
    (only : ∀ entry ∈ m.entries, Text.sameIgnoringAsciiCase entry.1 key = true →
      entry = (k, value)) : m.lookup key = some value := by
  have first : (m.entries.find? fun entry => Text.sameIgnoringAsciiCase entry.1 key) =
      some (k, value) := by
    cases found : m.entries.find? fun entry => Text.sameIgnoringAsciiCase entry.1 key with
    | none => exact absurd similar (List.find?_eq_none.mp found _ member)
    | some entry =>
        have like : Text.sameIgnoringAsciiCase entry.1 key = true := by
          simpa using List.find?_some found
        rw [only entry (List.mem_of_find?_eq_some found) like]
  rw [lookup, first, Option.map_some]
  cases own : m.get? key with
  | none => rfl
  | some other =>
      cases only (key, other) ((get?_eq_some_iff m).mp own) (beq_self_eq_true _)
      rfl

theorem lookup_eq_none {α : Type} {m : OrderedMap String α} {key : String}
    (none_ : ∀ entry ∈ m.entries, Text.sameIgnoringAsciiCase entry.1 key = false) :
    m.lookup key = none := by
  have first : (m.entries.find? fun entry => Text.sameIgnoringAsciiCase entry.1 key) = none :=
    List.find?_eq_none.mpr fun entry member => by simp [none_ entry member]
  rw [lookup, first, Option.map_none, Option.or_none, Option.eq_none_iff_forall_ne_some]
  intro value own
  have other := none_ (key, value) ((get?_eq_some_iff m).mp own)
  rw [Text.sameIgnoringAsciiCase, beq_self_eq_true] at other
  cases other

end PhaseTable.OrderedMap
