/-
# PhaseTable.Proofs.Json.Record -- records are read entry by entry

A record is written as an object of its entries, some of which may be left out.  Reading it sets
the entries that are there one after the other, beginning with the record that has none
(`Shape.decode_entries`).  So a record is read as it was written if each entry is, and if what is
left out is what a record without it has (`Shape.setEntry_option`).
-/
import Mathlib.Data.List.Forall2
import Mathlib.Data.List.Perm.Basic
import PhaseTable.Json.Decoding
import PhaseTable.Proofs.OrderedMap.Values

namespace PhaseTable

set_option autoImplicit false

/-- An entry of a record: a key, and the value if it is not left out. -/
abbrev Entry := String × Option Json

def Entry.member (e : Entry) : Option (String × Json) :=
  e.2.map (e.1, ·)

/-! ## Integers -/

theorem int32?_toInt (i : Int32) : int32? i.toInt = some i := by
  have least := i.le_toInt
  have greatest := i.toInt_lt
  rw [int32?, if_pos (by omega), Int32.ofInt_toInt]

theorem int64?_toInt (i : Int64) : int64? i.toInt = some i := by
  have least := i.le_toInt
  have greatest := i.toInt_lt
  rw [int64?, if_pos (by omega), Int64.ofInt_toInt]

theorem uint64?_toNat (n : UInt64) : uint64? n.toNat = some n := by
  have greatest := n.toNat_lt
  rw [uint64?, if_pos (by omega), Int.toNat_natCast, UInt64.ofNat_toNat]

/-! ## Values -/

namespace Decode

/-- What is not null is read as a value. -/
theorem optional_of_ne {α : Type} {decode : Document → Decoded α} {d : Document}
    (present : d ≠ .null) : optional decode d = some <$> decode d := by
  cases d with
  | null => exact absurd rfl present
  | _ => rfl

theorem orNull_of_ne {α : Type} {default : α} {decode : Document → Decoded α} {d : Document}
    (present : d ≠ .null) : orNull default decode d = decode d := by
  rw [orNull, optional_of_ne present]
  cases decode d <;> rfl

theorem ofJson_ne_null {value : Json} (present : value ≠ .null) :
    Document.ofJson value ≠ .null := by
  cases value with
  | null => exact absurd rfl present
  | _ => exact Document.noConfusion

/-- What is not null is read as the value that it is. -/
theorem optional_ofJson {α : Type} {decode : Document → Decoded α} {value : Json} {a : α}
    (present : value ≠ .null) (read : decode (.ofJson value) = .ok a) :
    optional decode (.ofJson value) = .ok (some a) := by
  rw [optional_of_ne (ofJson_ne_null present), read]
  rfl

theorem orNull_ofJson {α : Type} {default : α} {decode : Document → Decoded α} {value : Json}
    {a : α} (present : value ≠ .null) (read : decode (.ofJson value) = .ok a) :
    orNull default decode (.ofJson value) = .ok a :=
  (orNull_of_ne (ofJson_ne_null present)).trans read

/-- Values of one type are read as they were written. -/
theorem list_ofJson {α : Type} {encode : α → Json} {decode : Document → Decoded α} {xs : List α}
    (each : ∀ x ∈ xs, decode (.ofJson (encode x)) = .ok x) :
    list decode (.ofJson (.arr (xs.map encode))) = .ok xs := by
  have items : (Document.ofItems (xs.map encode)).mapM decode = .ok xs := by
    induction xs with
    | nil => rfl
    | cons x xs ih =>
        obtain ⟨first, others⟩ := List.forall_mem_cons.mp each
        rw [List.map_cons, Document.ofItems, List.mapM_cons, first, ih others]
        rfl
  rw [Document.ofJson, list, items]
  rfl

theorem texts_ofJson (items : List String) :
    list text (.ofJson (.texts items)) = .ok items :=
  list_ofJson fun _ _ => rfl

/-- An integer is read as what it is converted to. -/
theorem integer_ofJson {α : Type} {convert : Int → Option α} (expected : String) {i : Int} {a : α}
    (taken : convert i = some a) : integer convert expected (.ofJson (.int i)) = .ok a := by
  rw [Json.int, Document.ofJson, integer, wholeNumber, taken]
  rfl

theorem int32_ofJson (i : Int32) : int32 (.ofJson (.int i.toInt)) = .ok i :=
  integer_ofJson "i32" (int32?_toInt i)

theorem int64_ofJson (i : Int64) : int64 (.ofJson (.int i.toInt)) = .ok i :=
  integer_ofJson "i64" (int64?_toInt i)

theorem count_ofJson (n : UInt64) : count (.ofJson (.int n.toNat)) = .ok n :=
  integer_ofJson "usize" (uint64?_toNat n)

section Maps

variable {κ α : Type} [LT κ] [DecidableLT κ] [DecidableEq κ] [KeyOrder κ]
  {key : Key → Decoded κ} {decode : Document → Decoded α}

/-- A member is read as an entry of a map. -/
def ReadsMember (key : Key → Decoded κ) (decode : Document → Decoded α) (m : String × Json)
    (entry : κ × α) : Prop :=
  key ⟨.ok m.1, m.1.toList⟩ = .ok entry.1 ∧ decode (.ofJson m.2) = .ok entry.2

/-- A map is read member by member. -/
theorem map_ofJson {members : List (String × Json)} {entries : List (κ × α)}
    (each : List.Forall₂ (ReadsMember key decode) members entries) :
    map key decode (.ofJson (.obj members)) = .ok (.ofList entries) := by
  have read : (Document.ofMembers members).mapM (fun member => do
      let k ← key member.1
      return (k, ← decode member.2)) = Except.ok entries := by
    induction each with
    | nil => rfl
    | cons first _ ih =>
        rw [Document.ofMembers, List.mapM_cons, first.1, ih]
        simp only [bind, Except.bind, first.2]
        rfl
  rw [Document.ofJson, map, read]
  rfl

/-- A map is read as it was written, in whatever order its entries come. -/
theorem map_of_perm [Std.Irrefl (fun a b : κ => a < b)] {m : OrderedMap κ α}
    {write : κ × α → String × Json}
    (each : ∀ entry ∈ m.entries, ReadsMember key decode (write entry) entry)
    {members : List (String × Json)} (perm : members.Perm (m.entries.map write)) :
    map key decode (.ofJson (.obj members)) = .ok m := by
  have written : List.Forall₂ (ReadsMember key decode) (m.entries.map write) m.entries := by
    rw [List.forall₂_map_left_iff, List.forall₂_same]
    exact each
  obtain ⟨entries, reads, order⟩ := List.perm_comp_forall₂ perm written
  rw [map_ofJson reads, OrderedMap.ofList_of_perm order]

end Maps

end Decode

namespace Shape

variable {α : Type} (shape : Shape α)

/-- The record with an entry, which may be left out. -/
def setEntry (record : α) (e : Entry) : Decoded α :=
  match e.2 with
  | none => .ok record
  | some value => shape.set record e.1 (.ofJson value)

variable {shape}

theorem setMembers_cons {record : α} {seen : List String} {key : String} {source : List Char}
    {value : Document} (known : key ∈ shape.keys) (fresh : key ∉ seen)
    (rest : List (Key × Document)) :
    shape.setMembers record seen ((⟨.ok key, source⟩, value) :: rest) =
      shape.set record key value >>= fun next => shape.setMembers next (key :: seen) rest := by
  have read : Decode.keyText ⟨.ok key, source⟩ = .ok key := rfl
  rw [setMembers, read]
  simp only [bind, Except.bind, if_pos known, if_neg fresh]

/-- The keys of the entries that are not left out. -/
def writtenKeys (entries : List Entry) : List String :=
  (entries.filter (·.2.isSome)).map (·.1)

/-- The members that are there are set one after the other, and their keys are seen. -/
theorem setMembers_entries (entries : List Entry) {record : α} {seen : List String}
    (known : ∀ e ∈ entries, e.1 ∈ shape.keys) (nodup : (entries.map (·.1)).Nodup)
    (fresh : ∀ e ∈ entries, e.1 ∉ seen) :
    shape.setMembers record seen
        (Document.ofMembers ((entries.map Entry.member).filterMap id)) =
      (·, (writtenKeys entries).reverse ++ seen) <$> entries.foldlM shape.setEntry record := by
  induction entries generalizing record seen with
  | nil => rfl
  | cons e rest ih =>
      obtain ⟨key, value?⟩ := e
      obtain ⟨keyKnown, restKnown⟩ := List.forall_mem_cons.mp known
      obtain ⟨keyFresh, restFresh⟩ := List.forall_mem_cons.mp fresh
      obtain ⟨once, restNodup⟩ := List.nodup_cons.mp nodup
      cases value? with
      | none => exact ih restKnown restNodup restFresh
      | some value =>
          have later : ∀ e ∈ rest, e.1 ∉ key :: seen := by
            intro e listed again
            rcases List.mem_cons.mp again with same | before
            · exact once (List.mem_map.mpr ⟨e, listed, same⟩)
            · exact restFresh e listed before
          have keys : (writtenKeys ((key, some value) :: rest)).reverse ++ seen =
              (writtenKeys rest).reverse ++ key :: seen := by
            simp [writtenKeys]
          refine (setMembers_cons keyKnown keyFresh _).trans ?_
          rw [List.foldlM_cons, map_bind, keys]
          exact bind_congr fun next => ih restKnown restNodup later

/-- **The entries of a record are set one after the other**, if none is left out that the record
requires. -/
theorem decode_entries_of_written (origin : Origin) {entries : List Entry}
    (written : ∀ key ∈ shape.required, key ∈ writtenKeys entries)
    (known : ∀ e ∈ entries, e.1 ∈ shape.keys) (nodup : (entries.map (·.1)).Nodup) :
    shape.decode origin (.ofJson (.ofMembers (entries.map Entry.member))) =
      entries.foldlM shape.setEntry shape.start := by
  have complete : shape.required.find? (· ∉ (writtenKeys entries).reverse ++ []) = none := by
    rw [List.find?_eq_none]
    intro key required
    simpa using written key required
  rw [Json.ofMembers, Document.ofJson, decode,
    setMembers_entries entries known nodup fun _ _ => List.not_mem_nil]
  cases entries.foldlM shape.setEntry shape.start with
  | error reason => rfl
  | ok record =>
      simp only [Functor.map, Except.map, bind, Except.bind, Decode.atEnd, complete]
      rfl

theorem decode_entries (origin : Origin) (free : shape.required = []) {entries : List Entry}
    (known : ∀ e ∈ entries, e.1 ∈ shape.keys) (nodup : (entries.map (·.1)).Nodup) :
    shape.decode origin (.ofJson (.ofMembers (entries.map Entry.member))) =
      entries.foldlM shape.setEntry shape.start :=
  decode_entries_of_written origin (by simp [free]) known nodup

section Steps

variable {record next result : α} {key : String}

/-- One entry is set, and then the others. -/
theorem foldlM_step {e : Entry} {rest : List Entry} (first : shape.setEntry record e = .ok next)
    (others : rest.foldlM shape.setEntry next = .ok result) :
    (e :: rest).foldlM shape.setEntry record = .ok result := by
  rw [List.foldlM_cons, first]
  exact others

/-- A value that is there is read. -/
theorem setEntry_some {β : Type} {decode : Document → Decoded β} {with_ : β → α}
    (set : ∀ d, shape.set record key d = decode d >>= fun b => pure (with_ b)) {value : Json}
    {b : β} (read : decode (.ofJson value) = .ok b) :
    shape.setEntry record (key, some value) = .ok (with_ b) := by
  show shape.set record key (.ofJson value) = _
  rw [set, read]
  rfl

/-- A value that is left out is what the record has without it. -/
theorem setEntry_option {β : Type} {decode : Document → Decoded (Option β)}
    {with_ : Option β → α}
    (set : ∀ d, shape.set record key d = decode d >>= fun value? => pure (with_ value?))
    (unset : with_ none = record) {encode : β → Json} {value? : Option β}
    (read : ∀ b, value? = some b → decode (.ofJson (encode b)) = .ok (some b)) :
    shape.setEntry record (key, value?.map encode) = .ok (with_ value?) := by
  cases value? with
  | none => exact congrArg Except.ok unset.symm
  | some b => exact setEntry_some set (read b rfl)

/-- A text that is left out when it is empty. -/
def textEntry (key text : String) : Entry :=
  (key, if text = "" then none else some (.str text))

theorem member_textEntry (key text : String) :
    (textEntry key text).member = Json.unlessEmpty key text := by
  rw [textEntry, Entry.member, Json.unlessEmpty]
  split <;> rfl

theorem setEntry_text {with_ : String → α}
    (set : ∀ s, shape.set record key (.text (some s)) = .ok (with_ s)) (unset : with_ "" = record)
    (text : String) : shape.setEntry record (textEntry key text) = .ok (with_ text) := by
  rw [textEntry]
  split
  · next empty =>
    rw [empty, unset]
    rfl
  · exact set text

end Steps

end Shape

end PhaseTable
