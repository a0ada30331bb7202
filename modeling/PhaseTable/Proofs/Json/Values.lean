/-
# PhaseTable.Proofs.Json.Values -- records are read value by value

A record is a list of values under keys, whether it is written as an object or as an array
(`Shape.values?`).  Reading a document sets them one after the other (`Shape.toOption_decode`), and
where none of the keys is required that is all.

A field is what a record holds under one of its keys (`Shape.Field`).  It holds what the last value
under the key is read as, and what it starts with if there is none (`Shape.Field.get_of_reads`).
So two documents agree on a field if the same value counts under its key (`Shape.Field.get_congr`).
-/
import Mathlib.Data.List.Induction
import PhaseTable.Proofs.Json.Record

namespace PhaseTable

set_option autoImplicit false

def Key.text? (key : Key) : Option String :=
  key.content.toOption

/-! ## Values that are put to use -/

namespace Decode

variable {α β : Type}

/-- What is read and put to some use is read in the first place. -/
theorem read_of_map {result : Decoded α} {f : α → β} {b : β}
    (mapped : (do return f (← result)) = Except.ok b) : ∃ a, result = .ok a ∧ f a = b := by
  cases result with
  | error reason => cases mapped
  | ok a => exact ⟨a, rfl, Except.ok.inj mapped⟩

theorem isOk_map (result : Decoded α) (f g : α → β) :
    (do return f (← result) : Decoded β).isOk = (do return g (← result) : Decoded β).isOk := by
  cases result <;> rfl

theorem map_map_eq (result : Decoded α) {f : α → β} {get : β → α} (back : ∀ a, get (f a) = a) :
    get <$> (do return f (← result)) = result := by
  cases result with
  | error reason => rfl
  | ok a => exact congrArg Except.ok (back a)

end Decode

namespace Shape

variable {α : Type} (shape : Shape α)

/-! ## The values of a document -/

abbrev Value := String × Document

/-- The values in the members of an object, `seen` being the keys that came before; none if a
member cannot be read, whatever its value is. -/
def memberValues? (seen : List String) : List (Key × Document) → Option (List Value)
  | [] => some []
  | (key, document) :: rest => do
      let key ← key.text?
      if key ∈ shape.keys then
        if key ∈ seen then none
        else return (key, document) :: (← memberValues? (key :: seen) rest)
      else if document.skipFault? = none then memberValues? seen rest
      else none

/-- The values in a document, if it is laid out as a record. -/
def values? : Document → Option (List Value)
  | .object members none => shape.memberValues? [] members
  | .array items none =>
      if items.length ≤ shape.keys.length then some (shape.keys.zip items) else none
  | _ => none

def setAll (record : α) (values : List Value) : Decoded α :=
  values.foldlM (fun record value => shape.set record value.1 value.2) record

variable {shape}

section Members

variable {record : α} {seen : List String} {key : String} {source : List Char}
  {document : Document} {rest : List (Key × Document)}

theorem setMembers_repeated (known : key ∈ shape.keys) (again : key ∈ seen) :
    shape.setMembers record seen ((⟨.ok key, source⟩, document) :: rest) =
      .error (.mismatch (.duplicateField key)) := by
  have read : Decode.keyText ⟨.ok key, source⟩ = .ok key := rfl
  rw [setMembers, read]
  simp only [bind, Except.bind, if_pos known, if_pos again]
  rfl

theorem setMembers_unknown (unknown : key ∉ shape.keys) :
    shape.setMembers record seen ((⟨.ok key, source⟩, document) :: rest) =
      Decode.passOver document >>= fun _ => shape.setMembers record seen rest := by
  have read : Decode.keyText ⟨.ok key, source⟩ = .ok key := rfl
  rw [setMembers, read]
  simp only [bind, Except.bind, if_neg unknown]

theorem memberValues?_cons :
    shape.memberValues? seen ((⟨.ok key, source⟩, document) :: rest) =
      if key ∈ shape.keys then
        if key ∈ seen then none
        else (shape.memberValues? (key :: seen) rest).map ((key, document) :: ·)
      else if document.skipFault? = none then shape.memberValues? seen rest
      else none := by
  rw [memberValues?]
  simp only [Key.text?, Except.toOption, Option.bind_eq_bind, Option.bind_some]
  split
  · split
    · rfl
    · cases shape.memberValues? (key :: seen) rest <;> rfl
  · rfl

end Members

variable (shape) in
/-- The members of an object are set in their order. -/
theorem toOption_setMembers (record : α) (seen : List String) (members : List (Key × Document)) :
    ((shape.setMembers record seen members).toOption).map Prod.fst =
      (shape.memberValues? seen members).bind fun values =>
        (shape.setAll record values).toOption := by
  induction members generalizing record seen with
  | nil => rfl
  | cons member rest ih =>
      obtain ⟨⟨content, source⟩, document⟩ := member
      cases content with
      | error fault => rfl
      | ok key =>
          rw [memberValues?_cons]
          by_cases known : key ∈ shape.keys
          · rw [if_pos known]
            by_cases again : key ∈ seen
            · rw [if_pos again, setMembers_repeated known again]
              rfl
            · rw [if_neg again, setMembers_cons known again]
              cases set_ : shape.set record key document with
              | error reason =>
                  cases shape.memberValues? (key :: seen) rest <;>
                    simp [setAll, set_, bind, Except.bind, Except.toOption]
              | ok next =>
                  refine (ih next (key :: seen)).trans ?_
                  cases shape.memberValues? (key :: seen) rest with
                  | none => rfl
                  | some values => simp [setAll, set_, bind, Except.bind]
          · rw [if_neg known, setMembers_unknown known, Decode.passOver]
            cases document.skipFault? with
            | none => exact ih record seen
            | some fault => rfl

/-- The items of an array are set at the keys, in their order. -/
theorem setItems_eq (record : α) (keys : List String) (items : List Document) :
    shape.setItems record keys items =
      (·, keys.drop items.length, items.drop keys.length) <$>
        shape.setAll record (keys.zip items) := by
  induction keys generalizing record items with
  | nil => cases items <;> rfl
  | cons key keys ih =>
      cases items with
      | nil => rfl
      | cons item items =>
          rw [setItems, List.zip_cons_cons, setAll, List.foldlM_cons, map_bind]
          exact bind_congr fun next => ih next items

section Reading

variable (free : shape.required = []) (origin : Origin)
include free

theorem toOption_decode_object (members : List (Key × Document)) :
    (shape.decode origin (.object members none)).toOption =
      (shape.memberValues? [] members).bind fun values =>
        (shape.setAll shape.start values).toOption := by
  have set_ := toOption_setMembers shape shape.start [] members
  rw [decode]
  cases result : shape.setMembers shape.start [] members with
  | error reason =>
      rw [result] at set_
      exact set_
  | ok pair =>
      rw [result] at set_
      refine Eq.trans ?_ set_
      simp only [free, List.find?_nil]
      rfl

theorem toOption_decode_array (items : List Document) :
    (shape.decode origin (.array items none)).toOption =
      if items.length ≤ shape.keys.length then
        (shape.setAll shape.start (shape.keys.zip items)).toOption
      else none := by
  have left : items.drop shape.keys.length = [] ↔ items.length ≤ shape.keys.length :=
    List.drop_eq_nil_iff
  have missing : (shape.keys.drop items.length).find? (· ∈ shape.required) = none := by
    simp [free, List.find?_eq_none]
  rw [decode, setItems_eq]
  cases shape.setAll shape.start (shape.keys.zip items) with
  | error reason =>
      split <;> rfl
  | ok record =>
      simp only [Functor.map, Except.map, bind, Except.bind, missing]
      cases dropped : items.drop shape.keys.length with
      | nil =>
          rw [if_pos (left.mp dropped)]
          cases origin <;> rfl
      | cons item rest =>
          have more : ¬ items.length ≤ shape.keys.length := fun all => by
            rw [left.mpr all] at dropped
            cases dropped
          rw [if_neg more]
          cases origin <;> rfl

/-- **A record is read value by value.**  If it has no required keys, a document is read as one if
it is laid out as one and its values can be set one after the other. -/
theorem toOption_decode (d : Document) :
    (shape.decode origin d).toOption =
      (shape.values? d).bind fun values => (shape.setAll shape.start values).toOption := by
  cases d with
  | object members ending =>
      cases ending with
      | none => exact toOption_decode_object free origin members
      | some b =>
          rw [decode]
          cases shape.setMembers shape.start [] members <;> rfl
  | array items ending =>
      cases ending with
      | none =>
          rw [toOption_decode_array free, values?]
          split <;> rfl
      | some b =>
          rw [decode]
          cases shape.setItems shape.start shape.keys items with
          | error reason => rfl
          | ok result =>
              obtain ⟨record, missing, left⟩ := result
              cases left <;> cases origin <;> rfl
  | tooDeep inner => rfl
  | null | bool _ => rfl
  | number n => cases n <;> rfl
  | text s => cases s <;> rfl
  | broken b => rfl

end Reading

/-! ## The keys of the values -/

theorem keys_memberValues? {seen : List String} {members : List (Key × Document)}
    {values : List Value} (laidOut : shape.memberValues? seen members = some values) :
    values.map Prod.fst = (members.filterMap (·.1.text?)).filter (· ∈ shape.keys) := by
  induction members generalizing seen values with
  | nil =>
      cases laidOut
      rfl
  | cons member rest ih =>
      obtain ⟨⟨content, source⟩, document⟩ := member
      cases content with
      | error fault => cases laidOut
      | ok k =>
          have keys : ((⟨.ok k, source⟩, document) :: rest : List (Key × Document)).filterMap
              (·.1.text?) = k :: rest.filterMap (·.1.text?) := rfl
          rw [memberValues?_cons] at laidOut
          rw [keys]
          split at laidOut
          · next known =>
            rw [List.filter_cons_of_pos (by simpa using known)]
            split at laidOut
            · cases laidOut
            · obtain ⟨others, later, rfl⟩ := Option.map_eq_some_iff.mp laidOut
              rw [List.map_cons, ih later]
          · next unknown =>
            rw [List.filter_cons_of_neg (by simpa using unknown)]
            split at laidOut
            · exact ih laidOut
            · cases laidOut

theorem keys_zip (keys : List String) (items : List Document) :
    (keys.zip items).map Prod.fst = keys.take items.length := by
  induction keys generalizing items with
  | nil => simp
  | cons key keys ih => cases items <;> simp [ih]

/-- A document that is laid out as a record is an object or an array, and does not break off. -/
theorem values?_cases {d : Document} {values : List Value}
    (laidOut : shape.values? d = some values) :
    (∃ members, d = .object members none ∧ shape.memberValues? [] members = some values) ∨
      ∃ items, d = .array items none ∧ items.length ≤ shape.keys.length ∧
        values = shape.keys.zip items := by
  cases d with
  | object members ending =>
      cases ending with
      | none => exact .inl ⟨members, rfl, laidOut⟩
      | some b => cases laidOut
  | array items ending =>
      cases ending with
      | none =>
          rw [values?, Option.ite_none_right_eq_some] at laidOut
          exact .inr ⟨items, rfl, laidOut.1, (Option.some.inj laidOut.2).symm⟩
      | some b => cases laidOut
  | _ => cases laidOut

theorem known_of_values? {d : Document} {values : List Value}
    (laidOut : shape.values? d = some values) : ∀ value ∈ values, value.1 ∈ shape.keys := by
  intro value listed
  have key : value.1 ∈ values.map Prod.fst := List.mem_map_of_mem listed
  obtain ⟨members, rfl, inside⟩ | ⟨items, rfl, -, rfl⟩ := values?_cases laidOut
  · rw [keys_memberValues? inside] at key
    simpa using (List.mem_filter.mp key).2
  · rw [keys_zip] at key
    exact List.mem_of_mem_take key

/-- The value that counts under a key: the last one. -/
def valueAt (values : List Value) (key : String) : Option Document :=
  values.reverse.lookup key

@[simp] theorem valueAt_concat (values : List Value) (value : Value) (key : String) :
    valueAt (values ++ [value]) key =
      if value.1 = key then some value.2 else valueAt values key := by
  rw [valueAt, List.reverse_append, List.reverse_singleton, List.singleton_append, List.lookup_cons]
  by_cases same : value.1 = key
  · simp [same]
  · simp [same, beq_false_of_ne (Ne.symm same), valueAt]

theorem valueAt_append (values more : List Value) (key : String) :
    valueAt (values ++ more) key = (valueAt more key).or (valueAt values key) := by
  rw [valueAt, List.reverse_append, List.lookup_append]
  rfl

theorem valueAt_eq_none_iff {values : List Value} {key : String} :
    valueAt values key = none ↔ key ∉ values.map Prod.fst := by
  rw [valueAt, List.lookup_eq_none_iff, List.mem_map]
  constructor
  · rintro others ⟨value, listed, rfl⟩
    simpa using others value (List.mem_reverse.mpr listed)
  · intro others value listed
    simpa using fun same : key = value.1 => others ⟨value, List.mem_reverse.mp listed, same.symm⟩

/-! ## Fields -/

/-- A field of a record: what it holds under a key is what the value under the key is read as, and
no value under another key changes it. -/
structure Field (shape : Shape α) (key : String) (β : Type) where
  get : α → β
  read : Document → Decoded β
  own : ∀ record d, get <$> shape.set record key d = read d
  other : ∀ {record next k d}, k ∈ shape.keys → k ≠ key → shape.set record k d = .ok next →
    get next = get record

/-- A value can be set under a key, whatever the record is. -/
def Takes (shape : Shape α) (key : String) (d : Document) : Prop :=
  ∀ record, ∃ next, shape.set record key d = .ok next

/-- No key is required, and whether a value can be set does not hang on the record. -/
structure Regular (shape : Shape α) : Prop where
  free : shape.required = []
  nodup : shape.keys.Nodup
  uniform : ∀ record next key d, (shape.set record key d).isOk = (shape.set next key d).isOk

/-- A document is laid out as a record with some values, which make the record. -/
structure Reads (shape : Shape α) (d : Document) (values : List Value) (record : α) : Prop where
  laidOut : shape.values? d = some values
  made : shape.setAll shape.start values = .ok record

theorem decode_eq_ok_iff (free : shape.required = []) (origin : Origin) {d : Document}
    {record : α} :
    shape.decode origin d = .ok record ↔ ∃ values, shape.Reads d values record := by
  have ok_iff (result : Decoded α) : result = .ok record ↔ result.toOption = some record := by
    cases result <;> simp [Except.toOption]
  rw [ok_iff, toOption_decode free origin, Option.bind_eq_some_iff]
  simp only [← ok_iff]
  exact exists_congr fun values => ⟨fun ⟨laidOut, made⟩ => ⟨laidOut, made⟩, fun reads =>
    ⟨reads.laidOut, reads.made⟩⟩

theorem setAll_concat (record : α) (values : List Value) (value : Value) :
    shape.setAll record (values ++ [value]) =
      shape.setAll record values >>= fun next => shape.set next value.1 value.2 := by
  simp [setAll, List.foldlM_append]

namespace Field

variable {key : String} {β : Type} (field : shape.Field key β) {record result : α}

theorem read_of_set {d : Document} (set_ : shape.set record key d = .ok result) :
    field.read d = .ok (field.get result) := by
  rw [← field.own record d, set_]
  rfl

theorem takes_of_read {d : Document} {b : β} (read : field.read d = .ok b) : shape.Takes key d := by
  intro record
  have own := field.own record d
  rw [read] at own
  cases set_ : shape.set record key d with
  | error reason =>
      rw [set_] at own
      cases own
  | ok next => exact ⟨next, rfl⟩

theorem get_of_setAll {values : List Value} (known : ∀ value ∈ values, value.1 ∈ shape.keys)
    (made : shape.setAll record values = .ok result) :
    match valueAt values key with
    | some d => field.read d = .ok (field.get result)
    | none => field.get result = field.get record := by
  induction values using List.reverseRecOn generalizing result with
  | nil =>
      cases made
      rfl
  | append_singleton values value ih =>
      obtain ⟨others, last⟩ := List.forall_mem_append.mp known
      rw [setAll_concat] at made
      cases before : shape.setAll record values with
      | error reason =>
          rw [before] at made
          cases made
      | ok next =>
          rw [before] at made
          rw [valueAt_concat]
          -- the last value counts if it stands under the key, and else changes nothing
          by_cases own : value.1 = key
          · rw [if_pos own]
            exact field.read_of_set (own ▸ made)
          · rw [if_neg own, field.other (last value (List.mem_singleton_self value)) own made]
            exact ih others before

variable {d : Document} {values : List Value}

/-- A field holds what the last value under its key is read as. -/
theorem get_of_reads (reads : shape.Reads d values record) :
    match valueAt values key with
    | some d => field.read d = .ok (field.get record)
    | none => field.get record = field.get shape.start :=
  field.get_of_setAll (known_of_values? reads.laidOut) reads.made

/-- A field hangs on nothing but the value that counts under its key. -/
theorem get_congr {other : Document} {others : List Value} {next : α}
    (reads : shape.Reads d values record) (readsNext : shape.Reads other others next)
    (same : valueAt others key = valueAt values key) : field.get next = field.get record := by
  have before := field.get_of_reads reads
  have after := field.get_of_reads readsNext
  rw [same] at after
  cases held : valueAt values key with
  | none =>
      rw [held] at before after
      exact after.trans before.symm
  | some old =>
      rw [held] at before after
      exact Except.ok.inj (after.symm.trans before)

end Field

namespace Regular

variable (regular : shape.Regular)
include regular

theorem takes_of_isOk {record : α} {key : String} {d : Document}
    (taken : (shape.set record key d).isOk = true) : shape.Takes key d := by
  intro other
  have accepted := (regular.uniform other record key d).trans taken
  cases set_ : shape.set other key d with
  | error reason =>
      rw [set_] at accepted
      cases accepted
  | ok next => exact ⟨next, rfl⟩

theorem takes_of_set {record next : α} {key : String} {d : Document}
    (set_ : shape.set record key d = .ok next) : shape.Takes key d :=
  regular.takes_of_isOk ((congrArg Except.isOk set_).trans rfl)

/-- Values can be set one after the other if each can. -/
theorem setAll_iff {record : α} {values : List Value} :
    (∃ result, shape.setAll record values = .ok result) ↔
      ∀ value ∈ values, shape.Takes value.1 value.2 := by
  induction values generalizing record with
  | nil => simp [setAll, pure, Except.pure]
  | cons value rest ih =>
      rw [List.forall_mem_cons, setAll, List.foldlM_cons]
      constructor
      · rintro ⟨result, set_⟩
        cases first : shape.set record value.1 value.2 with
        | error reason =>
            rw [first] at set_
            cases set_
        | ok next =>
            rw [first] at set_
            exact ⟨regular.takes_of_set first, ih.mp ⟨result, set_⟩⟩
      · rintro ⟨first, others⟩
        obtain ⟨next, set_⟩ := first record
        rw [set_]
        exact ih.mpr others

/-- A document is read if it is laid out as a record and each of its values can be set. -/
theorem reads_of_takes {d : Document} {values : List Value}
    (laidOut : shape.values? d = some values)
    (takes : ∀ value ∈ values, shape.Takes value.1 value.2) :
    ∃ record, shape.Reads d values record := by
  obtain ⟨record, made⟩ := regular.setAll_iff.mpr takes
  exact ⟨record, laidOut, made⟩

end Regular

end Shape

end PhaseTable
