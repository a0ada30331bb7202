/-
# PhaseTable.Proofs.Json.Editing -- records in which one value is written anew

A document is edited under one key: the value there is changed (`Shape.modify`), or a value is
written whether there was one or not (`Shape.write`).  What the document is laid out as tells what
the edit does: the same values, but the one that counts under the key (`Shape.values?_modify`,
`Shape.values?_write`).  So the edited document is read if the new value is, and the fields of the
other keys are what they were (`Shape.Regular.decode_modify`, `Shape.Regular.decode_write`).
-/
import PhaseTable.Proofs.Json.Values

namespace PhaseTable

set_option autoImplicit false

def Document.mapItems (f : List Document → List Document) : Document → Document
  | .array items ending => .array (f items) ending
  | d => d

/-! ## Lists -/

namespace Decode

variable {α : Type}

/-- Items are read if each of them is. -/
theorem mapM_eq_ok_iff {decode : Document → Decoded α} {items : List Document} {xs : List α} :
    items.mapM decode = .ok xs ↔ items.map decode = xs.map .ok := by
  induction items generalizing xs with
  | nil => cases xs <;> simp [pure, Except.pure]
  | cons item items ih =>
      rw [List.mapM_cons]
      cases first : decode item with
      | error reason => cases xs <;> simp [first, bind, Except.bind]
      | ok x =>
          cases others : items.mapM decode with
          | error reason =>
              cases xs with
              | nil => simp [bind, Except.bind]
              | cons y ys => simp [first, bind, Except.bind, others, ← ih]
          | ok zs =>
              cases xs with
              | nil => simp [bind, Except.bind, pure, Except.pure]
              | cons y ys => simp [first, bind, Except.bind, others, ← ih, pure, Except.pure]

/-- What is refused is not read. -/
theorem refuse_ne_ok (d : Document) (expected : String) (a : α) : refuse d expected ≠ .ok a := by
  rw [refuse]
  cases found d <;> simp [bind, Except.bind, throw, throwThe, MonadExceptOf.throw]

/-- A list is an array that does not break off and whose items are read. -/
theorem list_eq_ok_iff {decode : Document → Decoded α} {d : Document} {xs : List α} :
    list decode d = .ok xs ↔
      ∃ items, d = .array items none ∧ items.map decode = xs.map .ok := by
  cases d with
  | array items ending =>
      rw [list]
      cases ending with
      | none =>
          rw [show atEnd none = .ok () from rfl]
          simp only [Document.array.injEq, and_true, exists_eq_left', ← mapM_eq_ok_iff]
          cases items.mapM decode <;> rfl
      | some b =>
          rw [show atEnd (some b) = .error (.fault b.read) from rfl]
          cases items.mapM decode <;> simp [bind, Except.bind]
  | tooDeep inner => cases inner <;> simp [list, refuse_ne_ok]
  | _ => simp [list, refuse_ne_ok]

section Items

variable {decode : Document → Decoded α} {items : List Document} {xs : List α}
  (read : items.map decode = xs.map .ok) {i : Nat}
include read

theorem map_modify_none (none_ : xs[i]? = none) {f : Document → Document} :
    (items.modify i f).map decode = xs.map .ok := by
  have length : items.length = xs.length := by simpa using congrArg List.length read
  rw [List.modify_eq_self (by simpa [length] using none_), read]

/-- An item may be replaced by any other that can be read. -/
theorem map_modify_some {x : α} (place : xs[i]? = some x) :
    ∃ item, decode item = .ok x ∧ ∀ {f : Document → Document} (y : α), decode (f item) = .ok y →
      (items.modify i f).map decode = (xs.set i y).map .ok := by
  have here : items[i]?.map decode = some (.ok x) := by
    rw [← List.getElem?_map, read, List.getElem?_map, place, Option.map_some]
  obtain ⟨item, found, decodes⟩ := Option.map_eq_some_iff.mp here
  refine ⟨item, decodes, fun {f} y replaced => ?_⟩
  rw [List.map_set, ← read, ← replaced, ← List.map_set, List.modify_eq_set_getElem?, found]
  rfl

end Items

/-- Where the items of an array are edited, a list of others is read. -/
theorem list_mapItems {decode : Document → Decoded α} {f : List Document → List Document}
    {Changed : List α → List α → Prop}
    (changed : ∀ items xs, items.map decode = xs.map .ok →
      ∃ ys, (f items).map decode = ys.map .ok ∧ Changed xs ys)
    (nothing : Changed [] []) {d : Document} {xs : List α}
    (read : orNull [] (list decode) d = .ok xs) :
    ∃ ys, orNull [] (list decode) (d.mapItems f) = .ok ys ∧ Changed xs ys := by
  by_cases null : d = .null
  · subst null
    cases read
    exact ⟨[], rfl, nothing⟩
  · rw [orNull_of_ne null] at read
    obtain ⟨items, rfl, each⟩ := list_eq_ok_iff.mp read
    obtain ⟨ys, eachChanged, change⟩ := changed items xs each
    exact ⟨ys, (orNull_of_ne (by simp [Document.mapItems])).trans
      (list_eq_ok_iff.mpr ⟨f items, rfl, eachChanged⟩), change⟩

end Decode

namespace Shape

variable {α : Type} {shape : Shape α}

/-! ## Edits -/

variable (shape) in
/-- A document gives a value under a key. -/
def gives (key : String) : Document → Bool
  | .object members _ => members.any (·.1.text? = some key)
  | .array items _ => shape.keys.idxOf key < items.length
  | _ => false

variable (shape) in
/-- The document of a record with the value under a key changed, if it gives one. -/
def modify (key : String) (f : Document → Document) : Document → Document
  | .object members ending =>
      .object (members.map fun m => if m.1.text? = some key then (m.1, f m.2) else m) ending
  | .array items ending => .array (items.modify (shape.keys.idxOf key) f) ending
  | d => d

variable (shape) in
/-- The document of a record that gives no value under a key, with one at its end.  In an array
null stands for the values before it. -/
def add (key : String) (value : Document) : Document → Document
  | .object members ending => .object (members ++ [(⟨.ok key, key.toList⟩, value)]) ending
  | .array items ending =>
      .array (items ++ List.replicate (shape.keys.idxOf key - items.length) .null ++ [value]) ending
  | d => d

variable (shape) in
/-- The document of a record with a value written under a key. -/
def write (key : String) (value : Document) (d : Document) : Document :=
  if shape.gives key d then shape.modify key (fun _ => value) d else shape.add key value d

/-- A value that is changed if it stands under a key. -/
def change (key : String) (f : Document → Document) (value : Value) : Value :=
  if value.1 = key then (value.1, f value.2) else value

theorem valueAt_change (f : Document → Document) (values : List Value) (key k : String) :
    valueAt (values.map (change key f)) k =
      if k = key then (valueAt values k).map f else valueAt values k := by
  induction values using List.reverseRecOn with
  | nil => split <;> rfl
  | append_singleton values value ih =>
      rw [List.map_append, List.map_singleton, valueAt_concat, valueAt_concat, ih]
      by_cases here : value.1 = key
      · by_cases wanted : k = key
        · simp [change, here, wanted]
        · simp [change, here, wanted, Ne.symm wanted]
      · by_cases wanted : k = key
        · simp [change, here, wanted]
        · simp [change, here, wanted]

theorem memberValues?_modify {key : String} (known : key ∈ shape.keys) (f : Document → Document)
    (seen : List String) (members : List (Key × Document)) :
    shape.memberValues? seen
        (members.map fun m => if m.1.text? = some key then (m.1, f m.2) else m) =
      (shape.memberValues? seen members).map (List.map (change key f)) := by
  induction members generalizing seen with
  | nil => rfl
  | cons member rest ih =>
      obtain ⟨⟨content, source⟩, document⟩ := member
      cases content with
      | error fault => rfl
      | ok k =>
          by_cases here : k = key
          · subst here
            have first : (Key.mk (.ok k) source).text? = some k := rfl
            rw [List.map_cons, if_pos first, memberValues?_cons, memberValues?_cons, if_pos known,
              if_pos known]
            split
            · rfl
            · rw [ih]
              cases shape.memberValues? (k :: seen) rest <;> simp [change]
          · have first : (Key.mk (.ok k) source).text? ≠ some key := fun same =>
              here (Option.some.inj same)
            rw [List.map_cons, if_neg first, memberValues?_cons, memberValues?_cons, ih, ih]
            split
            · split
              · rfl
              · cases shape.memberValues? (k :: seen) rest <;> simp [change, here]
            · split <;> rfl

theorem zip_modify {keys : List String} (nodup : keys.Nodup) (key : String)
    (f : Document → Document) (items : List Document) :
    keys.zip (items.modify (keys.idxOf key) f) = (keys.zip items).map (change key f) := by
  induction keys generalizing items with
  | nil => rfl
  | cons k keys ih =>
      obtain ⟨once, nodup⟩ := List.nodup_cons.mp nodup
      cases items with
      | nil => simp
      | cons item items =>
          by_cases here : k = key
          · subst here
            have others : (keys.zip items).map (change k f) = keys.zip items := by
              refine (List.map_congr_left fun value member => ?_).trans (List.map_id _)
              have other : value.1 ≠ k := fun same => once (same ▸ (List.of_mem_zip member).1)
              rw [change, if_neg other, id]
            simp [change, others]
          · rw [List.idxOf_cons_ne _ here, List.modify_succ_cons, List.zip_cons_cons, ih nodup]
            simp [change, here]

theorem values?_modify (regular : shape.Regular) {key : String} (known : key ∈ shape.keys)
    (f : Document → Document) (d : Document) :
    shape.values? (shape.modify key f d) =
      (shape.values? d).map (List.map (change key f)) := by
  cases d with
  | object members ending =>
      cases ending with
      | none => exact memberValues?_modify known f [] members
      | some b => rfl
  | array items ending =>
      cases ending with
      | none =>
          rw [modify, values?, values?, List.length_modify, zip_modify regular.nodup]
          split <;> rfl
      | some b => rfl
  | _ => rfl

theorem memberValues?_add {key : String} (known : key ∈ shape.keys) (value : Document)
    {seen : List String} (fresh : key ∉ seen) {members : List (Key × Document)}
    (absent : ∀ m ∈ members, m.1.text? ≠ some key) :
    shape.memberValues? seen (members ++ [(⟨.ok key, key.toList⟩, value)]) =
      (shape.memberValues? seen members).map (· ++ [(key, value)]) := by
  induction members generalizing seen with
  | nil =>
      rw [List.nil_append, memberValues?_cons, if_pos known, if_neg fresh]
      rfl
  | cons member rest ih =>
      obtain ⟨⟨content, source⟩, document⟩ := member
      obtain ⟨first, others⟩ := List.forall_mem_cons.mp absent
      cases content with
      | error fault => rfl
      | ok k =>
          have different : key ≠ k := fun same => first (congrArg some same.symm)
          have stillFresh : key ∉ k :: seen := by simp [different, fresh]
          rw [List.cons_append, memberValues?_cons, memberValues?_cons, ih fresh others,
            ih stillFresh others]
          split
          · split
            · rfl
            · cases shape.memberValues? (k :: seen) rest <;> rfl
          · split <;> rfl

/-- The values of an array are followed by nulls for the keys that come before a new one. -/
theorem zip_add {before after : List String} {key : String}
    (nodup : (before ++ key :: after).Nodup) (value : Document) {items : List Document}
    (short : items.length ≤ before.length) :
    ∃ padding, (before ++ key :: after).zip
        (items ++ List.replicate (before.length - items.length) .null ++ [value]) =
          (before ++ key :: after).zip items ++ padding ++ [(key, value)] ∧
      ∀ v ∈ padding, v.1 ∈ before ∧ v.2 = .null ∧
        valueAt ((before ++ key :: after).zip items) v.1 = none := by
  -- the keys before the new one: those with an item and those without
  obtain ⟨given, left, rfl, length⟩ : ∃ given left, before = given ++ left ∧
      given.length = items.length :=
    ⟨before.take items.length, before.drop items.length, (List.take_append_drop _ _).symm,
      List.length_take_of_le short⟩
  have same : (given ++ left).length - items.length = left.length := by
    rw [List.length_append, length]
    omega
  have old : (given ++ left ++ key :: after).zip items = given.zip items := by
    rw [List.append_assoc, ← List.append_nil items, List.zip_append length, List.append_nil]
    simp
  refine ⟨left.zip (List.replicate left.length .null), ?_, fun v member => ?_⟩
  · rw [same, old, List.zip_append (by simp [length]), List.zip_append length]
    simp
  · obtain ⟨skipped, null⟩ := List.of_mem_zip member
    refine ⟨List.mem_append_right _ skipped, List.eq_of_mem_replicate null, ?_⟩
    rw [old, valueAt, List.lookup_eq_none_iff]
    intro item listed
    have apart := (List.nodup_append.mp (List.nodup_append.mp nodup).1).2.2
    have among := (List.of_mem_zip (List.mem_reverse.mp listed)).1
    simpa using Ne.symm (apart _ among _ skipped)

/-- The values of a document with one more are followed by those of some keys before it, which are
null, and by the new one. -/
theorem values?_add (regular : shape.Regular) {key : String} (known : key ∈ shape.keys)
    (value : Document) {d : Document} (absent : shape.gives key d = false) {values : List Value}
    (laidOut : shape.values? d = some values) :
    ∃ padding, shape.values? (shape.add key value d) = some (values ++ padding ++ [(key, value)]) ∧
      ∀ v ∈ padding, v.1 ∈ shape.keys.take (shape.keys.idxOf key) ∧ v.2 = .null ∧
        valueAt values v.1 = none := by
  obtain ⟨members, rfl, inside⟩ | ⟨items, rfl, fits, rfl⟩ := values?_cases laidOut
  · have missing : ∀ m ∈ members, m.1.text? ≠ some key := by simpa [gives] using absent
    have added := memberValues?_add known value List.not_mem_nil missing
    refine ⟨[], ?_, by simp⟩
    rw [add, values?, added, inside, List.append_nil]
    rfl
  · obtain ⟨before, after, keys, fresh⟩ := List.eq_append_cons_of_mem known
    have place : shape.keys.idxOf key = before.length := by
      rw [keys, List.idxOf_append_of_notMem fresh, List.idxOf_cons_self, Nat.add_zero]
    have short : items.length ≤ before.length := by simpa [gives, place] using absent
    obtain ⟨padding, zipped, nulls⟩ := zip_add (keys ▸ regular.nodup) value short
    refine ⟨padding, ?_, fun v member => ?_⟩
    · rw [add, values?, place, keys, zipped, if_pos]
      simp
      omega
    · rw [place, keys, List.take_left]
      exact nulls v member

theorem valueAt_of_gives {key : String} (known : key ∈ shape.keys) {d : Document}
    (given : shape.gives key d = true) {values : List Value}
    (laidOut : shape.values? d = some values) : valueAt values key ≠ none := by
  rw [ne_eq, valueAt_eq_none_iff, not_not]
  obtain ⟨members, rfl, inside⟩ | ⟨items, rfl, -, rfl⟩ := values?_cases laidOut
  · rw [keys_memberValues? inside]
    simpa [gives, known] using given
  · rw [keys_zip, List.mem_take_iff_idxOf_lt known]
    simpa [gives] using given

/-- The values of a document in which one is written: it counts under its key, and those that
counted under the other keys still do. -/
theorem values?_write (regular : shape.Regular) {key : String} (known : key ∈ shape.keys)
    (value : Document) {d : Document} {values : List Value}
    (laidOut : shape.values? d = some values) :
    ∃ others, shape.values? (shape.write key value d) = some others ∧
      (∀ v ∈ others, v = (key, value) ∨ v ∈ values ∨
        v.1 ∈ shape.keys.take (shape.keys.idxOf key) ∧ v.2 = .null) ∧
      valueAt others key = some value ∧
      ∀ k, k ≠ key → valueAt values k ≠ none → valueAt others k = valueAt values k := by
  rw [write]
  cases given : shape.gives key d with
  | true =>
      refine ⟨values.map (change key fun _ => value), ?_, ?_, ?_, ?_⟩
      · rw [if_pos rfl, values?_modify regular known, laidOut, Option.map_some]
      · intro v member
        obtain ⟨old, listed, rfl⟩ := List.mem_map.mp member
        rw [change]
        split
        · next own => exact .inl (by rw [own])
        · exact .inr (.inl listed)
      · obtain ⟨old, held⟩ := Option.ne_none_iff_exists'.mp (valueAt_of_gives known given laidOut)
        rw [valueAt_change, if_pos rfl, held, Option.map_some]
      · intro k different _
        rw [valueAt_change, if_neg different]
  | false =>
      obtain ⟨padding, added, nulls⟩ := values?_add regular known value given laidOut
      refine ⟨values ++ padding ++ [(key, value)], ?_, ?_, ?_, ?_⟩
      · rw [if_neg (by simp), added]
      · intro v member
        rcases List.mem_append.mp member with member | last
        · rcases List.mem_append.mp member with old | padded
          · exact .inr (.inl old)
          · exact .inr (.inr ⟨(nulls v padded).1, (nulls v padded).2.1⟩)
        · exact .inl (List.mem_singleton.mp last)
      · rw [valueAt_concat, if_pos rfl]
      · intro k different present
        have unpadded : valueAt padding k = none := by
          rw [valueAt_eq_none_iff]
          intro padded
          obtain ⟨v, listed, rfl⟩ := List.mem_map.mp padded
          exact present (nulls v listed).2.2
        rw [valueAt_concat, if_neg (Ne.symm different), valueAt_append, unpadded, Option.none_or]

/-! ## Reading what is edited -/

namespace Regular

variable (regular : shape.Regular) (origin : Origin) {key : String} (known : key ∈ shape.keys)
  {β : Type} (field : shape.Field key β) {d : Document} {record : α}
  (decodes : shape.decode origin d = .ok record)
include regular known decodes

/-- **A value that is changed changes its own field and no other.** -/
theorem decode_modify {f : Document → Document} {Changed : β → β → Prop}
    (changed : ∀ old b, field.read old = .ok b → ∃ c, field.read (f old) = .ok c ∧ Changed b c)
    (unset : Changed (field.get shape.start) (field.get shape.start)) :
    ∃ next, shape.decode origin (shape.modify key f d) = .ok next ∧
      Changed (field.get record) (field.get next) ∧
      ∀ {k : String} {γ : Type} (other : shape.Field k γ), k ≠ key →
        other.get next = other.get record := by
  obtain ⟨values, reads⟩ := (decode_eq_ok_iff regular.free origin).mp decodes
  have each := regular.setAll_iff.mp ⟨record, reads.made⟩
  have laidOut : shape.values? (shape.modify key f d) = some (values.map (change key f)) := by
    rw [values?_modify regular known, reads.laidOut, Option.map_some]
  have takes : ∀ value ∈ values.map (change key f), shape.Takes value.1 value.2 := by
    intro value member
    obtain ⟨old, listed, rfl⟩ := List.mem_map.mp member
    rw [change]
    split
    · next own =>
      obtain ⟨after, set_⟩ := each old listed shape.start
      obtain ⟨c, read, -⟩ := changed old.2 _ (field.read_of_set (own ▸ set_))
      rw [own]
      exact field.takes_of_read read
    · exact each old listed
  obtain ⟨next, readsNext⟩ := regular.reads_of_takes laidOut takes
  refine ⟨next, (decode_eq_ok_iff regular.free origin).mpr ⟨_, readsNext⟩, ?_,
    fun other different =>
      other.get_congr reads readsNext (by rw [valueAt_change, if_neg different])⟩
  have before := field.get_of_reads reads
  have after := field.get_of_reads readsNext
  rw [valueAt_change, if_pos rfl] at after
  cases held : valueAt values key with
  | none =>
      rw [held] at before after
      rw [before, after]
      exact unset
  | some old =>
      rw [held] at before after
      obtain ⟨c, read, changes⟩ := changed old _ before
      rw [Option.map_some] at after
      rwa [Except.ok.inj (after.symm.trans read)]

/-- **A value that is written is what its own field holds, and no field changes that held a value
of its own.** -/
theorem decode_write {value : Document} {b : β} (read : field.read value = .ok b)
    (nulls : ∀ k ∈ shape.keys.take (shape.keys.idxOf key), shape.Takes k .null) :
    ∃ next, shape.decode origin (shape.write key value d) = .ok next ∧ field.get next = b ∧
      ∀ {k : String} {γ : Type} (other : shape.Field k γ), k ≠ key →
        other.get record ≠ other.get shape.start → other.get next = other.get record := by
  obtain ⟨values, reads⟩ := (decode_eq_ok_iff regular.free origin).mp decodes
  have each := regular.setAll_iff.mp ⟨record, reads.made⟩
  obtain ⟨others, laidOut, members, own, rest⟩ := values?_write regular known value reads.laidOut
  have takes : ∀ v ∈ others, shape.Takes v.1 v.2 := by
    intro v member
    rcases members v member with rfl | old | ⟨before, null⟩
    · exact field.takes_of_read read
    · exact each v old
    · rw [null]
      exact nulls v.1 before
  obtain ⟨next, readsNext⟩ := regular.reads_of_takes laidOut takes
  refine ⟨next, (decode_eq_ok_iff regular.free origin).mpr ⟨_, readsNext⟩, ?_,
    fun other different present => other.get_congr reads readsNext (rest _ different ?_)⟩
  · have holds := field.get_of_reads readsNext
    rw [own] at holds
    exact Except.ok.inj (holds.symm.trans read)
  · intro unset
    have held := other.get_of_reads reads
    rw [unset] at held
    exact present held

end Regular

end Shape

end PhaseTable
