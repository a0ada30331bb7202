/-
# PhaseTable.Proofs.Json.Ordered -- values are read from their documents

The keys of JSON objects ascend strictly (`Json.Ordered`).  The document of such a value has no
break, and the value is read from it as it was (`Document.toJson_ofJson`): a member is put behind
those that came before it, because its key is greater than theirs.
-/
import PhaseTable.Json.Document

namespace PhaseTable

set_option autoImplicit false

/-- Every object lists its members with strictly ascending keys, each key once. -/
inductive Json.Ordered : Json → Prop
  | null : Ordered .null
  | bool (b : Bool) : Ordered (.bool b)
  | number (n : JsonNumber) : Ordered (.number n)
  | str (s : String) : Ordered (.str s)
  | arr {items : List Json} (each : ∀ v ∈ items, v.Ordered) : Ordered (.arr items)
  | obj {members : List (String × Json)} (ascending : members.Pairwise fun x y => x.1 < y.1)
      (each : ∀ m ∈ members, m.2.Ordered) : Ordered (.obj members)

namespace OrderedMap

variable {α : Type}

/-- A key that is greater than all others is put at the end. -/
theorem put_of_greatest {key : String} (value : α) :
    ∀ {entries : List (String × α)}, (∀ entry ∈ entries, entry.1 < key) →
      put key value entries = entries ++ [(key, value)]
  | [], _ => rfl
  | first :: rest, less => by
      have before : first.1 < key := less first List.mem_cons_self
      have different : key ≠ first.1 := fun same => String.lt_irrefl _ (same ▸ before)
      rw [put, if_neg (String.lt_asymm before), if_neg different,
        put_of_greatest value fun entry listed => less entry (List.mem_cons_of_mem _ listed)]
      rfl

end OrderedMap

namespace Document

mutual

/-- **A value is read from its document as it was.** -/
theorem toJson_ofJson : ∀ {v : Json}, v.Ordered → (ofJson v).toJson = .ok v
  | .null, _ | .bool _, _ | .number _, _ | .str _, _ => by rw [ofJson, toJson]
  | .arr items, .arr each => by
      rw [ofJson, toJson, itemsToJson_ofItems each]
      rfl
  | .obj members, .obj ascending each => by
      rw [ofJson, toJson, membersToJson_ofMembers [] ascending each]
      rfl

/-- The items of an array are read one after the other. -/
theorem itemsToJson_ofItems : ∀ {items : List Json}, (∀ v ∈ items, v.Ordered) →
    itemsToJson (ofItems items) = .ok items
  | [], _ => by rw [ofItems, itemsToJson]
  | item :: rest, each => by
      obtain ⟨first, others⟩ := List.forall_mem_cons.mp each
      rw [ofItems, itemsToJson, toJson_ofJson first, itemsToJson_ofItems others]
      rfl

/-- The members of an object are put behind those before them. -/
theorem membersToJson_ofMembers (before : List (String × Json)) :
    ∀ {members : List (String × Json)},
      (before ++ members).Pairwise (fun x y => x.1 < y.1) → (∀ m ∈ members, m.2.Ordered) →
      membersToJson before (ofMembers members) = .ok (before ++ members)
  | [], _, _ => by rw [ofMembers, membersToJson, List.append_nil]
  | (key, value) :: rest, ascending, each => by
      obtain ⟨first, others⟩ := List.forall_mem_cons.mp each
      have less : ∀ m ∈ before, m.1 < key := fun m listed =>
        (List.pairwise_append.mp ascending).2.2 m listed _ List.mem_cons_self
      have put : Json.putMember key value before = before ++ [(key, value)] :=
        OrderedMap.put_of_greatest value less
      rw [List.append_cons] at ascending ⊢
      rw [ofMembers, membersToJson, toJson_ofJson first]
      simp only [bind, Except.bind, put]
      exact membersToJson_ofMembers _ ascending others

end

end Document

end PhaseTable
