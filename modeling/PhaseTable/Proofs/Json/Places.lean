/-
# PhaseTable.Proofs.Json.Places -- documents whose keys stand elsewhere

A key of a document carries the rest of the text, so the documents of two texts differ in every key
before the first place where the texts do.  What a decoder reads does not hang on that
(`Decode.Placeless`), unless it reads a key as a number.  Plain values, lists and records of what is
placeless are placeless too (`Decode.list_unplaced`, `Shape.decode_unplaced`).
-/
import PhaseTable.Json.Decoding

namespace PhaseTable

set_option autoImplicit false

/-- A key without the text behind it. -/
def Key.unplaced (key : Key) : Key :=
  ⟨key.content, []⟩

namespace Document

mutual

/-- A document without the texts behind its keys. -/
def unplaced : Document → Document
  | .array items ending => .array (itemsUnplaced items) ending
  | .object members ending => .object (membersUnplaced members) ending
  | .tooDeep inner => .tooDeep inner.unplaced
  | d => d

def itemsUnplaced : List Document → List Document
  | [] => []
  | item :: rest => item.unplaced :: itemsUnplaced rest

def membersUnplaced : List (Key × Document) → List (Key × Document)
  | [] => []
  | (key, document) :: rest => (key.unplaced, document.unplaced) :: membersUnplaced rest

end

/-- The documents differ in nothing but where their keys stand. -/
def Alike (d other : Document) : Prop :=
  d.unplaced = other.unplaced

theorem itemsUnplaced_eq (items : List Document) : itemsUnplaced items = items.map unplaced := by
  induction items with
  | nil => rfl
  | cons item rest ih => rw [itemsUnplaced, ih, List.map_cons]

mutual

theorem skipFault?_unplaced : ∀ d : Document, d.unplaced.skipFault? = d.skipFault?
  | .array items ending => by
      rw [unplaced, skipFault?, skipFault?, itemsSkipFault?_unplaced items]
  | .object members ending => by
      rw [unplaced, skipFault?, skipFault?, membersSkipFault?_unplaced members]
  | .tooDeep inner => by
      rw [unplaced, skipFault?, skipFault?, skipFault?_unplaced inner]
  | .null | .bool _ | .number _ | .text _ | .broken _ => rfl

theorem itemsSkipFault?_unplaced :
    ∀ items : List Document, itemsSkipFault? (itemsUnplaced items) = itemsSkipFault? items
  | [] => rfl
  | item :: rest => by
      rw [itemsUnplaced, itemsSkipFault?, itemsSkipFault?, skipFault?_unplaced item,
        itemsSkipFault?_unplaced rest]

theorem membersSkipFault?_unplaced : ∀ members : List (Key × Document),
    membersSkipFault? (membersUnplaced members) = membersSkipFault? members
  | [] => rfl
  | (key, document) :: rest => by
      rw [membersUnplaced, membersSkipFault?, membersSkipFault?, skipFault?_unplaced document,
        membersSkipFault?_unplaced rest]

end

mutual

theorem toJson_unplaced : ∀ d : Document, d.unplaced.toJson = d.toJson
  | .array items ending => by
      rw [unplaced, toJson, toJson, itemsToJson_unplaced items]
  | .object members ending => by
      rw [unplaced, toJson, toJson, membersToJson_unplaced [] members]
  | .tooDeep inner => by rw [unplaced, toJson, toJson]
  | .null | .bool _ | .number _ | .text _ | .broken _ => rfl

theorem itemsToJson_unplaced :
    ∀ items : List Document, itemsToJson (itemsUnplaced items) = itemsToJson items
  | [] => rfl
  | item :: rest => by
      rw [itemsUnplaced, itemsToJson, itemsToJson, toJson_unplaced item, itemsToJson_unplaced rest]

theorem membersToJson_unplaced (before : List (String × Json)) :
    ∀ members : List (Key × Document),
      membersToJson before (membersUnplaced members) = membersToJson before members
  | [] => rfl
  | (key, document) :: rest => by
      rw [membersUnplaced, membersToJson, membersToJson, toJson_unplaced document]
      simp only [Key.unplaced, membersToJson_unplaced _ rest]

end

end Document

namespace Decode

variable {α : Type}

/-- What is decoded does not hang on where keys stand. -/
def Placeless (decode : Document → Decoded α) : Prop :=
  ∀ d : Document, decode d.unplaced = decode d

theorem Placeless.congr {decode : Document → Decoded α} (placeless : Placeless decode)
    {d other : Document} (alike : d.Alike other) : decode d = decode other := by
  rw [← placeless d, alike, placeless other]

theorem refuse_unplaced (expected : String) : Placeless (refuse (α := α) · expected) := by
  intro d
  cases d with
  | tooDeep inner => cases inner <;> rfl
  | _ => rfl

theorem text_unplaced : Placeless text := by
  intro d
  cases d with
  | text s => rfl
  | _ => exact refuse_unplaced _ _

theorem bool_unplaced : Placeless bool := by
  intro d
  cases d with
  | bool b => rfl
  | _ => exact refuse_unplaced _ _

theorem integer_unplaced (convert : Int → Option α) (expected : String) :
    Placeless (integer convert expected) := by
  intro d
  cases d with
  | number n => rfl
  | _ => exact refuse_unplaced _ _

theorem anyValue_unplaced : Placeless anyValue := by
  intro d
  rw [anyValue, anyValue, d.toJson_unplaced]

theorem passOver_unplaced : Placeless passOver := by
  intro d
  rw [passOver, passOver, d.skipFault?_unplaced]

section Parts

variable {decode : Document → Decoded α} (each : Placeless decode)
include each

theorem optional_unplaced : Placeless (optional decode) := by
  intro d
  cases d with
  | null => rfl
  | _ => exact congrArg (some <$> ·) (each _)

theorem orNull_unplaced (default : α) : Placeless (orNull default decode) := by
  intro d
  rw [orNull, orNull, optional_unplaced each d]

theorem list_unplaced : Placeless (list decode) := by
  intro d
  cases d with
  | array items ending =>
      have sameItems : (items.map Document.unplaced).mapM decode = items.mapM decode := by
        rw [List.mapM_map]
        exact congrArg (items.mapM ·) (funext each)
      rw [Document.unplaced, Document.itemsUnplaced_eq, list, list, sameItems]
  | tooDeep inner => cases inner <;> rfl
  | _ => exact refuse_unplaced _ _

end Parts

end Decode

/-! ## Records -/

namespace Shape

variable {α : Type} {shape : Shape α}
  (each : ∀ record key, Decode.Placeless (shape.set record key))
include each

theorem setMembers_unplaced (record : α) (seen : List String) (members : List (Key × Document)) :
    shape.setMembers record seen (Document.membersUnplaced members) =
      shape.setMembers record seen members := by
  induction members generalizing record seen with
  | nil => rfl
  | cons member rest ih =>
      obtain ⟨key, document⟩ := member
      have text : Decode.keyText key.unplaced = Decode.keyText key := rfl
      simp only [Document.membersUnplaced, setMembers, text, each _ _ document,
        Decode.passOver_unplaced document, ih]

theorem setItems_unplaced (record : α) (keys : List String) (items : List Document) :
    shape.setItems record keys (items.map Document.unplaced) =
      (fun (result, missing, left) => (result, missing, left.map Document.unplaced)) <$>
        shape.setItems record keys items := by
  induction keys generalizing record items with
  | nil => cases items <;> rfl
  | cons key keys ih =>
      cases items with
      | nil => rfl
      | cons item items =>
          rw [List.map_cons, setItems, setItems, each _ _ item, map_bind]
          exact bind_congr fun next => ih next items

/-- A record is placeless if its values are. -/
theorem decode_unplaced (origin : Origin) : Decode.Placeless (shape.decode origin) := by
  intro d
  cases d with
  | object members ending =>
      rw [Document.unplaced, decode, decode, setMembers_unplaced each]
  | array items ending =>
      rw [Document.unplaced, Document.itemsUnplaced_eq, decode, decode, setItems_unplaced each]
      cases shape.setItems shape.start shape.keys items with
      | error reason => rfl
      | ok result =>
          obtain ⟨record, missing, left⟩ := result
          cases left <;> cases origin <;> simp [Functor.map, Except.map, bind, Except.bind]
  | tooDeep inner => rfl
  | _ => exact Decode.refuse_unplaced _ _

end Shape

end PhaseTable
