/-
# PhaseTable.OrderedMap -- finite maps that list their keys in order

Cells of a row, attributes of an object and object counts are maps whose keys are
listed ascending: texts by code point, phase numbers by size.  The order is part of
the type, so a map has one term, and what is listed first is the least key.

`OrderedMap.gather` puts the members of a list in groups by their keys.
`OrderedMap.lookup` is the look-up of column keys and attribute sources: the exact
key, or else the first key that equals it up to the case of ASCII letters.
-/
import PhaseTable.Text.LowerCase

namespace PhaseTable

set_option autoImplicit false

/-- A strict order of keys in which any two different keys are comparable. -/
class KeyOrder (κ : Type) [LT κ] : Prop where
  trans : ∀ {a b c : κ}, a < b → b < c → a < c
  connected : ∀ {a b : κ}, ¬a < b → a ≠ b → b < a

instance : KeyOrder String where
  trans := String.lt_trans
  connected := fun h hne =>
    Decidable.byContradiction fun h' =>
      hne (String.le_antisymm (String.not_lt.mp h') (String.not_lt.mp h))

instance : KeyOrder Int32 where
  trans := Int32.lt_trans
  connected := fun h hne => Int32.lt_of_le_of_ne (Int32.not_lt.mp h) (Ne.symm hne)

/-- Entries with strictly ascending keys. -/
structure OrderedMap (κ α : Type) [LT κ] where
  entries : List (κ × α)
  ascending : entries.Pairwise fun x y => x.1 < y.1
deriving DecidableEq

namespace OrderedMap

variable {κ α : Type} [LT κ] [DecidableLT κ] [DecidableEq κ]

instance : EmptyCollection (OrderedMap κ α) := ⟨⟨[], .nil⟩⟩

instance : Inhabited (OrderedMap κ α) := ⟨∅⟩

/-- The entries with `key` set to `value`, at its place in the order. -/
def put (key : κ) (value : α) : List (κ × α) → List (κ × α)
  | [] => [(key, value)]
  | entry :: rest =>
      if key < entry.1 then (key, value) :: entry :: rest
      else if key = entry.1 then (key, value) :: rest
      else entry :: put key value rest

omit [DecidableEq κ] in
theorem mem_put [DecidableEq κ] {key : κ} {value : α} {entry : κ × α} :
    ∀ {entries : List (κ × α)}, entry ∈ put key value entries →
      entry = (key, value) ∨ entry ∈ entries
  | [], h => by simpa [put] using h
  | first :: rest, h => by
      rw [put] at h
      split at h
      · simpa using h
      · split at h
        · rcases List.mem_cons.mp h with h | h
          · exact .inl h
          · exact .inr (List.mem_cons_of_mem _ h)
        · rcases List.mem_cons.mp h with h | h
          · exact .inr (h ▸ List.mem_cons_self)
          · exact (mem_put h).imp_right (List.mem_cons_of_mem _)

theorem ascending_put [KeyOrder κ] (key : κ) (value : α) :
    ∀ {entries : List (κ × α)}, entries.Pairwise (fun x y => x.1 < y.1) →
      (put key value entries).Pairwise fun x y => x.1 < y.1
  | [], _ => by simp [put]
  | first :: rest, h => by
      obtain ⟨hfirst, hrest⟩ := List.pairwise_cons.mp h
      rw [put]
      split
      · next hlt =>
        refine List.pairwise_cons.mpr ⟨fun x hx => ?_, h⟩
        rcases List.mem_cons.mp hx with rfl | hx
        · exact hlt
        · exact KeyOrder.trans hlt (hfirst x hx)
      · next hlt =>
        split
        · next heq => exact List.pairwise_cons.mpr ⟨fun x hx => heq ▸ hfirst x hx, hrest⟩
        · next hne =>
          refine List.pairwise_cons.mpr ⟨fun x hx => ?_, ascending_put key value hrest⟩
          rcases mem_put hx with rfl | hx
          · exact KeyOrder.connected hlt hne
          · exact hfirst x hx

def insert [KeyOrder κ] (m : OrderedMap κ α) (key : κ) (value : α) : OrderedMap κ α :=
  ⟨put key value m.entries, ascending_put key value m.ascending⟩

/-- The map of a list of entries; of equal keys the last one counts. -/
def ofList [KeyOrder κ] (entries : List (κ × α)) : OrderedMap κ α :=
  entries.foldl (fun m entry => m.insert entry.1 entry.2) ∅

def get? (m : OrderedMap κ α) (key : κ) : Option α :=
  (m.entries.find? (·.1 = key)).map (·.2)

omit [DecidableLT κ] [DecidableEq κ] in
def keys (m : OrderedMap κ α) : List κ :=
  m.entries.map (·.1)

/-- The different keys in a list, ascending. -/
def keysOf [KeyOrder κ] (keys : List κ) : List κ :=
  (ofList (keys.map (·, ()))).keys

/-- The values that the members of a list have under their keys; the lists of members with one key
are joined. -/
def gather [KeyOrder κ] {β : Type} (key : β → κ) (values : β → List α) (xs : List β) :
    OrderedMap κ (List α) :=
  xs.foldl (fun m x => m.insert (key x) ((m.get? (key x)).getD [] ++ values x)) ∅

/-- The value of a key, or else of the first key that differs from it in ASCII case only. -/
def lookup {α : Type} (m : OrderedMap String α) (key : String) : Option α :=
  (m.get? key).or
    ((m.entries.find? fun entry => Text.sameIgnoringAsciiCase entry.1 key).map (·.2))

end OrderedMap

end PhaseTable
