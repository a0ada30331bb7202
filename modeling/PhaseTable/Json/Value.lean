/-
# PhaseTable.Json.Value -- JSON values

A rule clause carries a JSON value of any shape, and every configuration,
selection and snapshot has a JSON form.  Integers and floating point numbers are
kept apart: `1` is an integer and `1.0` is not.  An object lists its members with
ascending keys.
-/
import PhaseTable.Number.Binary64
import PhaseTable.OrderedMap

namespace PhaseTable

set_option autoImplicit false

/-- A JSON number: an integer between `-2 ^ 63` and `2 ^ 64 - 1`, or a finite binary64 value. -/
inductive JsonNumber where
  | int (value : Int)
  | float (value : Binary64)
deriving DecidableEq

inductive Json where
  | null
  | bool (value : Bool)
  | number (value : JsonNumber)
  | str (value : String)
  | arr (items : List Json)
  | obj (members : List (String × Json))

namespace Json

instance : Inhabited Json := ⟨.null⟩

mutual

def decideEq : (a b : Json) → Decidable (a = b)
  | .null, .null => .isTrue rfl
  | .bool a, .bool b => decidable_of_iff (a = b) (by simp)
  | .number a, .number b => decidable_of_iff (a = b) (by simp)
  | .str a, .str b => decidable_of_iff (a = b) (by simp)
  | .arr a, .arr b =>
      have := decideItemsEq a b
      decidable_of_iff (a = b) (by simp)
  | .obj a, .obj b =>
      have := decideMembersEq a b
      decidable_of_iff (a = b) (by simp)
  | .null, .bool _ | .null, .number _ | .null, .str _ | .null, .arr _ | .null, .obj _
  | .bool _, .null | .bool _, .number _ | .bool _, .str _ | .bool _, .arr _ | .bool _, .obj _
  | .number _, .null | .number _, .bool _ | .number _, .str _ | .number _, .arr _
  | .number _, .obj _ | .str _, .null | .str _, .bool _ | .str _, .number _ | .str _, .arr _
  | .str _, .obj _ | .arr _, .null | .arr _, .bool _ | .arr _, .number _ | .arr _, .str _
  | .arr _, .obj _ | .obj _, .null | .obj _, .bool _ | .obj _, .number _ | .obj _, .str _
  | .obj _, .arr _ => .isFalse nofun

def decideItemsEq : (a b : List Json) → Decidable (a = b)
  | [], [] => .isTrue rfl
  | [], _ :: _ => .isFalse nofun
  | _ :: _, [] => .isFalse nofun
  | a :: as, b :: bs =>
      have := decideEq a b
      have := decideItemsEq as bs
      decidable_of_iff (a = b ∧ as = bs) (by simp)

def decideMembersEq : (a b : List (String × Json)) → Decidable (a = b)
  | [], [] => .isTrue rfl
  | [], _ :: _ => .isFalse nofun
  | _ :: _, [] => .isFalse nofun
  | (k, a) :: as, (l, b) :: bs =>
      have := decideEq a b
      have := decideMembersEq as bs
      decidable_of_iff ((k = l ∧ a = b) ∧ as = bs) (by simp)

end

instance : DecidableEq Json := decideEq

def int (i : Int) : Json :=
  .number (.int i)

def texts (items : List String) : Json :=
  .arr (items.map .str)

/-- An object of the members that are present, which are given with ascending keys. -/
def ofMembers (members : List (Option (String × Json))) : Json :=
  .obj (members.filterMap id)

/-- An object of members in any order; of equal keys the last one counts. -/
def ofEntries (entries : List (String × Json)) : Json :=
  .obj (OrderedMap.ofList entries).entries

def unlessEmpty (key text : String) : Option (String × Json) :=
  if text = "" then none else some (key, .str text)

/-- The members with `key` set to `value`, in the order of the keys. -/
def putMember (key : String) (value : Json) (members : List (String × Json)) :
    List (String × Json) :=
  OrderedMap.put key value members

def member? (key : String) : Json → Option Json
  | .obj members => (members.find? (·.1 = key)).map (·.2)
  | _ => none

end Json

end PhaseTable
