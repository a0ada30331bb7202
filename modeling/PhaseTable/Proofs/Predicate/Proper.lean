/-
# PhaseTable.Proofs.Predicate.Proper -- trees that ask for something definite

To a query engine an empty disjunction selects nothing and an empty conjunction
everything.  A tree is `Proper` if it has no such group, nor one with a single member, and
if each of its comparisons can be made: of a named field, with a finite number or with a
text that is not blank.
-/
import PhaseTable.Predicate
import PhaseTable.Text.Blank

namespace PhaseTable

set_option autoImplicit false

open Text

/-- The comparison is about a field of the query language, not about the phase, and compares it with
a finite number or with a trimmed text. -/
structure Comparison.Proper (c : Comparison) : Prop where
  field : ∃ name, c.field = .custom name ∧ Trimmed name
  number : ∀ op value, c.test = .number op value → value.isFinite = true
  text : ∀ op value, c.test = .text op value → Trimmed value

namespace Predicate

/-- Every group of the tree has two members or more, and its comparisons are proper. -/
inductive Proper : Predicate → Prop
  | leaf {c : Comparison} (proper : c.Proper) : Proper (.leaf c)
  | and {items : List Predicate} (several : 2 ≤ items.length) (each : ∀ p ∈ items, p.Proper) :
      Proper (.and items)
  | or {items : List Predicate} (several : 2 ≤ items.length) (each : ∀ p ∈ items, p.Proper) :
      Proper (.or items)

theorem proper_compareNumber {field : String} (named : Trimmed field) (op : NumberOp)
    {value : Binary64} (finite : value.isFinite = true) :
    (compareNumber (.custom field) op value).Proper := by
  refine .leaf ⟨⟨field, rfl, named⟩, ?_, ?_⟩
  · rintro _ _ ⟨⟩
    exact finite
  · rintro _ _ ⟨⟩

theorem proper_compareText {field : String} (named : Trimmed field) (op : TextOp)
    {value : String} (trimmed : Trimmed value) :
    (compareText (.custom field) op value).Proper := by
  refine .leaf ⟨⟨field, rfl, named⟩, ?_, ?_⟩
  · rintro _ _ ⟨⟩
  · rintro _ _ ⟨⟩
    exact trimmed

section Groups

variable {items : List Predicate}

/-- A group that is made of some members is proper, since one member makes no group. -/
theorem proper_anyOf (some_ : items ≠ []) (each : ∀ p ∈ items, p.Proper) :
    (anyOf items).Proper := by
  match items with
  | [] => exact absurd rfl some_
  | [item] => exact each item List.mem_cons_self
  | _ :: _ :: _ => exact .or (Nat.le_add_left 2 _) each

theorem proper_allOf (some_ : items ≠ []) (each : ∀ p ∈ items, p.Proper) :
    (allOf items).Proper := by
  match items with
  | [] => exact absurd rfl some_
  | [item] => exact each item List.mem_cons_self
  | _ :: _ :: _ => exact .and (Nat.le_add_left 2 _) each

end Groups

end Predicate

end PhaseTable
