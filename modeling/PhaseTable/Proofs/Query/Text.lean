/-
# PhaseTable.Proofs.Query.Text -- a query can be told from its text

The two upper levels of a query can be groups with one member, whose text does not tell their
kind, but they are the same in every query: a disjunction of conjunctions.  The first member of
each conjunction is the test for the number of its phase, so a custom field with the name of the
phase is told from it by its place.  What is below are the conditions of filters, which are proper
trees.  So queries with one text are equal (`Query.same_of_text`).
-/
import PhaseTable.Proofs.Filter.Proper
import PhaseTable.Proofs.Predicate.Text
import PhaseTable.Proofs.Query.Groups

namespace PhaseTable

set_option autoImplicit false

open Predicate

namespace Criteria

theorem phaseTest_told (m n : Int32) : (phaseTest m).Told (phaseTest n) := by
  have finite : ∀ n : Int32, (Test.number .eq (.ofInt n.toInt)).Finite := by
    rintro n _ _ ⟨⟩
    exact Binary64.isFinite_ofInt (Binary64.natAbs_int32_lt n)
  intro rest rest' follows follows' texts
  rw [phaseTest, phaseTest, compareNumber, compareNumber, text, text] at texts
  rw [phaseTest, phaseTest, compareNumber, compareNumber, same]
  exact Comparison.told rfl rfl (finite m) (finite n) (fun _ => by rfl) follows follows'
    texts

variable {c d : Criteria}

theorem plainNames_of_group (plain : c.group.PlainNames) :
    ∀ p ∈ c.filters.filterMap Filter.condition?, p.PlainNames := fun _ listed =>
  .of_mem plain (List.mem_cons_of_mem _ listed)

theorem proper_of_mem {p : Predicate} (listed : p ∈ c.filters.filterMap Filter.condition?) :
    p.Proper := by
  obtain ⟨f, -, made⟩ := List.mem_filterMap.mp listed
  exact Filter.proper_of_condition (Filter.condition?_eq_some_iff.mp made)

/-- The groups of phases are told apart, also those of a single member. -/
theorem group_told (plain : c.group.PlainNames) (plain' : d.group.PlainNames) :
    c.group.Told d.group := by
  intro rest rest' _ _ texts
  have conditions : ∀ p ∈ c.filters.filterMap Filter.condition?,
      ∀ q ∈ d.filters.filterMap Filter.condition?, p.Told q := fun p listed q listed' =>
    told_of_proper (proper_of_mem listed) (plainNames_of_group plain p listed) q
      (proper_of_mem listed') (plainNames_of_group plain' q listed')
  have kind : ∀ c : Criteria, Group " AND " _ c.group := fun _ => .and rfl
  simp only [(kind c).toList_text, (kind d).toList_text, List.cons_append, List.append_assoc,
    List.nil_append, List.cons.injEq, true_and] at texts
  obtain ⟨equal, -, rests⟩ := items_told (kind c).listed (kind d).listed
    (phaseTest_told c.phase d.phase) conditions texts
  exact ⟨((kind c).same_eq (kind d)).trans equal, rests⟩

end Criteria

namespace Query

theorem same_of_groups {cs ds : List Criteria} (plain : (or (cs.map Criteria.group)).PlainNames)
    (plain' : (or (ds.map Criteria.group)).PlainNames)
    (texts : (or (cs.map Criteria.group)).text = (or (ds.map Criteria.group)).text) :
    (or (cs.map Criteria.group)).same (or (ds.map Criteria.group)) = true := by
  have told : ∀ c ∈ cs, ∀ d ∈ ds, c.group.Told d.group := fun c listed d listed' =>
    Criteria.group_told (.of_mem plain (List.mem_map_of_mem listed))
      (.of_mem plain' (List.mem_map_of_mem listed'))
  have kind : ∀ items, Group " OR " items (.or items) := fun _ => .or rfl
  have chars := congrArg String.toList texts
  rw [(kind _).toList_text, (kind _).toList_text, List.cons.injEq] at chars
  -- A query without a group is closed where another one opens its first group.
  have opens : ∀ (c : Criteria) (rest : List Criteria),
      (textsWith " OR " ((c :: rest).map Criteria.group)).toList ++ [')'] ≠ [')'] := by
    intro c rest same
    have first : Group " AND " _ c.group := .and rfl
    rw [List.map_cons, toList_textsWith, first.toList_text] at same
    cases (List.cons.inj same).1
  cases cs with
  | nil =>
      cases ds with
      | nil => rfl
      | cons d ds => exact absurd chars.2.symm (opens d ds)
  | cons c cs =>
      cases ds with
      | nil => exact absurd chars.2 (opens c cs)
      | cons d ds =>
          rw [(kind _).same_eq (kind _)]
          have first : c.group.Told d.group := told c List.mem_cons_self d List.mem_cons_self
          refine (items_told (kind []).listed (kind []).listed first ?_ chars.2).1
          intro p listed q listed'
          obtain ⟨c', member, rfl⟩ := List.mem_map.mp listed
          obtain ⟨d', member', rfl⟩ := List.mem_map.mp listed'
          exact told c' (List.mem_cons_of_mem _ member) d' (List.mem_cons_of_mem _ member')

/-- **A query can be told from its text.**  If the custom fields of the queries for two selections
are made of ASCII letters, digits, underscores and points, and the queries have one text, then they
are equal, but for the sign of zero. -/
theorem same_of_text {s t : List Criteria} (plain : (ofSelection s).predicate.PlainNames)
    (plain_ : (ofSelection t).predicate.PlainNames)
    (texts : (ofSelection s).predicate.text = (ofSelection t).predicate.text) :
    (ofSelection s).predicate.same (ofSelection t).predicate = true :=
  same_of_groups plain plain_ texts

/-- Two phases.  The filters of one of them ask for a field that has the name of the phase, with
zero among its numbers, and for texts that look like a part of a query. -/
def misleading (zero_ : String) : List Criteria :=
  [⟨3, [
      { Filter.blank with
        targetAttr := "PHASE", valueType := .number, value := zero_ ++ "; 0.1"
        rule := some ⟨none, none, some ⟨"", "in", .null⟩⟩ },
      { Filter.blank with
        targetType := some .part, targetAttr := "NAME", value := "a' OR (PHASE = 3; b) AND 'c" }]⟩,
    ⟨1, []⟩]

example : (ofSelection (misleading "-0")).predicate.text =
    "((PHASE = 1) OR (PHASE = 3 AND (PHASE = 0 OR PHASE = 0.1) AND " ++
      "(NAME = 'a'' OR (PHASE = 3' OR NAME = 'b) AND ''c')))" := by
  decide +kernel

theorem same_misleading :
    (ofSelection (misleading "0")).predicate ≠ (ofSelection (misleading "-0")).predicate ∧
      (ofSelection (misleading "0")).predicate.same (ofSelection (misleading "-0")).predicate :=
  ⟨by decide +kernel, same_of_text (by decide +kernel) (by decide +kernel) (by decide +kernel)⟩

end Query

end PhaseTable
