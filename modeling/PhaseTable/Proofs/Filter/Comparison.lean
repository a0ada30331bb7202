/-
# PhaseTable.Proofs.Filter.Comparison -- comparisons with values, up to the case of letters

A comparison looks at the first of some values or, for a list, at all of them.  So lists of
values that agree in their first member and in their members up to the case of letters
(`AlikeValues`) give one condition: compared as texts (`RuleOp.sameUpToCase_compareTexts`),
as profiles (`RuleOp.sameUpToCase_compareProfiles`), and as numbers, which they are together
(`AlikeValues.numbers`).

The lists need not agree member by member, since a repeat that is left out of one of them
may be one up to case only in the other.
-/
import PhaseTable.Filter.Condition
import PhaseTable.Proofs.Number.LetterCase
import PhaseTable.Proofs.Predicate

namespace PhaseTable

set_option autoImplicit false

open Text

/-! ## Values -/

/-- The lists of values have the same members up to the case of letters, and begin with the same
one. -/
structure AlikeValues (vs ws : List String) : Prop where
  first : (vs.map foldText).head? = (ws.map foldText).head?
  members : ∀ t, t ∈ vs.map foldText ↔ t ∈ ws.map foldText

namespace AlikeValues

variable {vs ws : List String}

theorem of_map_eq (same : vs.map foldText = ws.map foldText) : AlikeValues vs ws :=
  ⟨by rw [same], by simp only [same, implies_true]⟩

/-- What is true of a member of one list is true of one of the other, if it is blind to case. -/
theorem exists_iff (alike : AlikeValues vs ws) {p q : String → Prop}
    (blind : ∀ v w, foldText v = foldText w → (p v ↔ q w)) :
    (∃ v ∈ vs, p v) ↔ ∃ w ∈ ws, q w := by
  constructor
  · rintro ⟨v, member, true_⟩
    obtain ⟨w, partner, same⟩ :=
      List.mem_map.mp ((alike.members (foldText v)).mp (List.mem_map_of_mem member))
    exact ⟨w, partner, (blind v w same.symm).mp true_⟩
  · rintro ⟨w, member, true_⟩
    obtain ⟨v, partner, same⟩ :=
      List.mem_map.mp ((alike.members (foldText w)).mpr (List.mem_map_of_mem member))
    exact ⟨v, partner, (blind v w same).mpr true_⟩

theorem any_eq (alike : AlikeValues vs ws) {p q : String → Bool}
    (blind : ∀ v w, foldText v = foldText w → p v = q w) : vs.any p = ws.any q := by
  rw [Bool.eq_iff_iff, List.any_eq_true, List.any_eq_true]
  exact alike.exists_iff fun v w same => by rw [blind v w same]

theorem all_eq (alike : AlikeValues vs ws) {p q : String → Bool}
    (blind : ∀ v w, foldText v = foldText w → p v = q w) : vs.all p = ws.all q := by
  rw [List.all_eq_not_any_not, List.all_eq_not_any_not,
    alike.any_eq fun v w same => by rw [blind v w same]]

theorem nil_or_cons (alike : AlikeValues vs ws) :
    vs = [] ∧ ws = [] ∨ ∃ v vs' w ws', vs = v :: vs' ∧ ws = w :: ws' ∧ foldText v = foldText w := by
  have first := alike.first
  cases vs with
  | nil =>
      cases ws with
      | nil => exact .inl ⟨rfl, rfl⟩
      | cons w ws => cases first
  | cons v vs =>
      cases ws with
      | nil => cases first
      | cons w ws => exact .inr ⟨v, vs, w, ws, rfl, rfl, Option.some.inj first⟩

/-- Leaving out repeats keeps the first member, and the members. -/
theorem distinct (same : vs.map foldText = ws.map foldText) :
    AlikeValues (distinct vs) (distinct ws) where
  first := by
    rw [List.head?_map, List.head?_map, head?_distinct, head?_distinct, ← List.head?_map, same,
      List.head?_map]
  members t := by
    have kept : ∀ us : List String, t ∈ (Text.distinct us).map foldText ↔ t ∈ us.map foldText := by
      intro us
      simp only [List.mem_map, mem_distinct]
    rw [kept, kept, same]

theorem distinctNonBlank (same : vs.map foldText = ws.map foldText) :
    AlikeValues (distinctNonBlank vs) (distinctNonBlank ws) := by
  have folded : ∀ us : List String,
      (us.filterMap nonBlank?).map foldText = (us.map foldText).filterMap nonBlank? := by
    intro us
    rw [List.map_filterMap, List.filterMap_map]
    refine List.filterMap_congr fun t _ => ?_
    rw [Function.comp_apply, nonBlank?_foldText]
  exact distinct (by rw [folded, folded, same])

/-- Lists that are written in texts with one folded form. -/
theorem splitValues {s t : String} (same : foldText s = foldText t) :
    AlikeValues (splitValues s) (splitValues t) := by
  have folded : ∀ cs : List Char, ((pieces cs).map String.ofList).map foldText =
      (pieces (fold cs)).map String.ofList := by
    intro cs
    simp only [pieces_fold, List.map_map, Function.comp_def, foldText, String.toList_ofList]
  rw [Text.splitValues, Text.splitValues]
  exact distinctNonBlank (by rw [folded, folded, foldText_inj.mp same])

end AlikeValues

/-! ## Numbers -/

theorem valueNumber?_congr {v w : String} (same : foldText v = foldText w) :
    valueNumber? v = valueNumber? w := by
  rw [valueNumber?, valueNumber?, parseNumber_congr same,
    sameIgnoringAsciiCase_congr same (by decide), sameIgnoringAsciiCase_congr same (by decide)]

theorem mapM_option_eq {α β : Type} (f : α → Option β) (xs : List α) :
    xs.mapM f = if xs.all (f · |>.isSome) then some (xs.filterMap f) else none := by
  induction xs with
  | nil => rfl
  | cons x xs ih =>
      rw [List.mapM_cons, ih]
      cases made : f x with
      | none => simp [made]
      | some y => by_cases rest : xs.all (f · |>.isSome) <;> simp [made, rest]

/-- Alike values are numbers together, and then the same ones. -/
theorem AlikeValues.numbers {v w : String} {vs ws : List String}
    (alike : AlikeValues (v :: vs) (w :: ws)) :
    ((v :: vs).mapM valueNumber? = none ∧ (w :: ws).mapM valueNumber? = none) ∨
      ∃ x xs ys, (v :: vs).mapM valueNumber? = some (x :: xs) ∧
        (w :: ws).mapM valueNumber? = some (x :: ys) ∧ ∀ z, z ∈ x :: xs ↔ z ∈ x :: ys := by
  have first : foldText v = foldText w := Option.some.inj alike.first
  -- what number a text is does not depend on its case, so the lists have the same numbers
  have together : (v :: vs).all (valueNumber? · |>.isSome) =
      (w :: ws).all (valueNumber? · |>.isSome) :=
    alike.all_eq fun _ _ same => by rw [valueNumber?_congr same]
  have same : ∀ z, z ∈ (v :: vs).filterMap valueNumber? ↔ z ∈ (w :: ws).filterMap valueNumber? := by
    intro z
    rw [List.mem_filterMap, List.mem_filterMap]
    exact alike.exists_iff fun _ _ same => by rw [valueNumber?_congr same]
  rw [mapM_option_eq, mapM_option_eq, together]
  by_cases all_ : (w :: ws).all (valueNumber? · |>.isSome) = true
  · rw [if_pos all_, if_pos all_]
    rw [List.all_cons, Bool.and_eq_true] at all_
    obtain ⟨x, number⟩ := Option.isSome_iff_exists.mp all_.1
    rw [List.filterMap_cons_some number,
      List.filterMap_cons_some ((valueNumber?_congr first).trans number)] at same ⊢
    exact .inr ⟨x, _, _, rfl, rfl, same⟩
  · rw [if_neg all_, if_neg all_]
    exact .inl ⟨rfl, rfl⟩

/-! ## Comparisons -/

namespace RuleOp

variable {field other v w : String} {vs ws : List String}

theorem eval_compare {α : Type} (op : RuleOp) (leaf : α → Predicate) (first : α) (others : List α)
    (holds : Comparison → Bool) :
    (op.compare leaf first others).eval holds =
      if op = .in_ then (first :: others).any fun a => (leaf a).eval holds
      else (leaf first).eval holds := by
  rw [compare]
  split
  · rw [Predicate.eval_anyOf, List.any_map]
    rfl
  · rfl

theorem sameUpToCase_compareTexts (names : foldText field = foldText other)
    (alike : AlikeValues (v :: vs) (w :: ws)) (op : RuleOp) :
    (op.compareTexts field v vs).SameUpToCase (op.compareTexts other w ws) := by
  intro holds blind
  have leaf : ∀ t u, foldText t = foldText u →
      (Predicate.compareText (.custom field) op.textOp t).eval holds =
        (Predicate.compareText (.custom other) op.textOp u).eval holds :=
    fun t u same => Predicate.sameUpToCase_compareText names op.textOp same holds blind
  rw [compareTexts, compareTexts, eval_compare, eval_compare, alike.any_eq leaf,
    leaf v w (Option.some.inj alike.first)]

theorem sameUpToCase_compareNumbers (names : foldText field = foldText other) {x : Binary64}
    {xs ys : List Binary64} (members : ∀ z, z ∈ x :: xs ↔ z ∈ x :: ys) (op : RuleOp) :
    (op.compareNumbers field x xs).SameUpToCase (op.compareNumbers other x ys) := by
  intro holds blind
  have leaf : ∀ z, (Predicate.compareNumber (.custom field) op.numberOp z).eval holds =
      (Predicate.compareNumber (.custom other) op.numberOp z).eval holds :=
    fun z => Predicate.sameUpToCase_compareNumber names op.numberOp z holds blind
  rw [compareNumbers, compareNumbers, eval_compare, eval_compare, leaf x]
  split
  · rw [Bool.eq_iff_iff, List.any_eq_true, List.any_eq_true]
    simp only [leaf, members]
  · rfl

/-- The profiles that an object type names are compared with alike values alike. -/
theorem sameUpToCase_compareProfiles (alike : AlikeValues (v :: vs) (w :: ws)) (op : RuleOp)
    (objectType : Option ObjectType) :
    (op.compareProfiles objectType v vs).SameUpToCase (op.compareProfiles objectType w ws) := by
  have each : ∀ field, (op.compareTexts field v vs).SameUpToCase (op.compareTexts field w ws) :=
    fun field => sameUpToCase_compareTexts rfl alike op
  simp only [compareProfiles]
  split
  · exact Predicate.sameUpToCase_allOf each _
  · exact Predicate.sameUpToCase_anyOf each _

end RuleOp

end PhaseTable
