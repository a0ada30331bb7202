/-
# PhaseTable.Proofs.Filter.Signature -- what the signature of a filter tells

The signature puts the texts of a filter in a row, with `:` and `|` between them and `,`
between literals.  From a row of texts that do not hold the mark themselves each can be told
again (`IsMark.split`, `IsMark.map_foldText_eq_of_intercalate`), and the case of the letters
is all that is lost.  So filters with one signature are alike if their texts hold no marks
and their clauses do not write an empty literal, which the signature does not tell from a
missing value (`Filter.Separable.alike`).
-/
import PhaseTable.Proofs.Filter.LetterCase

namespace PhaseTable

set_option autoImplicit false

open Text

/-! ## Texts in a row -/

/-- The text is a single character that is no letter. -/
structure IsMark (sep : String) (mark : Char) : Prop where
  toList : sep.toList = [mark]
  kept : KeptByCase (· == mark)

theorem isMark_of_ascii {sep : String} {mark : Char} (single : sep.toList = [mark])
    (other : mark.toNat < 65 ∨ 90 < mark.toNat ∧ mark.toNat < 97 ∨
      122 < mark.toNat ∧ mark.toNat < 128) : IsMark sep mark := by
  refine ⟨single, keptByCase_of_marks ?_⟩
  intro c same
  rwa [eq_of_beq same]

theorem isMark_colon : IsMark ":" ':' :=
  isMark_of_ascii rfl (by decide)

theorem isMark_bar : IsMark "|" '|' :=
  isMark_of_ascii rfl (by decide)

theorem isMark_comma : IsMark "," ',' :=
  isMark_of_ascii rfl (by decide)

theorem append_cons_inj_of_not_mem {α : Type} {mark : α} {xs xs' ys ys' : List α}
    (absent : mark ∉ xs) (absent' : mark ∉ xs') (same : xs ++ mark :: ys = xs' ++ mark :: ys') :
    xs = xs' ∧ ys = ys' := by
  induction xs generalizing xs' with
  | nil =>
      cases xs' with
      | nil => exact ⟨rfl, (List.cons.inj same).2⟩
      | cons x' xs' => exact absurd ((List.cons.inj same).1 ▸ List.mem_cons_self) absent'
  | cons x xs ih =>
      cases xs' with
      | nil => exact absurd ((List.cons.inj same).1 ▸ List.mem_cons_self) absent
      | cons x' xs' =>
          obtain ⟨first, later⟩ := List.cons.inj same
          rw [List.mem_cons, not_or] at absent absent'
          obtain ⟨rest, ends⟩ := ih absent.2 absent'.2 later
          exact ⟨by rw [first, rest], ends⟩

namespace IsMark

variable {sep : String} {mark : Char}

theorem fold_sep (isMark : IsMark sep mark) : fold sep.toList = [mark] := by
  rw [isMark.toList, fold_cons, fold_nil, isMark.kept.same mark (beq_self_eq_true mark),
    List.append_nil]

theorem not_mem_fold (isMark : IsMark sep mark) {s : String} (absent : mark ∉ s.toList) :
    mark ∉ fold s.toList := by
  have others : (fold s.toList).all (!(· == mark) ·) = true := by
    rw [isMark.kept.all_not_fold, List.all_eq_true]
    intro c member
    rw [Bool.not_eq_true', beq_eq_false_iff_ne]
    rintro rfl
    exact absent member
  intro member
  have other := List.all_eq_true.mp others mark member
  simp at other

theorem fold_row (isMark : IsMark sep mark) (s t : String) :
    fold (s ++ (sep ++ t)).toList = fold s.toList ++ mark :: fold t.toList := by
  rw [String.toList_append, String.toList_append, fold_append, fold_append, isMark.fold_sep,
    List.singleton_append]

/-- Two texts with a mark between them that the first does not hold. -/
theorem split (isMark : IsMark sep mark) {s s' t t' : String} (absent : mark ∉ s.toList)
    (absent' : mark ∉ s'.toList)
    (same : foldText (s ++ (sep ++ t)) = foldText (s' ++ (sep ++ t'))) :
    foldText s = foldText s' ∧ foldText t = foldText t' := by
  rw [foldText_inj, isMark.fold_row, isMark.fold_row] at same
  obtain ⟨firsts, lasts⟩ :=
    append_cons_inj_of_not_mem (isMark.not_mem_fold absent) (isMark.not_mem_fold absent') same
  exact ⟨foldText_inj.mpr firsts, foldText_inj.mpr lasts⟩

/-- A text without the mark is no row of several texts. -/
theorem foldText_ne (isMark : IsMark sep mark) {s t u : String} (absent : mark ∉ s.toList) :
    foldText s ≠ foldText (t ++ (sep ++ u)) := by
  intro same
  rw [foldText_inj, isMark.fold_row] at same
  apply isMark.not_mem_fold absent
  rw [same]
  exact List.mem_append_right _ List.mem_cons_self

theorem map_foldText_eq_of_intercalate (isMark : IsMark sep mark) {x y : String}
    {xs ys : List String} (absent : ∀ z ∈ x :: xs, mark ∉ z.toList)
    (absent' : ∀ z ∈ y :: ys, mark ∉ z.toList)
    (same : foldText (sep.intercalate (x :: xs)) = foldText (sep.intercalate (y :: ys))) :
    (x :: xs).map foldText = (y :: ys).map foldText := by
  -- the first text of a row ends at its first mark, so the rows are split one text at a time
  induction xs generalizing x y ys with
  | nil =>
      cases ys with
      | nil =>
          rw [String.intercalate_singleton, String.intercalate_singleton] at same
          rw [List.map_singleton, List.map_singleton, same]
      | cons y' ys =>
          rw [String.intercalate_singleton, String.intercalate_cons_cons, String.append_assoc]
            at same
          exact absurd same (isMark.foldText_ne (absent x List.mem_cons_self))
  | cons x' xs ih =>
      cases ys with
      | nil =>
          rw [String.intercalate_singleton, String.intercalate_cons_cons, String.append_assoc]
            at same
          exact absurd same.symm (isMark.foldText_ne (absent' y List.mem_cons_self))
      | cons y' ys =>
          rw [String.intercalate_cons_cons, String.intercalate_cons_cons, String.append_assoc,
            String.append_assoc] at same
          rw [List.forall_mem_cons] at absent absent'
          obtain ⟨first, later⟩ := isMark.split absent.1 absent'.1 same
          rw [List.map_cons, first, ih absent.2 absent'.2 later, ← List.map_cons]

end IsMark

theorem not_mem_intercalate {c : Char} {sep : String} (other : c ∉ sep.toList) {xs : List String}
    (absent : ∀ x ∈ xs, c ∉ x.toList) : c ∉ (sep.intercalate xs).toList := by
  induction xs with
  | nil => simp
  | cons x xs ih =>
      rw [List.forall_mem_cons] at absent
      by_cases last : xs = []
      · rw [last, String.intercalate_singleton]
        exact absent.1
      · rw [String.intercalate_cons_of_ne_nil last]
        simp only [String.toList_append, List.mem_append, absent.1, other, ih absent.2, or_self,
          not_false_eq_true]

theorem eq_empty_of_intercalate {sep x : String} {xs : List String}
    (empty : sep.intercalate (x :: xs) = "") : x = "" := by
  cases xs with
  | nil => rwa [String.intercalate_singleton] at empty
  | cons x' xs =>
      rw [String.intercalate_cons_cons, String.append_assoc, String.append_eq_empty_iff] at empty
      exact empty.1

/-! ## Literals -/

theorem ne_empty_of_mem_literals {value : Json} {literal : String}
    (member : literal ∈ value.literals) : literal ≠ "" := by
  have text : ∃ t, nonBlank? t = some literal := by
    unfold Json.literals at member
    split at member
    · rw [distinctNonBlank, mem_distinct, List.mem_filterMap] at member
      obtain ⟨t, -, found⟩ := member
      exact ⟨t, found⟩
    · exact ⟨_, Option.mem_toList.mp member⟩
  obtain ⟨t, found⟩ := text
  exact (trimmed_of_nonBlank? found).2

theorem literals_eq_nil {value : Json}
    (empty : foldText (String.intercalate "," value.literals) = "") : value.literals = [] := by
  cases listed : value.literals with
  | nil => rfl
  | cons literal rest =>
      have text : literal ≠ "" := ne_empty_of_mem_literals (listed ▸ List.mem_cons_self)
      rw [listed, foldText_eq_empty_iff] at empty
      exact absurd (eq_empty_of_intercalate empty) text

/-- Literals without commas are told from the row that they are written in. -/
theorem map_foldText_literals {v w : Json}
    (apart : ∀ literal ∈ v.literals, ',' ∉ literal.toList)
    (apart' : ∀ literal ∈ w.literals, ',' ∉ literal.toList)
    (same : foldText (String.intercalate "," v.literals) =
      foldText (String.intercalate "," w.literals)) :
    v.literals.map foldText = w.literals.map foldText := by
  have empty : foldText (String.intercalate "," []) = "" := rfl
  cases left : v.literals with
  | nil =>
      rw [left, empty] at same
      rw [literals_eq_nil same.symm]
  | cons first rest =>
      cases right : w.literals with
      | nil =>
          rw [right, empty] at same
          rw [literals_eq_nil same] at left
          cases left
      | cons first' rest' =>
          rw [left] at same apart
          rw [right] at same apart'
          exact isMark_comma.map_foldText_eq_of_intercalate apart apart' same

/-! ## Clauses -/

/-- The texts of the clause hold no marks, and its value is missing if it has no literals. -/
structure Clause.Separable (c : Clause) : Prop where
  field : ':' ∉ c.field.toList ∧ '|' ∉ c.field.toList
  op : ':' ∉ c.op.toList ∧ '|' ∉ c.op.toList
  literals : ∀ literal ∈ c.value.literals, ',' ∉ literal.toList ∧ '|' ∉ literal.toList
  value : c.value.literals = [] → c.value = .null

namespace Clause.Separable

variable {c d : Clause}

theorem null_iff (separable : c.Separable) : c.value = .null ↔ c.value.literals = [] := by
  constructor
  · intro null
    rw [null]
    decide
  · exact separable.value

theorem alike (separable : c.Separable) (separable' : d.Separable)
    (same : foldText (Filter.clauseSignature (some c)) =
      foldText (Filter.clauseSignature (some d))) : c.Alike d := by
  simp only [Filter.clauseSignature, String.append_assoc] at same
  obtain ⟨fields, later⟩ := isMark_colon.split separable.field.1 separable'.field.1 same
  obtain ⟨ops, rows⟩ := isMark_colon.split separable.op.1 separable'.op.1 later
  have literals : c.value.literals.map foldText = d.value.literals.map foldText :=
    map_foldText_literals (fun literal member => (separable.literals literal member).1)
      (fun literal member => (separable'.literals literal member).1) rows
  refine ⟨fields, ops, ?_, literals⟩
  rw [separable.null_iff, separable'.null_iff, ← List.map_eq_nil_iff (f := foldText), literals,
    List.map_eq_nil_iff]

theorem bar_not_mem (separable : c.Separable) :
    '|' ∉ (Filter.clauseSignature (some c)).toList := by
  have literals : '|' ∉ (String.intercalate "," c.value.literals).toList :=
    not_mem_intercalate (by decide) fun literal member => (separable.literals literal member).2
  have colon : '|' ∉ ":".toList := by decide
  simp only [Filter.clauseSignature, String.toList_append, List.mem_append, separable.field.2,
    separable.op.2, colon, literals, or_self, not_false_eq_true]

end Clause.Separable

/-! ## Rules -/

/-- The clauses of the rule can be told from its signature. -/
def Rule.Separable (r : Rule) : Prop :=
  ∀ branch, ∀ c ∈ r.branch branch, c.Separable

namespace Filter

theorem bar_not_mem_clauseSignature {c? : Option Clause} (separable : ∀ c ∈ c?, c.Separable) :
    '|' ∉ (clauseSignature c?).toList := by
  cases c? with
  | none => decide
  | some c => exact (separable c rfl).bar_not_mem

/-- A clause is not told from a missing one by accident: its signature holds a colon. -/
theorem alike_of_clauseSignature {c? d? : Option Clause} (separable : ∀ c ∈ c?, c.Separable)
    (separable' : ∀ d ∈ d?, d.Separable)
    (same : foldText (clauseSignature c?) = foldText (clauseSignature d?)) :
    Option.Rel Clause.Alike c? d? := by
  have differ : ∀ c, foldText (clauseSignature none) ≠ foldText (clauseSignature (some c)) := by
    intro c
    simp only [clauseSignature, String.append_assoc]
    exact isMark_colon.foldText_ne (by decide)
  cases c? with
  | none =>
      cases d? with
      | none => exact .none
      | some d => exact absurd same (differ d)
  | some c =>
      cases d? with
      | none => exact absurd same.symm (differ c)
      | some d => exact .some ((separable c rfl).alike (separable' d rfl) same)

theorem alike_of_ruleSignature {r? s? : Option Rule} (separable : ∀ r ∈ r?, r.Separable)
    (separable' : ∀ s ∈ s?, s.Separable)
    (same : foldText (ruleSignature r?) = foldText (ruleSignature s?)) :
    Option.Rel Rule.Alike r? s? := by
  have differ : ∀ r, foldText (ruleSignature none) ≠ foldText (ruleSignature (some r)) := by
    intro r
    simp only [ruleSignature, String.append_assoc]
    exact isMark_bar.foldText_ne (by decide)
  cases r? with
  | none =>
      cases s? with
      | none => exact .none
      | some s => exact absurd same (differ s)
  | some r =>
      cases s? with
      | none => exact absurd same.symm (differ r)
      | some s =>
          have clauses := separable r rfl
          have clauses' := separable' s rfl
          simp only [ruleSignature, String.append_assoc] at same
          obtain ⟨onTrue, later⟩ :=
            isMark_bar.split (bar_not_mem_clauseSignature (clauses .onTrue))
              (bar_not_mem_clauseSignature (clauses' .onTrue)) same
          obtain ⟨onFalse, onValue⟩ :=
            isMark_bar.split (bar_not_mem_clauseSignature (clauses .onFalse))
              (bar_not_mem_clauseSignature (clauses' .onFalse)) later
          refine .some fun branch => ?_
          apply alike_of_clauseSignature (clauses branch) (clauses' branch)
          cases branch with
          | onTrue => exact onTrue
          | onFalse => exact onFalse
          | onValue => exact onValue

end Filter

/-! ## Filters -/

theorem ObjectType.parse_foldText_name (type? : Option ObjectType) :
    ObjectType.parse (foldText ((type?.map ObjectType.name).getD "")) = type? := by
  rcases type? with _ | type
  · decide
  · cases type <;> decide

theorem ObjectType.colon_not_mem_name (type? : Option ObjectType) :
    ':' ∉ ((type?.map ObjectType.name).getD "").toList := by
  rcases type? with _ | type
  · decide
  · cases type <;> decide

theorem ValueType.parse_foldText_name (type : ValueType) :
    ValueType.parse (foldText type.name) = some type := by
  cases type <;> decide

theorem ValueType.colon_not_mem_name (type : ValueType) : ':' ∉ type.name.toList := by
  cases type <;> decide

namespace Filter

/-- The texts of the filter can be told from its signature. -/
structure Separable (f : Filter) : Prop where
  targetAttr : ':' ∉ f.targetAttr.toList
  booleanMode : ':' ∉ f.booleanMode.toList
  value : ':' ∉ f.value.toList
  rule : ∀ r ∈ f.rule, r.Separable

variable {f g : Filter}

/-- **Filters that can be told from their signatures are alike if they have one signature.** -/
theorem Separable.alike (separable : f.Separable) (separable' : g.Separable)
    (same : f.signature = g.signature) : f.Alike g := by
  have rows := foldText_eq_of_lowerCase_eq same
  simp only [String.append_assoc] at rows
  obtain ⟨targetTypes, rows⟩ := isMark_colon.split (ObjectType.colon_not_mem_name f.targetType)
    (ObjectType.colon_not_mem_name g.targetType) rows
  obtain ⟨targetAttrs, rows⟩ := isMark_colon.split separable.targetAttr separable'.targetAttr rows
  obtain ⟨modes, rows⟩ := isMark_colon.split separable.booleanMode separable'.booleanMode rows
  obtain ⟨valueTypes, rows⟩ := isMark_colon.split (ValueType.colon_not_mem_name f.valueType)
    (ValueType.colon_not_mem_name g.valueType) rows
  obtain ⟨values, rules⟩ := isMark_colon.split separable.value separable'.value rows
  refine ⟨?_, targetAttrs, modes, ?_, values,
    alike_of_ruleSignature separable.rule separable'.rule rules⟩
  · rw [← ObjectType.parse_foldText_name f.targetType, targetTypes, ObjectType.parse_foldText_name]
  · have parsed := congrArg ValueType.parse valueTypes
    rw [ValueType.parse_foldText_name, ValueType.parse_foldText_name] at parsed
    exact Option.some.inj parsed

end Filter

end PhaseTable
