/-
# PhaseTable.Proofs.Query.ValueLists -- one list of values, given in three ways

A clause with the operator `in` takes a list of values.  The list can be the value of the clause,
it can be written as one text in the clause, or it is the input of the user (`GivesValues`).  Each
way comes to the query by a road of its own, but the values that are compared with are the same
(`GivesValues.exists_ready`).  So is what is made of them: one equality for each value, all with
numbers or all with texts (`equalities`).
-/
import PhaseTable.Proofs.Query.TypedNumbers

namespace PhaseTable

set_option autoImplicit false

open Text

/-! ## Equalities -/

/-- What equality with some values tests: equality with numbers on a column that is not of texts, if
every value is a number, and equality with texts otherwise. -/
def equalityTests (type : ValueType) (values : List String) : List Test :=
  match if type = .string then none else values.mapM valueNumber? with
  | some numbers => numbers.map (.number .eq)
  | none => values.map (.text .equals)

/-- The equalities of a field with some values. -/
def equalities (type : ValueType) (field : String) (values : List String) : List Comparison :=
  (equalityTests type values).map fun test => ⟨.custom field, test⟩

/-- The comparison is that of a field for equality with a value, as a text or as a number. -/
def Equates (field value : String) (c : Comparison) : Prop :=
  c.field = .custom field ∧
    (c.test = .text .equals value ∨
      ∃ x, valueNumber? value = some x ∧ c.test = .number .eq x)

theorem forall₂_of_mapM {α β : Type} {f : α → Option β} {xs : List α} {ys : List β}
    (made : xs.mapM f = some ys) : List.Forall₂ (fun x y => f x = some y) xs ys := by
  induction xs generalizing ys with
  | nil =>
      cases made
      exact .nil
  | cons x xs ih =>
      rw [List.mapM_cons] at made
      obtain ⟨y, first, made⟩ := Option.bind_eq_some_iff.mp made
      obtain ⟨rest, later, made⟩ := Option.bind_eq_some_iff.mp made
      cases made
      exact .cons first (ih later)

/-- There is one equality for each value, in the order of the values. -/
theorem forall₂_equalities (type : ValueType) (field : String) (values : List String) :
    List.Forall₂ (Equates field) values (equalities type field values) := by
  unfold equalities equalityTests
  rw [List.forall₂_map_right_iff]
  split
  · next numbers made =>
    rw [List.forall₂_map_right_iff]
    split at made
    · cases made
    · exact (forall₂_of_mapM made).imp fun value x read => ⟨rfl, .inr ⟨x, read, rfl⟩⟩
  · rw [List.forall₂_map_right_iff, List.forall₂_same]
    exact fun value _ => ⟨rfl, .inl rfl⟩

/-! ## Clauses -/

namespace ReadyClause

variable {c : ReadyClause}

/-- A clause that takes a list compares its field for equality with each of the values. -/
theorem compareField_of_in (listed : c.op = .in_) (type : ValueType) (first : String)
    (others : List String) :
    c.compareField type first others =
      .ok (.anyOf ((equalities type c.field (first :: others)).map .leaf)) := by
  have texts : c.op.compareTexts c.field first others =
      .anyOf (((first :: others).map (Test.text .equals)).map
        fun test => .leaf ⟨.custom c.field, test⟩) := by
    rw [RuleOp.compareTexts, RuleOp.compare, if_pos listed, listed, List.map_map]
    rfl
  have numbers (x : Binary64) (xs : List Binary64) : c.op.compareNumbers c.field x xs =
      .anyOf (((x :: xs).map (Test.number .eq)).map
        fun test => .leaf ⟨.custom c.field, test⟩) := by
    rw [RuleOp.compareNumbers, RuleOp.compare, if_pos listed, listed, List.map_map]
    rfl
  have unordered : c.op.isOrdering = false := by rw [listed]; rfl
  have numeric : c.op.prefersNumeric = true := by rw [listed]; rfl
  rw [equalities, equalityTests, List.map_map]
  rcases mapM_valueNumber?_cases first others with made | ⟨x, xs, made⟩
  · rw [c.compareField_of_texts type made, made, ite_self, unordered, texts]
    rfl
  · rw [c.compareField_of_numbers type made, made, unordered, numeric]
    by_cases string : type = .string
    · rw [if_pos string, texts]
      simp [string, Function.comp_def]
    · rw [if_neg string, numbers]
      simp [string, Function.comp_def]

theorem condition_of_in (listed : c.op = .in_) (scope : c.scope = .field) {input : String}
    {values : List String} (some_ : values ≠ []) (taken : c.values input = values)
    (type : ValueType) :
    c.condition type input = .ok (.anyOf ((equalities type c.field values).map .leaf)) := by
  obtain ⟨first, others, rfl⟩ := List.exists_cons_of_ne_nil some_
  unfold condition
  rw [taken, scope]
  exact compareField_of_in listed type first others

end ReadyClause

/-! ## Three ways to give values -/

/-- The value of a clause and the input give a list of values: the value is the list, it is a text
that the list is written in, or there is no value and the input is such a text.  A clause with a
value is taken for any input that is not blank. -/
inductive GivesValues (values : List String) : Json → String → Prop where
  | list {input : String} (given : Text.blank input = false) :
      GivesValues values (.texts values) input
  | text {joined input : String} (written : Joined values joined.toList)
      (given : Text.blank input = false) : GivesValues values (.str joined) input
  | input {joined : String} (written : Joined values joined.toList) :
      GivesValues values .null joined

theorem not_blank_of_joined {values : List String} {s : String} (written : Joined values s.toList)
    (listable : ∀ v ∈ values, Listable v) (some_ : values ≠ []) : Text.blank s = false := by
  cases given : Text.blank s with
  | false => rfl
  | true =>
      have read := written.readPieces listable
      rw [Text.blank, List.all_eq_true] at given
      have nothing := readPieces_append_blanks given []
      rw [List.nil_append] at nothing
      rw [nothing] at read
      exact absurd read.symm some_

namespace GivesValues

variable {values : List String} {value : Json} {input : String}

theorem not_blank (gives : GivesValues values value input)
    (listable : ∀ v ∈ values, Listable v) (some_ : values ≠ []) : Text.blank input = false := by
  cases gives with
  | list given => exact given
  | text written given => exact given
  | input written => exact not_blank_of_joined written listable some_

/-- However the values are given, a clause that takes a list compares with them. -/
theorem exists_ready {c : Clause} (gives : GivesValues values c.value input)
    (listable : ∀ v ∈ values, Listable v) (some_ : values ≠ []) (nodup : values.Nodup)
    (named : RuleOp.parse c.op = some .in_) {targetAttr : String}
    (targeted : Text.blank targetAttr = false) :
    ∃ operand, c.ready targetAttr = .ok ⟨c.fieldFor targetAttr, .in_, operand, .field⟩ ∧
      ReadyClause.values ⟨c.fieldFor targetAttr, .in_, operand, .field⟩ input = values := by
  rw [Clause.ready_of_targeted named targeted]
  generalize c.fieldFor targetAttr = field
  generalize c.value = value at gives ⊢
  cases gives with
  | list given =>
      have literals : (Json.texts values).literals = values := by
        have texts : (values.map Json.str).map Json.invariantText = values := by
          rw [List.map_map]
          exact List.map_id values
        rw [Json.texts, Json.literals, texts, distinctNonBlank_of_listable listable nodup]
      refine ⟨.literals values, ?_, ?_⟩
      · rw [if_neg (by simp [Json.texts]), literals, if_neg some_]
      · -- a list of one value is read as a text that the list is written in
        cases values with
        | nil => exact absurd rfl some_
        | cons first others =>
            cases others with
            | nil => exact (listable first List.mem_cons_self).splitValues
            | cons second others => exact distinctNonBlank_of_listable listable nodup
  | @text joined _ written given =>
      have literals : (Json.str joined).literals = [trim joined] := by
        show (nonBlank? joined).toList = [trim joined]
        rw [nonBlank?_of_not_blank (not_blank_of_joined written listable some_), Option.toList_some]
      refine ⟨.literals [trim joined], ?_, ?_⟩
      · rw [if_neg (by simp), literals, if_neg (List.cons_ne_nil _ _)]
      · show splitValues (trim joined) = values
        rw [splitValues_trim, splitValues_of_joined written listable nodup]
  | input written =>
      refine ⟨.input, if_pos rfl, ?_⟩
      exact splitValues_of_joined written listable nodup

end GivesValues

/-! ## Filters -/

/-- **Three ways to give a list of values are one.**  Take a filter with a target, of a type that is
not Boolean, and with a rule whose clause for values has the operator `in`.  Let the clause and the
value of the filter give a list of trimmed values without separators that differ from each other.
Building the filter adds no message and makes a tree that depends on the list only, not on the way
in which it is given: the clause's field is to equal one of the values, with one equality for each
value, in order. -/
theorem Filter.build_listed {f : Filter} {r : Rule} {c : Clause} {values : List String}
    (targeted : Text.blank f.targetAttr = false) (type : f.valueType ≠ .boolean)
    (ruled : f.rule = some r) (branch : r.onValue = some c)
    (named : RuleOp.parse c.op = some .in_) (gives : GivesValues values c.value f.value)
    (some_ : values ≠ []) (nodup : values.Nodup) (listable : ∀ v ∈ values, Listable v) :
    (∀ phase said, (f.build phase).run said =
      some (some (.anyOf ((equalities f.valueType (c.fieldFor f.targetAttr) values).map .leaf)),
        said)) ∧
      List.Forall₂ (Equates (c.fieldFor f.targetAttr)) values
        (equalities f.valueType (c.fieldFor f.targetAttr) values) := by
  refine ⟨fun phase said => ?_, forall₂_equalities _ _ _⟩
  obtain ⟨operand, ready, taken⟩ := gives.exists_ready listable some_ nodup named targeted
  have given := gives.not_blank listable some_
  have compiled := compile_of_onValue type ruled branch given ready
  have hasRule : f.rule.isSome = true := by rw [ruled]; rfl
  rw [build_eq, condition_of_compile targeted hasRule compiled,
    ReadyClause.condition_of_in rfl rfl some_ taken]
  rfl

def Filter.onLength (value : Json) (input : String) : Filter :=
  ⟨some .part, "LENGTH", "", some ⟨none, none, some ⟨"", "in", value⟩⟩, .integer, input⟩

def twoLengths : Predicate :=
  .or [.compareNumber (.custom "LENGTH") .eq (.ofInt 12),
    .compareNumber (.custom "LENGTH") .eq (.ofInt 7)]

theorem Filter.build_listed_lengths :
    (∀ phase said, ((onLength (.texts ["12", "7"]) "any").build phase).run said =
      some (some twoLengths, said)) ∧
    (∀ phase said, ((onLength (.str " 12;7") "any").build phase).run said =
      some (some twoLengths, said)) ∧
    (∀ phase said, ((onLength .null "12 , 7 ").build phase).run said =
      some (some twoLengths, said)) := by
  have space : ∀ c ∈ [' '], isBlank c = true := List.forall_mem_singleton.mpr rfl
  have tight : Joined ["12", "7"] ([' ', '1', '2'] ++ ';' :: ['7']) :=
    .cons ⟨[' '], [], space, nofun, rfl⟩ rfl (.last (.refl _))
  have loose : Joined ["12", "7"] (['1', '2', ' '] ++ ',' :: [' ', '7', ' ']) :=
    .cons ⟨[], [' '], nofun, space, rfl⟩ rfl (.last ⟨[' '], [' '], space, space, rfl⟩)
  have listable : ∀ v ∈ ["12", "7"], Listable v := by decide
  have tree : Predicate.anyOf ((equalities .integer "LENGTH" ["12", "7"]).map .leaf) =
      twoLengths := by decide +kernel
  refine ⟨fun phase said => ?_, fun phase said => ?_, fun phase said => ?_⟩
  · rw [← tree]
    exact (build_listed (f := onLength (.texts ["12", "7"]) "any") rfl (by decide) rfl rfl rfl
      (.list rfl) (by decide) (by decide) listable).1 phase said
  · rw [← tree]
    exact (build_listed (f := onLength (.str " 12;7") "any") rfl (by decide) rfl rfl rfl
      (.text tight rfl) (by decide) (by decide) listable).1 phase said
  · rw [← tree]
    exact (build_listed (f := onLength .null "12 , 7 ") rfl (by decide) rfl rfl rfl
      (.input loose) (by decide) (by decide) listable).1 phase said

end PhaseTable
