/-
# PhaseTable.Proofs.Filter.Typing -- comparisons with numbers and with texts

A clause compares with all of its values as numbers or with all of them as texts.  A value reads as
a number if it is a finite numeral or a word for true or false (`ReadsAs`), and one value that does
not is enough to make texts of the others (`AllNumbers`).

The operators are of three kinds.  Those that order need numbers, and refuse anything else
(`ReadyClause.compareField_of_ordering`).  Equality compares numbers where the column is not one of
texts (`ReadyClause.compareField_of_numeric`).  The others compare texts.
-/
import PhaseTable.Proofs.Filter.Comparison
import PhaseTable.Proofs.Filter.Denial
import PhaseTable.Proofs.Query.ValueLists

namespace PhaseTable

set_option autoImplicit false

open Text

/-! ## Values that read as numbers -/

/-- The number that a value reads as: that of a finite numeral, or 1 or 0 for a word. -/
inductive ReadsAs (value : String) : Binary64 → Prop where
  | numeral {x : Binary64} (read : readBinary64? (trim value) = some x)
      (finite : x.isFinite = true) : ReadsAs value x
  | true_ (word : sameIgnoringAsciiCase value "true" = true) : ReadsAs value (.ofInt 1)
  | false_ (word : sameIgnoringAsciiCase value "false" = true) : ReadsAs value (.ofInt 0)

def AllNumbers (values : List String) : Prop :=
  ∀ value ∈ values, ∃ x, ReadsAs value x

theorem parseNumber_eq_some_iff {value : String} {x : Binary64} :
    parseNumber value = some x ↔ readBinary64? (trim value) = some x ∧ x.isFinite = true := by
  rw [parseNumber, Option.filter_eq_some_iff]

/-- A word for true or false is no numeral, in whatever case it is written. -/
theorem parseNumber_of_word {value word : String} (trimmed : Trimmed word)
    (unread : readBinary64? word = none) (same : sameIgnoringAsciiCase value word = true) :
    parseNumber value = none := by
  have folded : value.toList.map Char.toLower = word.toList.map Char.toLower :=
    beq_iff_eq.mp same
  have valueUnread : readBinary64? value = none := by
    rw [← String.ofList_toList (s := value), ← readBinary64?_map, folded, readBinary64?_map,
      String.ofList_toList, unread]
  rw [parseNumber, (trimmed.of_sameIgnoringAsciiCase same).1, valueUnread, Option.filter_none]

theorem valueNumber?_eq_some_iff {value : String} {x : Binary64} :
    valueNumber? value = some x ↔ ReadsAs value x := by
  rw [valueNumber?, Option.or_eq_some_iff]
  constructor
  · rintro (numeral | ⟨-, word⟩)
    · obtain ⟨read, finite⟩ := parseNumber_eq_some_iff.mp numeral
      exact .numeral read finite
    · split at word
      · next true_ => exact Option.some.inj word ▸ .true_ true_
      · split at word
        · next false_ => exact Option.some.inj word ▸ .false_ false_
        · cases word
  · rintro (⟨read, finite⟩ | word | word)
    · exact .inl (parseNumber_eq_some_iff.mpr ⟨read, finite⟩)
    · exact .inr ⟨parseNumber_of_word (by decide) (by decide) word, if_pos word⟩
    · have other : ¬ sameIgnoringAsciiCase value "true" = true := by
        rw [sameIgnoringAsciiCase_iff] at word ⊢
        rw [word]
        decide
      refine .inr ⟨parseNumber_of_word (by decide) (by decide) word, ?_⟩
      rw [if_neg other, if_pos word]

/-- Values are read together, or one of them does not read as a number. -/
theorem mapM_valueNumber?_typed (first : String) (others : List String) :
    (∃ x xs, (first :: others).mapM valueNumber? = some (x :: xs) ∧
        List.Forall₂ ReadsAs (first :: others) (x :: xs)) ∨
      (first :: others).mapM valueNumber? = none ∧ ¬ AllNumbers (first :: others) := by
  rcases mapM_valueNumber?_cases first others with none_ | ⟨x, xs, made⟩
  · refine .inr ⟨none_, fun numbers => ?_⟩
    have all_ : (first :: others).all (valueNumber? · |>.isSome) = true := by
      rw [List.all_eq_true]
      intro value listed
      obtain ⟨x, reads⟩ := numbers value listed
      rw [valueNumber?_eq_some_iff.mpr reads, Option.isSome_some]
    rw [mapM_option_eq, if_pos all_] at none_
    cases none_
  · exact .inl ⟨x, xs, made,
      (forall₂_of_mapM made).imp fun _ _ read => valueNumber?_eq_some_iff.mp read⟩

instance (values : List String) : Decidable (AllNumbers values) :=
  decidable_of_iff (∀ value ∈ values, (valueNumber? value).isSome = true) (by
    simp only [Option.isSome_iff_exists, valueNumber?_eq_some_iff]
    rfl)

theorem ValueType.mem_numerics {type : ValueType} :
    type ∈ [.integer, .number, .boolean] ↔ type ≠ .string := by
  cases type <;> decide

theorem allNumbers_of_forall₂ {values : List String} {xs : List Binary64}
    (reads : List.Forall₂ ReadsAs values xs) : AllNumbers values := by
  have each := reads.imp fun value x read => And.intro (⟨x, read⟩ : ∃ x, ReadsAs value x) read
  exact ((List.forall₂_and_left values xs).mp each).1

/-! ## Leaves -/

def Test.isNumber : Test → Bool
  | .number _ _ => true
  | .text _ _ => false

/-- The comparison tests a field for the number that a value reads as. -/
def OnNumber (field : String) (op : NumberOp) (value : String) (leaf : Comparison) : Prop :=
  ∃ x, ReadsAs value x ∧ leaf = ⟨.custom field, .number op x⟩

/-- The comparison tests a field for a value as a text. -/
def OnText (field : String) (op : TextOp) (value : String) (leaf : Comparison) : Prop :=
  leaf = ⟨.custom field, .text op value⟩

/-- The comparison tests a field for a value, as a number or as a text. -/
def Compares (field : String) (number : NumberOp) (text : TextOp) (value : String)
    (leaf : Comparison) : Prop :=
  OnNumber field number value leaf ∨ OnText field text value leaf

theorem Compares.field_eq {field : String} {number : NumberOp} {text : TextOp} {value : String}
    {leaf : Comparison} : Compares field number text value leaf → leaf.field = .custom field
  | .inl ⟨_, _, same⟩ => same ▸ rfl
  | .inr same => same ▸ rfl

theorem compares_of_typed {field : String} {number : NumberOp} {text : TextOp}
    {values : List String} {leaves : List Comparison} {numeric : Prop}
    (typed : numeric ∧ List.Forall₂ (OnNumber field number) values leaves ∨
      ¬ numeric ∧ List.Forall₂ (OnText field text) values leaves) :
    List.Forall₂ (Compares field number text) values leaves := by
  rcases typed with ⟨-, numbers⟩ | ⟨-, texts⟩
  · exact numbers.imp fun _ _ => .inl
  · exact texts.imp fun _ _ => .inr

/-- One comparison has one field. -/
theorem forall_leaf_field {field : Field} {leaf : Comparison} (same : leaf.field = field) :
    ∀ p ∈ some (Predicate.leaf leaf), ∀ each ∈ p.comparisons, each.field = field := by
  rintro _ ⟨⟩ each listed
  exact List.mem_singleton.mp listed ▸ same

/-- What is true of every pair of two lists is true of every member of the second. -/
theorem forall_mem_of_forall₂ {α β : Type} {R : α → β → Prop} {p : β → Prop} {xs : List α}
    {ys : List β} (related : List.Forall₂ R xs ys) (each : ∀ x y, R x y → p y) : ∀ y ∈ ys, p y := by
  have flipped : List.Forall₂ (flip R) ys xs := List.Forall₂.flip related
  have both := flipped.imp fun y x holds => And.intro (each x y holds) holds
  exact ((List.forall₂_and_left ys xs).mp both).1

/-- Leaves for the same values are numbers or texts together. -/
theorem isNumber_iff {field : String} {number : NumberOp} {text : TextOp} {values : List String}
    {leaves : List Comparison} (some_ : values ≠ []) {numeric : Prop}
    (typed : numeric ∧ List.Forall₂ (OnNumber field number) values leaves ∨
      ¬ numeric ∧ List.Forall₂ (OnText field text) values leaves) :
    ((∀ leaf ∈ leaves, leaf.test.isNumber = true) ↔ numeric) ∧
      ((∀ leaf ∈ leaves, leaf.test.isNumber = false) ↔ ¬ numeric) := by
  have clash : leaves ≠ [] → (∀ leaf ∈ leaves, leaf.test.isNumber = true) →
      ¬ ∀ leaf ∈ leaves, leaf.test.isNumber = false := by
    intro filled numbers texts
    obtain ⟨leaf, rest, rfl⟩ := List.exists_cons_of_ne_nil filled
    have both := (numbers leaf List.mem_cons_self).symm.trans (texts leaf List.mem_cons_self)
    cases both
  rcases typed with ⟨holds, tests⟩ | ⟨fails, tests⟩
  · have numbers : ∀ leaf ∈ leaves, leaf.test.isNumber = true :=
      forall_mem_of_forall₂ tests fun _ _ ⟨_, _, same⟩ => same ▸ rfl
    have filled : leaves ≠ [] := by
      rintro rfl
      exact some_ (List.forall₂_nil_right_iff.mp tests)
    exact ⟨iff_of_true numbers holds, iff_of_false (clash filled numbers) (not_not_intro holds)⟩
  · have texts : ∀ leaf ∈ leaves, leaf.test.isNumber = false :=
      forall_mem_of_forall₂ tests fun _ _ same => same ▸ rfl
    have filled : leaves ≠ [] := by
      rintro rfl
      exact some_ (List.forall₂_nil_right_iff.mp tests)
    exact ⟨iff_of_false (clash filled · texts) fails, iff_of_true texts fails⟩

namespace RuleOp

theorem unordered_of_numeric {op : RuleOp} (numeric : op.prefersNumeric = true) :
    op.isOrdering = false := by
  cases op with
  | eq | neq | in_ => rfl
  | _ => cases numeric

theorem mem_orderings {op : RuleOp} : op ∈ [.gt, .gte, .lt, .lte] ↔ op.isOrdering = true := by
  cases op <;> decide

theorem mem_numerics {op : RuleOp} : op ∈ [.eq, .neq, .in_] ↔ op.prefersNumeric = true := by
  cases op <;> decide

/-- The values that an operator looks at: all of a list, or the first one. -/
def compared {α : Type} (op : RuleOp) (values : List α) : List α :=
  if op = .in_ then values else values.take 1

theorem compared_cons_ne_nil {α : Type} (op : RuleOp) (first : α) (others : List α) :
    op.compared (first :: others) ≠ [] := by
  unfold compared
  split <;> exact List.cons_ne_nil _ _

theorem forall₂_compared {α β : Type} {R : α → β → Prop} {xs : List α} {ys : List β} (op : RuleOp)
    (related : List.Forall₂ R xs ys) : List.Forall₂ R (op.compared xs) (op.compared ys) := by
  unfold compared
  split
  · exact related
  · exact List.forall₂_take 1 related

theorem comparisons_compare {α : Type} (op : RuleOp) (test : α → Comparison) (first : α)
    (others : List α) :
    (op.compare (fun a => .leaf (test a)) first others).comparisons =
      (op.compared (first :: others)).map test := by
  rw [compare, compared]
  split
  · rw [Predicate.comparisons_anyOf, List.flatMap_map, List.map_eq_flatMap]
    rfl
  · rfl

theorem onNumber_compareNumbers (op : RuleOp) (field : String) {values : List String} {x : Binary64}
    {xs : List Binary64} (reads : List.Forall₂ ReadsAs values (x :: xs)) :
    List.Forall₂ (OnNumber field op.numberOp) (op.compared values)
      (op.compareNumbers field x xs).comparisons := by
  rw [compareNumbers]
  refine (op.comparisons_compare (fun x => ⟨.custom field, .number op.numberOp x⟩) x xs) ▸ ?_
  rw [List.forall₂_map_right_iff]
  exact (op.forall₂_compared reads).imp fun value x read => ⟨x, read, rfl⟩

theorem onText_compareTexts (op : RuleOp) (field first : String) (others : List String) :
    List.Forall₂ (OnText field op.textOp) (op.compared (first :: others))
      (op.compareTexts field first others).comparisons := by
  rw [compareTexts]
  refine (op.comparisons_compare (fun v => ⟨.custom field, .text op.textOp v⟩) first others) ▸ ?_
  rw [List.forall₂_map_right_iff, List.forall₂_same]
  exact fun value _ => rfl

end RuleOp

/-! ## Three kinds of operators -/

namespace ReadyClause

variable {c : ReadyClause} (type : ValueType) (first : String) (others : List String)

/-- An operator that orders compares with the first of some numbers. -/
theorem compareField_of_ordering (ordering : c.op.isOrdering = true) :
    (AllNumbers (first :: others) ∧ ∃ x, ReadsAs first x ∧ c.compareField type first others =
        .ok (.compareNumber (.custom c.field) c.op.numberOp x)) ∨
      ¬ AllNumbers (first :: others) ∧
        c.compareField type first others = .error (.notNumeric c.field (first :: others)) := by
  have single : c.op ≠ .in_ := by
    intro listed
    rw [listed] at ordering
    cases ordering
  rcases mapM_valueNumber?_typed first others with ⟨x, xs, made, reads⟩ | ⟨made, other⟩
  · obtain ⟨read, -⟩ := List.forall₂_cons.mp reads
    refine .inl ⟨allNumbers_of_forall₂ reads, x, read, ?_⟩
    rw [c.compareField_of_numbers type made, ordering, Bool.true_or, if_pos rfl,
      RuleOp.compareNumbers, RuleOp.compare, if_neg single]
  · refine .inr ⟨other, ?_⟩
    rw [c.compareField_of_texts type made, if_pos ordering]

/-- Equality compares with numbers if the type allows it and all values are numbers. -/
theorem compareField_of_numeric (numeric : c.op.prefersNumeric = true) :
    ∃ p, c.compareField type first others = .ok p ∧
      ((type ≠ .string ∧ AllNumbers (first :: others)) ∧
          List.Forall₂ (OnNumber c.field c.op.numberOp) (c.op.compared (first :: others))
            p.comparisons ∨
        ¬ (type ≠ .string ∧ AllNumbers (first :: others)) ∧
          List.Forall₂ (OnText c.field c.op.textOp) (c.op.compared (first :: others))
            p.comparisons) := by
  have unordered := RuleOp.unordered_of_numeric numeric
  have texts := c.op.onText_compareTexts c.field first others
  rcases mapM_valueNumber?_typed first others with ⟨x, xs, made, reads⟩ | ⟨made, other⟩
  · rw [c.compareField_of_numbers type made, unordered, numeric, Bool.false_or, Bool.true_and]
    by_cases string : type = .string
    · exact ⟨_, if_neg (by simp [string]), .inr ⟨fun both => both.1 string, texts⟩⟩
    · exact ⟨_, if_pos (by simp [string]), .inl ⟨⟨string, allNumbers_of_forall₂ reads⟩,
        c.op.onNumber_compareNumbers c.field reads⟩⟩
  · rw [c.compareField_of_texts type made, unordered]
    exact ⟨_, rfl, .inr ⟨fun both => other both.2, texts⟩⟩

/-- Any other operator compares with the first value as a text. -/
theorem compareField_of_text (unordered : c.op.isOrdering = false)
    (textual : c.op.prefersNumeric = false) :
    c.compareField type first others =
      .ok (.compareText (.custom c.field) c.op.textOp first) := by
  have single : c.op ≠ .in_ := by
    intro listed
    rw [listed] at textual
    cases textual
  have text : c.op.compareTexts c.field first others =
      .compareText (.custom c.field) c.op.textOp first := by
    rw [RuleOp.compareTexts, RuleOp.compare, if_neg single]
  rcases mapM_valueNumber?_cases first others with made | ⟨x, xs, made⟩
  · rw [c.compareField_of_texts type made, unordered, text]
    rfl
  · rw [c.compareField_of_numbers type made, unordered, textual, text]
    rfl

end ReadyClause

/-! ## Filters -/

namespace Filter

variable {f : Filter} {c : ReadyClause} {first : String} {others : List String}

/-- A filter whose rule gives a clause compares the clause's field with the clause's values. -/
theorem build_of_compile (targeted : Text.blank f.targetAttr = false)
    (compiled : f.compile = .ok (some c)) (resolved : c.values f.value = first :: others)
    (phase : Int32) :
    f.build phase =
      Building.settle phase (some <$> c.compareField f.valueType first others) := by
  have ruled : f.rule.isSome = true := by
    rcases f.compile_cases with nothing | ⟨r, -, -, given, -⟩
    · rw [nothing] at compiled
      cases compiled
    · rw [given]
      rfl
  rw [build_eq, condition_of_compile targeted ruled compiled,
    ReadyClause.condition_of_field resolved (scope_of_compile compiled)]

/-- **Typing is all or nothing.**  Take a filter with a target whose rule gives a clause, and let
the clause have values to compare with.  Building the filter never breaks off, and every leaf of
what is built tests the clause's field.

An operator that orders makes one comparison with the first value, which is a number, exactly if all
values read as numbers, and otherwise nothing but one message.  Equality makes comparisons with
numbers only, if the type is not that of texts and all values read as numbers, and with texts only
otherwise; an operator that takes a list makes one equality for each value, in order.  Any other
operator makes one comparison with the first value as a text. -/
theorem build_typed (targeted : Text.blank f.targetAttr = false)
    (compiled : f.compile = .ok (some c)) (resolved : c.values f.value = first :: others)
    (phase : Int32) (said : List String) :
    ∃ made told, (f.build phase).run said = some (made, said ++ told) ∧
      (∀ p ∈ made, ∀ leaf ∈ p.comparisons, leaf.field = .custom c.field) ∧
      (c.op ∈ [.gt, .gte, .lt, .lte] →
        (AllNumbers (first :: others) ↔ ∃ x, ReadsAs first x ∧
          made = some (.compareNumber (.custom c.field) c.op.numberOp x) ∧ told = []) ∧
        (¬ AllNumbers (first :: others) ↔ made = none ∧ ∃ message, told = [message])) ∧
      (c.op ∈ [.eq, .neq, .in_] → told = [] ∧ ∃ p, made = some p ∧
        ((∀ leaf ∈ p.comparisons, leaf.test.isNumber = true) ↔
          f.valueType ∈ [.integer, .number, .boolean] ∧ AllNumbers (first :: others)) ∧
        ((∀ leaf ∈ p.comparisons, leaf.test.isNumber = false) ↔
          ¬ (f.valueType ∈ [.integer, .number, .boolean] ∧ AllNumbers (first :: others))) ∧
        List.Forall₂ (Compares c.field c.op.numberOp c.op.textOp)
          (c.op.compared (first :: others)) p.comparisons ∧
        (c.op = .in_ → List.Forall₂ (Compares c.field .eq .equals) (first :: others)
          p.comparisons)) ∧
      (c.op ∉ [.gt, .gte, .lt, .lte] → c.op ∉ [.eq, .neq, .in_] →
        made = some (.compareText (.custom c.field) c.op.textOp first) ∧ told = []) := by
  simp only [RuleOp.mem_orderings, RuleOp.mem_numerics, ValueType.mem_numerics, Bool.not_eq_true]
  have run : ∀ {result}, c.compareField f.valueType first others = result →
      (f.build phase).run said = (Building.settle phase (some <$> result)).run said := by
    rintro _ rfl
    rw [build_of_compile targeted compiled resolved]
  cases ordering : c.op.isOrdering with
  | true =>
      have textual : c.op.prefersNumeric ≠ true := by
        intro numeric
        rw [RuleOp.unordered_of_numeric numeric] at ordering
        cases ordering
      rcases c.compareField_of_ordering f.valueType first others ordering with
        ⟨numbers, x, read, compared⟩ | ⟨other, refused⟩
      · refine ⟨_, [], (run compared).trans (Building.run_settle_ok ..), ?fields,
          fun _ => ⟨?number, ?nothing⟩, (absurd · textual), nofun⟩
        case fields => exact forall_leaf_field rfl
        case number => exact iff_of_true numbers ⟨x, read, rfl, rfl⟩
        case nothing =>
          exact iff_of_false (not_not_intro numbers) fun both => Option.some_ne_none _ both.1
      · refine ⟨none, _, (run refused).trans (Building.run_settle_error ..), nofun,
          fun _ => ⟨?number, ?nothing⟩, (absurd · textual), nofun⟩
        case number =>
          exact iff_of_false other fun ⟨_, _, made, _⟩ => Option.some_ne_none _ made.symm
        case nothing => exact iff_of_true other ⟨rfl, _, rfl⟩
  | false =>
      cases numeric : c.op.prefersNumeric with
      | true =>
          obtain ⟨p, made, typed⟩ := c.compareField_of_numeric f.valueType first others numeric
          have leaves := compares_of_typed typed
          refine ⟨some p, [], (run made).trans (Building.run_settle_ok ..), ?fields, nofun,
            fun _ => ⟨rfl, p, rfl, ?_⟩, nofun⟩
          case fields =>
            rintro _ ⟨⟩
            exact forall_mem_of_forall₂ leaves fun _ _ => Compares.field_eq
          obtain ⟨numbers, texts⟩ := isNumber_iff (c.op.compared_cons_ne_nil first others) typed
          refine ⟨numbers, texts, leaves, fun listed => ?_⟩
          rw [listed] at leaves
          exact leaves
      | false =>
          have made := c.compareField_of_text f.valueType first others ordering numeric
          refine ⟨_, [], (run made).trans (Building.run_settle_ok ..), ?fields, nofun, nofun,
            fun _ _ => ⟨rfl, rfl⟩⟩
          case fields => exact forall_leaf_field rfl

theorem build_typed_lengths :
    (onLength (.texts ["12", "TRUE", "long"]) "any").compile =
      .ok (some ⟨"LENGTH", .in_, .literals ["12", "TRUE", "long"], .field⟩) ∧
    AllNumbers ["12", "TRUE"] ∧ ¬ AllNumbers ["12", "TRUE", "long"] ∧
    ∃ p, ((onLength (.texts ["12", "TRUE", "long"]) "any").build 4).run ["Ready."] =
        some (some p, ["Ready."]) ∧
      (∀ leaf ∈ p.comparisons, leaf.test.isNumber = false) ∧
      List.Forall₂ (Compares "LENGTH" .eq .equals) ["12", "TRUE", "long"] p.comparisons := by
  have compiled : (onLength (.texts ["12", "TRUE", "long"]) "any").compile =
      .ok (some ⟨"LENGTH", .in_, .literals ["12", "TRUE", "long"], .field⟩) := by decide
  have mixed : ¬ AllNumbers ["12", "TRUE", "long"] := by decide +kernel
  obtain ⟨_, _, run, -, -, equality, -⟩ :=
    build_typed (by decide) compiled (by decide : _ = "12" :: ["TRUE", "long"]) 4 ["Ready."]
  obtain ⟨rfl, p, rfl, -, texts, -, listed⟩ := equality (by decide)
  exact ⟨compiled, by decide +kernel, mixed, p, run, texts.mpr fun both => mixed both.2, listed rfl⟩

end Filter

end PhaseTable
