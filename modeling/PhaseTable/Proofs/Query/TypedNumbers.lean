/-
# PhaseTable.Proofs.Query.TypedNumbers -- a number that is typed is compared as that number

Text is the carrier between a cell and the query.  A numeric column writes the value of its cell as
a text that is read back as the number (`Column.plainNumber_of_filterValue?`), and such a text is
one value to every operator: it has no blank ends and no separator (`PlainNumber.values`).  So a
clause without a value of its own, with an operator that compares numbers, becomes one comparison
with the number (`ReadyClause.condition_of_plainNumber`).
-/
import PhaseTable.Proofs.Cell.TextForm
import PhaseTable.Proofs.Config.FixedPoint
import PhaseTable.Proofs.Filter.Clause
import PhaseTable.Proofs.Query.Building
import PhaseTable.Proofs.Selection

namespace PhaseTable

set_option autoImplicit false

open Text

/-! ## Texts of numbers -/

/-- The text is that of one number: it has no blank ends and no separators. -/
structure PlainNumber (value : String) (x : Binary64) : Prop where
  trimmed : Trimmed value
  single : ∀ c ∈ value.toList, isSeparator c = false
  read : parseNumber value = some x

namespace PlainNumber

theorem intText (i : Int64) : PlainNumber (intText i.toInt) (.ofInt i.toInt) where
  trimmed := (listable_intText i.toInt).1
  single := (listable_intText i.toInt).2
  read := Binary64.parseNumber_int64Text i

theorem formatNumber {x : Binary64} (finite : x.isFinite = true) :
    ∃ y, PlainNumber (formatNumber x) y ∧ y.same x = true := by
  refine ⟨x.unsigned, ?_, Binary64.same_unsigned finite⟩
  obtain ⟨trimmed, single⟩ := x.listable_formatNumber
  exact ⟨trimmed, single, Binary64.parseNumber_formatNumber finite⟩

variable {value : String} {x : Binary64}

theorem splitValues (plain : PlainNumber value x) : splitValues value = [value] :=
  Listable.splitValues ⟨plain.trimmed, plain.single⟩

/-- The text is one value to every operator. -/
theorem values (plain : PlainNumber value x) {c : ReadyClause} (bare : c.operand = .input) :
    c.values value = [value] := by
  unfold ReadyClause.values
  rw [bare]
  split
  · next taken _ => cases taken
  · next taken _ => cases taken
  · exact plain.splitValues
  · rw [plain.trimmed.nonBlank?, Option.toList_some]

end PlainNumber

/-! ## Clauses -/

/-- The comparison of numbers that each operator stands for, where it stands for one. -/
def numberTests : List (RuleOp × NumberOp) :=
  [(.eq, .eq), (.neq, .neq), (.in_, .eq), (.gt, .gt), (.gte, .gte), (.lt, .lt), (.lte, .lte)]

theorem RuleOp.of_numberTests {op : RuleOp} {test : NumberOp} (listed : (op, test) ∈ numberTests) :
    op.numberOp = test ∧ (op.isOrdering || op.prefersNumeric) = true := by
  have each : ∀ pair ∈ numberTests,
      pair.1.numberOp = pair.2 ∧ (pair.1.isOrdering || pair.1.prefersNumeric) = true := by decide
  exact each (op, test) listed

namespace ReadyClause

variable {c : ReadyClause} {test : NumberOp} {value : String} {x : Binary64}

/-- A number is compared as one, and a list of one number is no list. -/
theorem condition_of_plainNumber (bare : c.operand = .input) (scope : c.scope = .field)
    (listed : (c.op, test) ∈ numberTests) {type : ValueType} (numeric : type ≠ .string)
    (plain : PlainNumber value x) :
    c.condition type value = .ok (.compareNumber (.custom c.field) test x) := by
  obtain ⟨rfl, compares⟩ := RuleOp.of_numberTests listed
  have number : [value].mapM valueNumber? = some [x] := by
    simp [valueNumber?, plain.read]
  have alone : c.op.compareNumbers c.field x [] =
      .compareNumber (.custom c.field) c.op.numberOp x := by
    rw [RuleOp.compareNumbers, RuleOp.compare]
    split <;> rfl
  rw [condition, plain.values bare]
  simp only [scope]
  rw [c.compareField_of_numbers type number, alone]
  simp only [numeric, ne_eq, not_false_eq_true, decide_true, Bool.and_true, compares, if_true]

end ReadyClause

namespace Clause

/-- A clause without a value compares its field, or else the target, with the value of the
filter. -/
theorem ready_of_bare {c : Clause} {op : RuleOp} {targetAttr : String}
    (named : RuleOp.parse c.op = some op) (bare : c.value = .null)
    (field : trim c.field = c.field) (target : Trimmed targetAttr) :
    c.ready targetAttr =
      .ok ⟨if Text.blank c.field then targetAttr else c.field, op, .input, .field⟩ := by
  have chosen : c.fieldFor targetAttr = if Text.blank c.field then targetAttr else c.field := by
    rw [fieldFor]
    cases unset : Text.blank c.field with
    | true =>
        rw [nonBlank?_eq_none_iff.mpr unset, Option.getD_none, target.1]
        rfl
    | false =>
        rw [nonBlank?_of_not_blank unset, Option.getD_some, field]
        rfl
  rw [ready_of_targeted named target.not_blank, if_pos bare, chosen]

end Clause

/-- The clause of a filter's rule for a value, ready for the query. -/
theorem Filter.compile_of_onValue {f : Filter} {r : Rule} {clause : Clause} {ready : ReadyClause}
    (type : f.valueType ≠ .boolean) (ruled : f.rule = some r) (branch : r.onValue = some clause)
    (given : Text.blank f.value = false) (made : clause.ready f.targetAttr = .ok ready) :
    f.compile = .ok (some ready) := by
  have taken : f.rule.bind (·.clauseFor (.of f.valueType f.value)) = some clause := by
    rw [ruled, Option.bind_some, InputClass.of, if_neg type, given]
    exact branch
  simp only [Filter.compile, taken, made]
  rfl

theorem Filter.condition_of_compile {f : Filter} {c : ReadyClause}
    (targeted : Text.blank f.targetAttr = false) (ruled : f.rule.isSome = true)
    (compiled : f.compile = .ok (some c)) :
    f.condition = some <$> c.condition f.valueType f.value := by
  rw [condition, targeted, if_neg Bool.false_ne_true, if_pos ruled, compiled]

/-! ## Columns -/

theorem Targets.trimmed {type : Option ObjectType} {attr : String} (targets : Targets type attr)
    (targeted : Text.blank attr = false) : Trimmed attr := by
  rcases targets with ⟨-, rfl⟩ | ⟨-, old⟩ | ⟨-, trimmed⟩
  · cases targeted
  · exact trimmed_of_isLegacyTarget old
  · exact trimmed

namespace Column

variable {c : Column}

theorem filterValue?_of_integer (type : c.valueType = .integer) {cell : Cell} {value : String}
    (given : c.filterValue? cell = some value) :
    ∃ i, cell.convert .integer = .integer i ∧ value = intText i.toInt := by
  unfold filterValue? at given
  split at given
  · next boolean => rw [type] at boolean; cases boolean
  · cases given
  · cases given
  · split at given
    · next i converted => exact ⟨i, converted, (Option.some.inj given).symm⟩
    · cases given
  · next number _ => rw [type] at number; cases number
  · next string => rw [type] at string; cases string
  · next string _ => rw [type] at string; cases string

theorem filterValue?_of_number (type : c.valueType = .number) {cell : Cell} {value : String}
    (given : c.filterValue? cell = some value) :
    ∃ x, cell.convert .number = .number x ∧ value = formatNumber x := by
  unfold filterValue? at given
  split at given
  · next boolean => rw [type] at boolean; cases boolean
  · cases given
  · cases given
  · next integer _ => rw [type] at integer; cases integer
  · split at given
    · next x converted => exact ⟨x, converted, (Option.some.inj given).symm⟩
    · cases given
  · next string => rw [type] at string; cases string
  · next string _ => rw [type] at string; cases string

/-- A numeric column writes the number that its cell is converted to. -/
theorem plainNumber_of_filterValue? (numeric : c.valueType = .integer ∨ c.valueType = .number)
    {cell : Cell} {x : Binary64} (number : (cell.convert c.valueType).asNumber = some x)
    (finite : x.isFinite = true) {value : String} (given : c.filterValue? cell = some value) :
    ∃ y, PlainNumber value y ∧ y.same x = true := by
  rcases numeric with type | type
  · obtain ⟨i, converted, rfl⟩ := filterValue?_of_integer type given
    rw [type, converted] at number
    cases number
    exact ⟨_, .intText i, Binary64.same_self (Binary64.isFinite_ofInt64 i)⟩
  · obtain ⟨z, converted, rfl⟩ := filterValue?_of_number type given
    rw [type, converted] at number
    cases number
    exact PlainNumber.formatNumber finite

/-- **A number that is typed reaches the query as that number.**  Take a numeric column of a checked
configuration with a clause for its values, which has no value of its own and an operator that
compares numbers.  Let a selected row give the column a filter, and let its cell be a finite number
when it is converted to the column's type.  The filter is collected for the phase of the row, and
building it makes one comparison with that number and adds no message. -/
theorem compares_typed_number (raw : Option Config) (rows : List EditedRow) {phase : Int32}
    {row : EditedRow} {c : Column} {r : Rule} {clause : Clause} {op : RuleOp} {test : NumberOp}
    {cell : Cell} {f : Filter} {x : Binary64}
    (listed : c ∈ (Config.check raw).config.columns)
    (numeric : c.valueType = .integer ∨ c.valueType = .number)
    (ruled : c.rule = some r) (branch : r.onValue = some clause) (bare : clause.value = .null)
    (named : RuleOp.parse clause.op = some op) (tests : (op, test) ∈ numberTests)
    (selected : (phase, row) ∈ selectedRows rows) (shown : row.values.lookup c.key = some cell)
    (made : c.filter? row = some f) (number : (cell.convert c.valueType).asNumber = some x)
    (finite : x.isFinite = true) :
    (∃ criteria ∈ collectSelection rows (Config.check raw).config.columns,
        criteria.phase = phase ∧ f ∈ criteria.filters) ∧
      ∃ y, y.same x = true ∧ ∀ n said, (f.build n).run said =
        some (some (.compareNumber
          (.custom (if Text.blank clause.field then c.targetAttr else clause.field)) test y),
            said) := by
  have member : f ∈ (Config.check raw).config.columns.filterMap (·.filter? row) :=
    List.mem_filterMap.mpr ⟨c, listed, made⟩
  refine ⟨⟨_, List.mem_map.mpr ⟨(phase, row), selected, rfl⟩, rfl, member⟩, ?_⟩
  obtain ⟨selects, own, value, found, given, rfl⟩ := filter?_eq_some_iff.mp made
  obtain rfl : own = cell := Option.some.inj (found.symm.trans shown)
  obtain ⟨editable, targeted⟩ := Bool.and_eq_true_iff.mp selects
  have takes := ((Config.wellFormed_check raw).columns c listed).editable editable
  have target : Trimmed c.targetAttr :=
    takes.target.trimmed (by rwa [Bool.not_eq_true'] at targeted)
  have canonical := ((takes.rule r ruled).2.clauses .onValue clause branch).2
  obtain ⟨y, plain, same⟩ := plainNumber_of_filterValue? numeric number finite given
  refine ⟨y, same, fun n said => ?_⟩
  have ready := Clause.ready_of_bare named bare canonical.field target
  obtain ⟨noTruth, noText⟩ : c.valueType ≠ .boolean ∧ c.valueType ≠ .string := by
    rcases numeric with type | type <;> simp [type]
  have compiled := Filter.compile_of_onValue (f := .ofColumn c value) noTruth ruled branch
    plain.trimmed.not_blank ready
  have asked : (Filter.ofColumn c value).condition =
      .ok (some (.compareNumber
        (.custom (if Text.blank clause.field then c.targetAttr else clause.field)) test y)) := by
    rw [Filter.condition_of_compile target.not_blank (by rw [Filter.ofColumn, ruled]; rfl) compiled]
    exact congrArg (some <$> ·) (ReadyClause.condition_of_plainNumber rfl rfl tests noText plain)
  rw [Filter.build_eq, asked]
  rfl

/-- A column of weights with a rule that takes a list, without a field of its own. -/
def weight : Column :=
  { blank with
    key := "weight", label := "Weight", valueType := .number, editable := true
    targetType := some .part, targetAttr := "WEIGHT"
    rule := some ⟨none, none, some ⟨"", "in", .null⟩⟩ }

def scales : Config :=
  ⟨2, "number", ["select"], [weight]⟩

def weighed : EditedRow :=
  ⟨true, some 3, ⟨[("weight", .string " 1e-3 ")], List.pairwise_singleton _ _⟩⟩

/-- The number nearest to one thousandth. -/
def thousandth : Binary64 :=
  .finite ⟨false, 4611686018427388, -62, by decide⟩

theorem compares_thousandth :
    weight ∈ (Config.check (some scales)).config.columns ∧
    (3, weighed) ∈ selectedRows [weighed] ∧
    weight.filter? weighed = some (.ofColumn weight "0.001") ∧
    ((Cell.string " 1e-3 ").convert .number).asNumber = some thousandth ∧
    ∃ y, y.same thousandth = true ∧ ∀ n said,
      ((Filter.ofColumn weight "0.001").build n).run said =
        some (some (.compareNumber (.custom "WEIGHT") .eq y), said) := by
  have listed : weight ∈ (Config.check (some scales)).config.columns := by
    have wellFormed : scales.WellFormed := by decide
    rw [Config.check_of_wellFormed wellFormed]
    exact List.mem_cons_self
  have selected : (3, weighed) ∈ selectedRows [weighed] := by decide
  have made : weight.filter? weighed = some (.ofColumn weight "0.001") := by decide +kernel
  have number : ((Cell.string " 1e-3 ").convert .number).asNumber = some thousandth := by
    decide +kernel
  obtain ⟨-, built⟩ := compares_typed_number (some scales) [weighed] listed (.inr rfl) rfl rfl rfl
    (by decide : RuleOp.parse "in" = some .in_) (by decide : (.in_, .eq) ∈ numberTests) selected
    rfl made number rfl
  exact ⟨listed, selected, made, number, built⟩

end Column

end PhaseTable
