/-
# PhaseTable.Rule -- what an editable column does to the query

A rule of an editable column says which clause a user's input adds to the query: one
for each of the two inputs of a Boolean column, or one for any input of another
column.  A clause without a value compares with the input itself.

`Rule.check` fits a rule to the type of its column.  A branch with an unknown operator
or one that the type never takes is removed; the others keep their value and get a
trimmed field and the operator's own name.  A rule that keeps no branch is no rule.

The value of a clause is any JSON value.  An array stands for its items, each once;
any other value for itself; null, blank texts and blank items stand for nothing
(`Json.literals`).
-/
import PhaseTable.Operator
import PhaseTable.Text.Pieces

namespace PhaseTable

set_option autoImplicit false

/-- A comparison that a rule adds to the query; without a field it is that of the column. -/
structure Clause where
  field : String
  op : String
  value : Json
deriving DecidableEq

inductive Branch where
  | onTrue
  | onFalse
  | onValue
deriving DecidableEq

namespace Branch

def all : List Branch :=
  [.onTrue, .onFalse, .onValue]

def name : Branch → String
  | .onTrue => "onTrue"
  | .onFalse => "onFalse"
  | .onValue => "onValue"

/-- A column whose values have the type can take the branch. -/
def fits : Branch → ValueType → Bool
  | .onValue, t => t ≠ .boolean
  | _, t => t = .boolean

end Branch

/-- The clauses of an editable column, by input. -/
structure Rule where
  onTrue : Option Clause
  onFalse : Option Clause
  onValue : Option Clause
deriving DecidableEq

namespace Rule

def empty : Rule :=
  ⟨none, none, none⟩

def isEmpty (r : Rule) : Bool :=
  r.onTrue.isNone && r.onFalse.isNone && r.onValue.isNone

def branch (r : Rule) : Branch → Option Clause
  | .onTrue => r.onTrue
  | .onFalse => r.onFalse
  | .onValue => r.onValue

end Rule

/-! ## Checking -/

/-- Why a branch of a rule, or the whole of it, is ignored. -/
inductive RuleNotice where
  | unsupportedOp (branch : Branch) (op : String)
  | onlyForBoolean (branch : Branch)
  | notForBoolean
  | noClauseLeft
deriving DecidableEq

def RuleNotice.message (key : String) : RuleNotice → String
  | .unsupportedOp branch op =>
      "config column " ++ key ++ " ignored applyRule." ++ branch.name ++ ": unsupported op '" ++
        op ++ "'."
  | .onlyForBoolean branch =>
      "config column " ++ key ++ " ignored applyRule." ++ branch.name ++
        ": branch is valid only for Boolean columns."
  | .notForBoolean =>
      "config column " ++ key ++
        " ignored applyRule.onValue: branch is not used for Boolean columns."
  | .noClauseLeft =>
      "config column " ++ key ++ " ignored applyRule because no valid rule clauses remained."

namespace Clause

/-- The clause of a branch as it is kept, or why it is not. -/
def check (c : Clause) (branch : Branch) (type : ValueType) : Except RuleNotice Clause :=
  match RuleOp.parse c.op with
  | none => .error (.unsupportedOp branch c.op)
  | some op =>
      if branch.fits type then .ok { c with field := Text.trim c.field, op := op.name }
      else
        match branch with
        | .onValue => .error .notForBoolean
        | branch => .error (.onlyForBoolean branch)

end Clause

namespace Rule

/-- The clause of a branch that is kept, if any. -/
def keep (r : Rule) (type : ValueType) (branch : Branch) : Option Clause :=
  (r.branch branch).bind fun c => (c.check branch type).toOption

def refusal? (r : Rule) (type : ValueType) (branch : Branch) : Option RuleNotice :=
  (r.branch branch).bind fun c =>
    match c.check branch type with
    | .ok _ => none
    | .error notice => some notice

def kept (r : Rule) (type : ValueType) : Rule :=
  ⟨r.keep type .onTrue, r.keep type .onFalse, r.keep type .onValue⟩

/-- The rule as it fits the type, unless no clause is left, and what was ignored. -/
def check (r : Rule) (type : ValueType) : Option Rule × List RuleNotice :=
  let refusals := Branch.all.filterMap (r.refusal? type)
  if (r.kept type).isEmpty then (none, refusals ++ [.noClauseLeft])
  else (some (r.kept type), refusals)

end Rule

/-! ## Values of clauses -/

/-- The text of a value; null has none. -/
def Json.invariantText : Json → String
  | .null => ""
  | .str s => s
  | .bool b => if b then "true" else "false"
  | .number (.int i) => intText i
  | .number (.float x) => formatNumber x
  | j => j.compact

/-- The texts that a value stands for. -/
def Json.literals : Json → List String
  | .arr items => Text.distinctNonBlank (items.map Json.invariantText)
  | j => (Text.nonBlank? j.invariantText).toList

/-! ## JSON form -/

def Clause.toJson (c : Clause) : Json :=
  .obj [("field", .str c.field), ("op", .str c.op), ("value", c.value)]

def Clause.shape : Shape Clause where
  name := "ClauseConfig"
  keys := ["field", "op", "value"]
  required := []
  start := ⟨"", "", .null⟩
  set c key d :=
    match key with
    | "field" => do return { c with field := ← Decode.orNull "" Decode.text d }
    | "op" => do return { c with op := ← Decode.orNull "" Decode.text d }
    | _ => do return { c with value := ← Decode.anyValue d }

def Rule.toJson (r : Rule) : Json :=
  .ofMembers [r.onFalse.map (("onFalse", ·.toJson)), r.onTrue.map (("onTrue", ·.toJson)),
    r.onValue.map (("onValue", ·.toJson))]

def Rule.shape (origin : Origin) : Shape Rule where
  name := "ApplyRuleConfig"
  keys := ["onTrue", "onFalse", "onValue"]
  required := []
  start := .empty
  set r key d :=
    match key with
    | "onTrue" => do return { r with onTrue := ← Decode.optional (Clause.shape.decode origin) d }
    | "onFalse" => do return { r with onFalse := ← Decode.optional (Clause.shape.decode origin) d }
    | _ => do return { r with onValue := ← Decode.optional (Clause.shape.decode origin) d }

end PhaseTable
