/-
# PhaseTable.Operator -- the two sets of comparison operators

A column offers filter operators to its user (`FilterOp`), and a rule compares with
operators of its own (`RuleOp`).  Both are written by name; blank ends, underscores,
hyphens and case do not count, so `not_equals`, `NotEquals` and `neq` are one operator.
-/
import PhaseTable.Setting
import PhaseTable.Text.LowerCase

namespace PhaseTable

set_option autoImplicit false

/-- The form in which the names of operators are compared. -/
def operatorToken (s : String) : String :=
  String.ofList <| Text.lowerCharwise <|
    (Text.trimChars s.toList).filter fun c => c ≠ '_' ∧ c ≠ '-'

/-- An operator that a column offers for filtering its values. -/
inductive FilterOp where
  | equals
  | notEquals
  | contains
  | notContains
  | startsWith
  | notStartsWith
  | endsWith
  | notEndsWith
  | in_
  | range
  | gt
  | gte
  | lt
  | lte
  | isTrue
  | isFalse
deriving DecidableEq

namespace FilterOp

def parse (s : String) : Option FilterOp :=
  match operatorToken s with
  | "equals" | "eq" => some .equals
  | "notequals" | "neq" => some .notEquals
  | "contains" => some .contains
  | "notcontains" => some .notContains
  | "startswith" => some .startsWith
  | "notstartswith" => some .notStartsWith
  | "endswith" => some .endsWith
  | "notendswith" => some .notEndsWith
  | "in" => some .in_
  | "range" => some .range
  | "gt" => some .gt
  | "gte" => some .gte
  | "lt" => some .lt
  | "lte" => some .lte
  | "istrue" => some .isTrue
  | "isfalse" => some .isFalse
  | _ => none

/-- The name by which a checked configuration lists the operator. -/
def name : FilterOp → String
  | .equals => "equals"
  | .notEquals => "notEquals"
  | .contains => "contains"
  | .notContains => "notContains"
  | .startsWith => "startsWith"
  | .notStartsWith => "notStartsWith"
  | .endsWith => "endsWith"
  | .notEndsWith => "notEndsWith"
  | .in_ => "in"
  | .range => "range"
  | .gt => "gt"
  | .gte => "gte"
  | .lt => "lt"
  | .lte => "lte"
  | .isTrue => "isTrue"
  | .isFalse => "isFalse"

def isLegalFor (op : FilterOp) : ValueType → Bool
  | .string =>
      op ∈ [.equals, .notEquals, .contains, .notContains, .startsWith, .notStartsWith, .endsWith,
        .notEndsWith, .in_]
  | .number | .integer => op ∈ [.equals, .notEquals, .in_, .range, .gt, .gte, .lt, .lte]
  | .boolean => op ∈ [.equals, .notEquals, .isTrue, .isFalse]

end FilterOp

/-- An operator of a rule clause. -/
inductive RuleOp where
  | eq
  | neq
  | in_
  | contains
  | notContains
  | startsWith
  | notStartsWith
  | endsWith
  | notEndsWith
  | gt
  | gte
  | lt
  | lte
deriving DecidableEq

namespace RuleOp

/-- The operator with a name; two of them have a long name too. -/
def parse (s : String) : Option RuleOp :=
  match operatorToken s with
  | "eq" | "equals" => some .eq
  | "neq" | "notequals" => some .neq
  | "in" => some .in_
  | "contains" => some .contains
  | "notcontains" => some .notContains
  | "startswith" => some .startsWith
  | "notstartswith" => some .notStartsWith
  | "endswith" => some .endsWith
  | "notendswith" => some .notEndsWith
  | "gt" => some .gt
  | "gte" => some .gte
  | "lt" => some .lt
  | "lte" => some .lte
  | _ => none

/-- The name by which a checked rule writes the operator. -/
def name : RuleOp → String
  | .eq => "eq"
  | .neq => "neq"
  | .in_ => "in"
  | .contains => "contains"
  | .notContains => "notcontains"
  | .startsWith => "startswith"
  | .notStartsWith => "notstartswith"
  | .endsWith => "endswith"
  | .notEndsWith => "notendswith"
  | .gt => "gt"
  | .gte => "gte"
  | .lt => "lt"
  | .lte => "lte"

/-- The name by which a compiled clause reports the operator. -/
def label : RuleOp → String
  | .eq => "Eq"
  | .neq => "Neq"
  | .in_ => "In"
  | .contains => "Contains"
  | .notContains => "NotContains"
  | .startsWith => "StartsWith"
  | .notStartsWith => "NotStartsWith"
  | .endsWith => "EndsWith"
  | .notEndsWith => "NotEndsWith"
  | .gt => "Gt"
  | .gte => "Gte"
  | .lt => "Lt"
  | .lte => "Lte"

/-- Orders two numbers; compared as numbers in every case. -/
def isOrdering : RuleOp → Bool
  | .gt | .gte | .lt | .lte => true
  | _ => false

def isNegated : RuleOp → Bool
  | .neq | .notContains | .notStartsWith | .notEndsWith => true
  | _ => false

/-- Compares numbers where the type and the values allow it. -/
def prefersNumeric : RuleOp → Bool
  | .eq | .neq | .in_ => true
  | _ => false

def negated? : RuleOp → Option RuleOp
  | .eq => some .neq
  | .contains => some .notContains
  | .startsWith => some .notStartsWith
  | .endsWith => some .notEndsWith
  | _ => none

end RuleOp

end PhaseTable
