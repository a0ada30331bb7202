/-
# PhaseTable.Reduction -- many values in one cell

A cell of the table stands for the values that the objects of a phase have for a
column, one for each object and some of them empty.  `Aggregate.reduce` makes one cell
of them in the way that the column asks for.
-/
import PhaseTable.Cell
import PhaseTable.Text.LowerCase
import PhaseTable.Text.Pieces

namespace PhaseTable

set_option autoImplicit false

open Text

def distinctSeparator : String := "; "

namespace Cell

/-- The cell of a count; what is too large for an integer is the largest one. -/
def ofCount (n : Nat) : Cell :=
  .integer (if n < twoPow 63 then Int64.ofNat n else Int64.maxValue)

def firstOf (cells : List Cell) : Cell :=
  (cells.find? hasValue).getD .empty

/-- The texts of the values that are different in lower case, each as it is first seen. -/
def distinctTexts (cells : List Cell) : List String :=
  distinctBy lowerCase ((cells.map display).filter fun s => !Text.blank s)

/-- The different values in one text. -/
def distinctOf (cells : List Cell) : Cell :=
  .text (String.intercalate distinctSeparator (distinctTexts cells))

/-- The number that `pick` leaves of the values that are numbers. -/
def pickOf (pick : Binary64 → Binary64 → Binary64) (cells : List Cell) : Cell :=
  match cells.filterMap asNumber with
  | [] => .empty
  | x :: xs => .number (xs.foldl pick x)

end Cell

/-- The cell of the values of a phase with so many objects. -/
def Aggregate.reduce (a : Aggregate) (values : List Cell) (objectCount : Nat) : Cell :=
  match a with
  | .count => .ofCount objectCount
  | .first => .firstOf values
  | .distinct => .distinctOf values
  | .min => .pickOf .least values
  | .max => .pickOf .greatest values

end PhaseTable
