/-
# PhaseTable.Text.Pieces -- the parts of a text

A cell or a filter value may hold several values, written with a comma or a
semicolon between them.  `splitValues` reads such a list: the pieces between the
separators, trimmed, without the blank ones, each once and in the order in which
it is first seen.

Messages are classified by the words they contain, which `contains` looks for.
-/
import PhaseTable.Text.Blank

namespace PhaseTable.Text

set_option autoImplicit false

def isSeparator (c : Char) : Bool :=
  c == ',' || c == ';'

/-- The pieces between the separators; there is always at least one. -/
def pieces : List Char → List (List Char)
  | [] => [[]]
  | c :: cs =>
      if isSeparator c then [] :: pieces cs
      else
        match pieces cs with
        | [] => [[c]]
        | piece :: rest => (c :: piece) :: rest

/-- The members of a list, each once, where it is first seen; `seen` are left out. -/
def distinctFrom {α : Type} [DecidableEq α] (seen : List α) : List α → List α
  | [] => []
  | x :: xs => if x ∈ seen then distinctFrom seen xs else x :: distinctFrom (x :: seen) xs

/-- The members of a list, each once, where it is first seen. -/
def distinct {α : Type} [DecidableEq α] (xs : List α) : List α :=
  distinctFrom [] xs

/-- The first member with each key; those whose key is among `seen` are left out. -/
def distinctByFrom {α κ : Type} [DecidableEq κ] (key : α → κ) (seen : List κ) : List α → List α
  | [] => []
  | x :: xs =>
      if key x ∈ seen then distinctByFrom key seen xs
      else x :: distinctByFrom key (key x :: seen) xs

def distinctBy {α κ : Type} [DecidableEq κ] (key : α → κ) (xs : List α) : List α :=
  distinctByFrom key [] xs

/-- The trimmed texts of a list that are not blank, each once, in order. -/
def distinctNonBlank (texts : List String) : List String :=
  distinct (texts.filterMap nonBlank?)

def splitValues (s : String) : List String :=
  distinctNonBlank ((pieces s.toList).map String.ofList)

/-! ## Looking for a text -/

/-- `needle` occurs somewhere in `cs`. -/
def occursIn (needle : List Char) : List Char → Bool
  | [] => needle.isEmpty
  | c :: cs => needle.isPrefixOf (c :: cs) || occursIn needle cs

/-- The text contains `needle`; every text contains the empty one. -/
def contains (s needle : String) : Bool :=
  occursIn needle.toList s.toList

def beginsWith (s head : String) : Bool :=
  head.toList.isPrefixOf s.toList

end PhaseTable.Text
