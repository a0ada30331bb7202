/-
# PhaseTable.Text.Blank -- blank characters and trimming

Config files, cells and filter values are typed by hand, so every text is
compared after its blank ends are cut off.  A character is blank when it has the
Unicode property White_Space: the 25 code points of `isBlank`, which include the
no-break space and the ideographic space but not the zero-width space or the
byte order mark.
-/

namespace PhaseTable.Text

set_option autoImplicit false

/-- The 25 code points with the property White_Space. -/
def isBlank (c : Char) : Bool :=
  let n := c.toNat
  (9 ≤ n && n ≤ 13) || n == 0x20 || n == 0x85 || n == 0xA0 || n == 0x1680 ||
    (0x2000 ≤ n && n ≤ 0x200A) || n == 0x2028 || n == 0x2029 || n == 0x202F ||
    n == 0x205F || n == 0x3000

/-- The characters that are left when the blanks at both ends are dropped. -/
def trimChars (cs : List Char) : List Char :=
  ((cs.dropWhile isBlank).reverse.dropWhile isBlank).reverse

def trim (s : String) : String :=
  String.ofList (trimChars s.toList)

/-- A text is blank when it holds blanks only; the empty text is blank. -/
def blank (s : String) : Bool :=
  s.toList.all isBlank

/-- A text without blank ends, and not empty. -/
def Trimmed (s : String) : Prop :=
  trim s = s ∧ s ≠ ""

instance (s : String) : Decidable (Trimmed s) :=
  inferInstanceAs (Decidable (_ ∧ _))

/-- The trimmed text, unless nothing is left of it. -/
def nonBlank? (s : String) : Option String :=
  let t := trim s
  if t = "" then none else some t

end PhaseTable.Text
