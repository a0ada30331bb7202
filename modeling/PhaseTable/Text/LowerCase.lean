/-
# PhaseTable.Text.LowerCase -- lower case, of ASCII letters and in every script

Setting names, source attributes and column look-ups ignore the case of the 26
ASCII letters and of nothing else: `É` and `é` are different in them.

Column keys, action names, the values of a distinct cell and the signatures of
filters are unique up to case, whatever script they are written in.
`lowerCase` makes every character of a text small by `Text.CaseTable`; İ becomes
`i` with a combining dot, and Σ becomes ς at the end of a word and σ elsewhere.

Σ ends a word when the nearest character before it that is not Case_Ignorable has
a case and the nearest such character after it has none (or does not exist).

`lowerCharwise` knows no words: each character is made small by itself, so Σ is
always σ.  Operator names are read through it.
-/
import PhaseTable.Text.CaseTable

namespace PhaseTable.Text

set_option autoImplicit false

/-! ## ASCII letters -/

def asciiLower (s : String) : String :=
  String.ofList (s.toList.map Char.toLower)

/-- Equality up to the case of ASCII letters. -/
def sameIgnoringAsciiCase (s t : String) : Bool :=
  s.toList.map Char.toLower == t.toList.map Char.toLower

/-- What follows `head` at the start of `cs`, whatever the case of ASCII letters. -/
def afterIgnoringAsciiCase? : List Char → List Char → Option (List Char)
  | [], cs => some cs
  | _ :: _, [] => none
  | h :: head, c :: cs =>
      if h.toLower = c.toLower then afterIgnoringAsciiCase? head cs else none

/-! ## Every script -/

def CaseRun.covers (run : CaseRun) (n : Nat) : Bool :=
  run.first ≤ n && n ≤ run.last && (n - run.first) % run.stride == 0

/-- The small form of one character; only that of İ has two characters. -/
def lowerChar (c : Char) : List Char :=
  if c.toNat < 0x80 then [c.toLower]
  else if c = 'İ' then ['i', '\u0307']
  else
    match caseRuns.find? (·.covers c.toNat) with
    | some run => [Char.ofNat (c.toNat + run.shift).toNat]
    | none => [c]

/-- The character is looked through when the end of a word is sought. -/
def caseIgnorable (c : Char) : Bool :=
  caseIgnorableRanges.any fun range => range.1 ≤ c.toNat && c.toNat ≤ range.2

/-- The character is a letter with a case. -/
def cased (c : Char) : Bool :=
  casedRanges.any fun range => range.1 ≤ c.toNat && c.toNat ≤ range.2

/-- The first character that is not looked through is a letter with a case. -/
def meetsLetter (cs : List Char) : Bool :=
  match cs.dropWhile caseIgnorable with
  | [] => false
  | c :: _ => cased c

/-- A letter is the last of its word: one comes before it, nearest first, and none after. -/
def endsWord (before after : List Char) : Bool :=
  meetsLetter before && !meetsLetter after

/-- The small form of the characters that follow `before`, which is given backwards. -/
def lowerAfter (before : List Char) : List Char → List Char
  | [] => []
  | c :: rest =>
      (if c = 'Σ' then [if endsWord before rest then 'ς' else 'σ'] else lowerChar c) ++
        lowerAfter (c :: before) rest

def lowerCase (s : String) : String :=
  String.ofList (lowerAfter [] s.toList)

/-- The characters made small one by one, without regard to their place in a word. -/
def lowerCharwise (cs : List Char) : List Char :=
  cs.flatMap lowerChar

end PhaseTable.Text
