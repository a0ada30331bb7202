/-
# PhaseTable.Json.Reader -- texts as documents

`Document.read` lays out any text as a document.  Each step takes at least one
character and hands on what is left with a proof that it is shorter, so reading
ends.  A step that meets something that is not JSON leaves nothing: it ends in a
`Break`, and every value around it ends there too.

What the reader leaves to those who walk the document: whether a number is in
range, whether a text is free of lone surrogates, and whether a value is nested
more than 127 deep.
-/
import PhaseTable.Json.Document
import PhaseTable.Json.Numeral

namespace PhaseTable.Json

set_option autoImplicit false

/-- What a step makes of the text `cs`: something and a shorter text, or the last thing there is. -/
inductive Scan (α β : Type) (cs : List Char) where
  | whole (value : α) (rest : List Char) (shorter : rest.length < cs.length)
  | cut (last : β)

/-- The same outcome for a text at least as long. -/
def Scan.widen {α β : Type} {cs ds : List Char} (h : cs.length ≤ ds.length) :
    Scan α β cs → Scan α β ds
  | .whole value rest shorter => .whole value rest (Nat.lt_of_lt_of_le shorter h)
  | .cut last => .cut last

/-- The four characters that may stand between the parts of a JSON text. -/
def isJsonBlank (c : Char) : Bool :=
  c == ' ' || c == '\n' || c == '\t' || c == '\r'

def skipBlanks (cs : List Char) : List Char :=
  cs.dropWhile isJsonBlank

theorem length_skipBlanks (cs : List Char) : (skipBlanks cs).length ≤ cs.length :=
  (List.dropWhile_suffix isJsonBlank).length_le

/-! ## Words and numbers -/

/-- The rest of a text after the characters of a word, or the fault at the first other one. -/
def afterWord : List Char → List Char → Except Fault (List Char)
  | [], cs => .ok cs
  | _ :: _, [] => .error .truncated
  | w :: word, c :: cs => if w = c then afterWord word cs else .error .malformed

theorem length_afterWord {word cs rest : List Char} (h : afterWord word cs = .ok rest) :
    rest.length ≤ cs.length := by
  fun_induction afterWord word cs with
  | case1 cs => cases h; exact Nat.le_refl _
  | case2 => cases h
  | case3 w word cs ih => exact Nat.le_succ_of_le (ih h)
  | case4 => cases h

/-- A document that is written as a fixed word whose first letter is taken. -/
def readWord (document : Document) (word : List Char) (c : Char) (cs : List Char) :
    Scan Document Document (c :: cs) :=
  match h : afterWord word cs with
  | .ok rest => .whole document rest (Nat.lt_succ_of_le (length_afterWord h))
  | .error fault => .cut (.broken (.inside fault fault))

/-- The break of a number: one that ends too early is malformed to those who pass over it. -/
def NumeralFault.toBreak : NumeralFault → Break
  | .invalid _ => .plain .malformed
  | .unfinished => .inside .truncated .malformed

/-- The number at the start of a text.  A number has a character, so the rest is shorter. -/
def readNumber (cs : List Char) : Scan Document Document cs :=
  match scanNumber cs with
  | .error fault => .cut (.broken fault.toBreak)
  | .ok (parts, rest) =>
      if shorter : rest.length < cs.length then .whole (.number parts.value) rest shorter
      else .cut (.broken (.plain .malformed))

/-! ## Texts -/

def hexValue? (c : Char) : Option Nat :=
  if '0' ≤ c ∧ c ≤ '9' then some (c.toNat - '0'.toNat)
  else if 'a' ≤ c ∧ c ≤ 'f' then some (c.toNat - 'a'.toNat + 10)
  else if 'A' ≤ c ∧ c ≤ 'F' then some (c.toNat - 'A'.toNat + 10)
  else none

def hexValue4? (a b c d : Char) : Option Nat := do
  return (((← hexValue? a) * 16 + (← hexValue? b)) * 16 + (← hexValue? c)) * 16 + (← hexValue? d)

def byteCount (cs : List Char) : Nat :=
  (String.ofList cs).utf8ByteSize

/-- The code unit in the four digits that a text begins with.  A text of fewer than four bytes
ends too early, whatever they are. -/
def readUnit : List Char → Except Fault Nat
  | a :: b :: c :: d :: _ => (hexValue4? a b c d).elim (.error .malformed) .ok
  | cs => .error (if byteCount cs < 4 then .truncated else .malformed)

/-- What a character after a backslash stands for, `u` apart. -/
def simpleEscape? (c : Char) : Option Char :=
  if c = '"' ∨ c = '\\' ∨ c = '/' then some c
  else if c = 'b' then some '\x08'
  else if c = 'f' then some '\x0c'
  else if c = 'n' then some '\n'
  else if c = 'r' then some '\r'
  else if c = 't' then some '\t'
  else none

/-- What is known of a text so far: its characters, last first, unless it is unreadable. -/
abbrev Content := Option (List Char)

def Content.push (content : Content) (c : Char) : Content :=
  content.map (c :: ·)

/-- The break at a fault inside a text; what was unreadable before it stays malformed. -/
def Content.breakAt (content : Content) (fault : Fault) : Break :=
  let read := if content.isNone then .malformed else fault
  ⟨read, fault, read⟩

/-- The outcome of an escape that begins with a code unit. -/
inductive UnitEscape where
  /-- The unit is a character by itself. -/
  | single (c : Char)
  /-- The unit and the escape after it are a character together. -/
  | pair (c : Char)
  /-- The unit is half of a surrogate pair. -/
  | lone
  /-- The text breaks off inside the pair. -/
  | broken (fault : Fault)

/-- What a code unit stands for, given the text after its four digits. -/
def unitEscape (unit : Nat) (rest : List Char) : UnitEscape :=
  if 0xDC00 ≤ unit ∧ unit ≤ 0xDFFF then .lone
  else if 0xD800 ≤ unit ∧ unit ≤ 0xDBFF then
    match rest with
    | [] => .broken .truncated
    | ['\\'] => .broken .truncated
    | '\\' :: 'u' :: digits =>
        match readUnit digits with
        | .error fault => .broken fault
        | .ok low =>
            if 0xDC00 ≤ low ∧ low ≤ 0xDFFF then
              .pair (Char.ofNat ((unit - 0xD800) * 0x400 + (low - 0xDC00) + 0x10000))
            else .lone
    | _ => .lone
  else .single (Char.ofNat unit)

/-- The text after an opening quote, up to the closing one. -/
def readText (content : Content) (cs : List Char) : Scan Content Break cs :=
  match cs with
  | [] => .cut (content.breakAt .truncated)
  | '"' :: rest => .whole content rest (Nat.lt_succ_self _)
  | ['\\'] => .cut (content.breakAt .truncated)
  | '\\' :: 'u' :: digits =>
      match readUnit digits with
      | .error fault => .cut (content.breakAt fault)
      | .ok unit =>
          match unitEscape unit (digits.drop 4) with
          | .single c => (readText (content.push c) (digits.drop 4)).widen (by simp; omega)
          | .pair c => (readText (content.push c) (digits.drop 10)).widen (by simp; omega)
          | .lone => (readText none (digits.drop 4)).widen (by simp; omega)
          | .broken fault => .cut (content.breakAt fault)
  | '\\' :: c :: rest =>
      match simpleEscape? c with
      | some e => (readText (content.push e) rest).widen (by simp; omega)
      | none => .cut (content.breakAt .malformed)
  | c :: rest =>
      if c.toNat < 32 then .cut (content.breakAt .malformed)
      else (readText (content.push c) rest).widen (by simp)
termination_by cs.length

def Content.toText? (content : Content) : Option String :=
  content.map fun cs => String.ofList cs.reverse

/-! ## Values -/

/-- One more item in front of those that were read. -/
def Scan.cons {α : Type} {cs : List Char} (first : α) :
    Scan (List α) (List α × Option Break) cs → Scan (List α) (List α × Option Break) cs
  | .whole items rest shorter => .whole (first :: items) rest shorter
  | .cut (items, ending) => .cut (first :: items, ending)

/-- An array or an object below `room` more levels of brackets. -/
def atDepth (room : Nat) (document : Document) : Document :=
  if room = 0 then .tooDeep document else document

mutual

/-- The value that a text begins with, after blanks. -/
def readValue (room : Nat) (cs : List Char) : Scan Document Document cs :=
  match h : skipBlanks cs with
  | [] => .cut (.broken (.plain .truncated))
  | c :: rest =>
      have shorter : rest.length + 1 ≤ cs.length := by
        simpa [h] using length_skipBlanks cs
      if c = '[' then
        match readItems (room - 1) rest with
        | .whole items rest' h' => .whole (atDepth room (.array items none)) rest' (by omega)
        | .cut (items, ending) => .cut (atDepth room (.array items ending))
      else if c = '{' then
        match readMembers (room - 1) rest with
        | .whole members rest' h' => .whole (atDepth room (.object members none)) rest' (by omega)
        | .cut (members, ending) => .cut (atDepth room (.object members ending))
      else if c = '"' then
        match readText (some []) rest with
        | .whole content rest' h' => .whole (.text content.toText?) rest' (by omega)
        | .cut last => .cut (.broken last)
      else if c = 'n' then (readWord .null ['u', 'l', 'l'] c rest).widen (by simpa using shorter)
      else if c = 't' then
        (readWord (.bool true) ['r', 'u', 'e'] c rest).widen (by simpa using shorter)
      else if c = 'f' then
        (readWord (.bool false) ['a', 'l', 's', 'e'] c rest).widen (by simpa using shorter)
      else if c = '-' ∨ c.isDigit then (readNumber (c :: rest)).widen (by simpa using shorter)
      else .cut (.broken (.plain .malformed))
termination_by (cs.length, 0)

def readItems (room : Nat) (cs : List Char) :
    Scan (List Document) (List Document × Option Break) cs :=
  match h : skipBlanks cs with
  | [] => .cut ([], some (.plain .truncated))
  | c :: rest =>
      have shorter : rest.length + 1 ≤ cs.length := by
        simpa [h] using length_skipBlanks cs
      if c = ']' then .whole [] rest shorter else itemsFrom room cs
termination_by (cs.length, 2)

def itemsFrom (room : Nat) (cs : List Char) :
    Scan (List Document) (List Document × Option Break) cs :=
  match readValue room cs with
  | .cut last => .cut ([last], none)
  | .whole item rest h =>
      match h' : skipBlanks rest with
      | [] => .cut ([item], some (.plain .truncated))
      | c :: rest' =>
          have shorter : rest'.length + 1 ≤ rest.length := by
            simpa [h'] using length_skipBlanks rest
          if c = ']' then .whole [item] rest' (by omega)
          else if c = ',' then ((itemsFrom room rest').widen (by omega)).cons item
          else .cut ([item], some (.plain .malformed))
termination_by (cs.length, 1)

def readMembers (room : Nat) (cs : List Char) :
    Scan (List (Key × Document)) (List (Key × Document) × Option Break) cs :=
  match h : skipBlanks cs with
  | [] => .cut ([], some (.plain .truncated))
  | c :: rest =>
      have shorter : rest.length + 1 ≤ cs.length := by
        simpa [h] using length_skipBlanks cs
      if c = '}' then .whole [] rest shorter else membersFrom room cs
termination_by (cs.length, 3)

/-- A member after an opening brace or a comma: a key, a colon and a value.  The end of the text
can only stand after a comma, where no object ends. -/
def readMember (room : Nat) (cs : List Char) :
    Scan (Key × Document) (List (Key × Document) × Option Break) cs :=
  match h : skipBlanks cs with
  | [] => .cut ([], some (.inside .truncated .truncated))
  | c :: source =>
      have h₁ : source.length + 1 ≤ cs.length := by
        simpa [h] using length_skipBlanks cs
      if c = '"' then
        match readText (some []) source with
        | .cut last => .cut ([(⟨.error last.read, source⟩, .broken last)], none)
        | .whole content rest h₂ =>
            let key : Key := ⟨content.toText?.elim (.error .malformed) .ok, source⟩
            match h' : skipBlanks rest with
            | [] => .cut ([(key, .broken (.plain .truncated))], none)
            | d :: rest' =>
                have h₃ : rest'.length + 1 ≤ rest.length := by
                  simpa [h'] using length_skipBlanks rest
                if d = ':' then
                  match readValue room rest' with
                  | .cut last => .cut ([(key, last)], none)
                  | .whole value rest'' h₄ => .whole (key, value) rest'' (by omega)
                else .cut ([(key, .broken (.plain .malformed))], none)
      else .cut ([], some (.plain .malformed))
termination_by (cs.length, 1)

def membersFrom (room : Nat) (cs : List Char) :
    Scan (List (Key × Document)) (List (Key × Document) × Option Break) cs :=
  match readMember room cs with
  | .cut last => .cut last
  | .whole member rest h =>
      match h' : skipBlanks rest with
      | [] => .cut ([member], some (.plain .truncated))
      | c :: rest' =>
          have shorter : rest'.length + 1 ≤ rest.length := by
            simpa [h'] using length_skipBlanks rest
          if c = '}' then .whole [member] rest' (by omega)
          else if c = ',' then ((membersFrom room rest').widen (by omega)).cons member
          else .cut ([member], some (.plain .malformed))
termination_by (cs.length, 2)

end

/-- The document that a text is, and whether something other than blanks follows it. -/
def read (s : String) : Document × Bool :=
  match readValue 127 s.toList with
  | .whole document rest _ => (document, skipBlanks rest ≠ [])
  | .cut document => (document, false)

end PhaseTable.Json
