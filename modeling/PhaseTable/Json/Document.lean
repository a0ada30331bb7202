/-
# PhaseTable.Json.Document -- JSON texts that may break off

A configuration is read from front to back, and the first thing that is wrong with
it is reported: a value of the wrong type early in the text comes before a missing
brace at its end.  So a text is first laid out as a `Document`, a tree in which the
place where the text stops being JSON is a node of its own.  Whoever walks the tree
in reading order meets either a value that does not fit or that node.

Some texts are JSON only as long as nobody asks for their value: half of a surrogate
pair, a number that is too large, brackets that are nested too deep.  They are no
obstacle inside a member that is passed over, so a `Break` names a fault for a reader
who wants the value and one for a reader who passes over it.  A third reader looks for
a text, an object or the end of one and takes no step into anything else.

`Document.ofJson` is the document of a value that is already there; it has no break.
-/
import PhaseTable.Json.Value

namespace PhaseTable

set_option autoImplicit false

/-- Why a text is not JSON: a character is out of place, or the text ends too early. -/
inductive Fault where
  | malformed
  | truncated
deriving DecidableEq

/-- The end of what can be read, with the fault that each reader meets there. -/
structure Break where
  /-- The fault for a reader who wants the value. -/
  read : Fault
  /-- The fault for a reader who passes over the value. -/
  skip : Fault
  /-- The fault for a reader who takes a text, an object or the end of one and nothing else. -/
  enter : Fault
deriving DecidableEq

/-- A break that is the same for every reader. -/
def Break.plain (fault : Fault) : Break :=
  ⟨fault, fault, fault⟩

/-- A break inside something that is no text: whoever does not want it is stopped at its start. -/
def Break.inside (read skip : Fault) : Break :=
  ⟨read, skip, .malformed⟩

/-- The key of a member: its content, unless it is unreadable, and the text from its first
character on. -/
structure Key where
  content : Except Fault String
  source : List Char

/-- The tree of a text that may break off. -/
inductive Document where
  | null
  | bool (value : Bool)
  /-- A number, unless it is out of range. -/
  | number (value : Option JsonNumber)
  /-- A text, unless it holds half of a surrogate pair. -/
  | text (content : Option String)
  | array (items : List Document) (ending : Option Break)
  | object (members : List (Key × Document)) (ending : Option Break)
  /-- An array or an object that stands deeper than values are read. -/
  | tooDeep (inner : Document)
  | broken (end_ : Break)

namespace Document

instance : Inhabited Document := ⟨.null⟩

mutual

def ofJson : Json → Document
  | .null => .null
  | .bool b => .bool b
  | .number n => .number (some n)
  | .str s => .text (some s)
  | .arr items => .array (ofItems items) none
  | .obj members => .object (ofMembers members) none

def ofItems : List Json → List Document
  | [] => []
  | item :: rest => ofJson item :: ofItems rest

def ofMembers : List (String × Json) → List (Key × Document)
  | [] => []
  | (key, value) :: rest => (⟨.ok key, key.toList⟩, ofJson value) :: ofMembers rest

end

mutual

/-- The fault that a reader meets who passes over the document. -/
def skipFault? : Document → Option Fault
  | .array items ending => (itemsSkipFault? items).or (ending.map (·.skip))
  | .object members ending => (membersSkipFault? members).or (ending.map (·.skip))
  | .tooDeep inner => inner.skipFault?
  | .broken b => some b.skip
  | _ => none

def itemsSkipFault? : List Document → Option Fault
  | [] => none
  | item :: rest => item.skipFault?.or (itemsSkipFault? rest)

def membersSkipFault? : List (Key × Document) → Option Fault
  | [] => none
  | (_, value) :: rest => value.skipFault?.or (membersSkipFault? rest)

end

mutual

/-- The value that a document stands for, or the first fault on the way to it. -/
def toJson : Document → Except Fault Json
  | .null => .ok .null
  | .bool b => .ok (.bool b)
  | .number (some n) => .ok (.number n)
  | .number none => .error .malformed
  | .text (some s) => .ok (.str s)
  | .text none => .error .malformed
  | .array items ending => do
      let values ← itemsToJson items
      match ending with
      | some b => throw b.read
      | none => return .arr values
  | .object members ending => do
      let values ← membersToJson [] members
      match ending with
      | some b => throw b.read
      | none => return .obj values
  | .tooDeep _ => .error .malformed
  | .broken b => .error b.read

def itemsToJson : List Document → Except Fault (List Json)
  | [] => .ok []
  | item :: rest => do
      let value ← item.toJson
      return value :: (← itemsToJson rest)

/-- The members of an object, added to those before them; a key that comes again is set again. -/
def membersToJson (before : List (String × Json)) :
    List (Key × Document) → Except Fault (List (String × Json))
  | [] => .ok before
  | (key, document) :: rest => do
      let content ← key.content
      let value ← document.toJson
      membersToJson (Json.putMember content value before) rest

end

end Document

end PhaseTable
