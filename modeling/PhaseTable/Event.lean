/-
# PhaseTable.Event -- messages to whoever watches

What is dropped or replaced is told in messages.  A message becomes an event when it
is told to an observer: it then has the stage at which it arose and a severity, which
is read off its words.
-/
import PhaseTable.Text.Pieces

namespace PhaseTable

set_option autoImplicit false

open Text

/-- How much is lost. -/
inductive Severity where
  /-- Nothing. -/
  | info
  /-- A part of what was asked for. -/
  | warning
  /-- The whole configuration. -/
  | error
deriving DecidableEq

namespace Severity

def name : Severity → String
  | .info => "Info"
  | .warning => "Warning"
  | .error => "Error"

def ofName? : String → Option Severity
  | "Info" => some .info
  | "Warning" => some .warning
  | "Error" => some .error
  | _ => none

def rank : Severity → Nat
  | .info => 0
  | .warning => 1
  | .error => 2

def reaches (s threshold : Severity) : Bool :=
  threshold.rank ≤ s.rank

/-- The severity of a message, by its words. -/
def ofMessage (message : String) : Severity :=
  if contains message "Using defaults" || contains message "Using embedded defaults" then .error
  else if contains message "skipped" || contains message "ignored" ||
      beginsWith message "Phase " then .warning
  else .info

end Severity

/-- When a message arose. -/
inductive Stage where
  | config
  | compile
  | aggregate
deriving DecidableEq

namespace Stage

def name : Stage → String
  | .config => "config"
  | .compile => "compile"
  | .aggregate => "aggregate"

def ofName? : String → Option Stage
  | "config" => some .config
  | "compile" => some .compile
  | "aggregate" => some .aggregate
  | _ => none

end Stage

/-- A message as an observer gets it. -/
structure Event where
  stage : Stage
  severity : Severity
  message : String
deriving DecidableEq

def Event.of (stage : Stage) (message : String) : Event :=
  ⟨stage, .ofMessage message, message⟩

/-! ## Lists of messages -/

/-- Messages in the order in which they arose. -/
abbrev Messages := List String

namespace Messages

def mention (messages : Messages) (needle : String) : Bool :=
  messages.any (contains · needle)

/-- The messages as one text, one to a line. -/
def text (messages : Messages) : String :=
  String.intercalate "\n" messages

end Messages

end PhaseTable
