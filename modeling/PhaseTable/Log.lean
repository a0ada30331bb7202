/-
# PhaseTable.Log -- the log of what is done

Checking a configuration, making a table and making a query are pure, and what each of
them writes to a log is a function of its result.  An entry has a level, a message and
named values.
-/
import PhaseTable.Config.Check
import PhaseTable.Query
import PhaseTable.Table

namespace PhaseTable

set_option autoImplicit false

inductive LogLevel where
  | debug
  | info
  | warn
  | error
deriving DecidableEq

def LogLevel.name : LogLevel → String
  | .debug => "DEBUG"
  | .info => "INFO"
  | .warn => "WARN"
  | .error => "ERROR"

/-- A named value of an entry. -/
inductive LogValue where
  | count (n : Nat)
  | flag (b : Bool)
  | text (s : String)
deriving DecidableEq

structure LogEntry where
  level : LogLevel
  message : String
  fields : List (String × LogValue)
deriving DecidableEq

def LogEntry.warning (message : String) : LogEntry :=
  ⟨.warn, message, []⟩

/-! ## JSON form -/

def LogValue.toJson : LogValue → Json
  | .count n => .int n
  | .flag b => .bool b
  | .text s => .str s

def LogEntry.toJson (e : LogEntry) : Json :=
  .obj [("fields", .ofEntries (e.fields.map fun field => (field.1, field.2.toJson))),
    ("level", .str e.level.name), ("message", .str e.message)]

/-! ## What is logged -/

/-- The entries of checking a configuration: its notices, and the numbers of columns unless the
built-in configuration took over. -/
def Checked.log (c : Checked) : List LogEntry :=
  c.notices.map (.warning ·.message) ++
    match c.basis with
    | .builtIn => []
    | .written dropped =>
        [⟨.debug, "validated table config",
          [("columns", .count c.config.columns.length), ("dropped", .count dropped),
            ("diagnostics", .count c.notices.length)]⟩]

/-- The entry for a source for which a part stands in for its assembly. -/
def ModelSource.standInEntry (source : ModelSource) : LogEntry :=
  ⟨.warn, "assembly main-part value unavailable, using part value",
    [("source", .text source.key), ("fallback", .text source.partFallbackKey)]⟩

/-- The entries of making a table of a snapshot; an empty one leaves none. -/
def Table.log (t : Table) (s : Snapshot) : List LogEntry :=
  if s.isEmpty then []
  else if t.notices ≠ [] then t.notices.map (.warning ·.message)
  else
    t.standInSources.map ModelSource.standInEntry ++
      [⟨.debug, "built phase rows",
        [("rows", .count t.rows.length), ("objects", .count s.objects.length),
          ("catalog", .count s.catalog.length)]⟩]

def Query.log (q : Query) : List LogEntry :=
  [⟨.debug, "built phase predicate tree",
    [("phases", .count q.predicate.children.length), ("diagnostics", .count q.notices.length)]⟩]

end PhaseTable
