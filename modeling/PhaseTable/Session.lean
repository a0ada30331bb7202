/-
# PhaseTable.Session -- working with one table

A session keeps a checked configuration and counts what is done with it.  Messages are
told to its observers, those on the configuration as soon as there is an observer; a
message whose severity reaches the threshold is told once more, as an alert.

What was told is a list of deliveries.  What an observer has seen, and what it has
logged, are views of that list.
-/
import PhaseTable.Config.Loading
import PhaseTable.Event

namespace PhaseTable

set_option autoImplicit false

/-! ## Counters -/

/-- The counters of a session; they wrap. -/
structure Metrics where
  compilations : UInt64
  filtersSeen : UInt64
  filtersCompiled : UInt64
  filtersDropped : UInt64
  rowBuilds : UInt64
  rowsBuilt : UInt64
  diagnostics : UInt64
deriving DecidableEq

namespace Metrics

def zero : Metrics :=
  ⟨0, 0, 0, 0, 0, 0, 0⟩

def counterText (n : UInt64) : String :=
  intText n.toNat

/-- The counters with one more query, for so many filters that gave so many conditions. -/
def addQuery (m : Metrics) (seen compiled : Nat) : Metrics :=
  { m with
    compilations := m.compilations + 1
    filtersSeen := m.filtersSeen + .ofNat seen
    filtersCompiled := m.filtersCompiled + .ofNat compiled
    filtersDropped := m.filtersDropped + .ofNat (seen - compiled) }

def addTable (m : Metrics) (rows : Nat) : Metrics :=
  { m with rowBuilds := m.rowBuilds + 1, rowsBuilt := m.rowsBuilt + .ofNat rows }

def addMessages (m : Metrics) (n : Nat) : Metrics :=
  { m with diagnostics := m.diagnostics + .ofNat n }

def text (m : Metrics) : String :=
  "compilations=" ++ counterText m.compilations ++ ", filters=" ++ counterText m.filtersCompiled ++
    "/" ++ counterText m.filtersSeen ++ " (dropped=" ++ counterText m.filtersDropped ++
    "), rows=" ++ counterText m.rowsBuilt ++ " over " ++ counterText m.rowBuilds ++
    " builds, diagnostics=" ++ counterText m.diagnostics

def toJson (m : Metrics) : Json :=
  .obj [("compilations", .int m.compilations.toNat), ("diagnostics", .int m.diagnostics.toNat),
    ("filtersCompiled", .int m.filtersCompiled.toNat),
    ("filtersDropped", .int m.filtersDropped.toNat), ("filtersSeen", .int m.filtersSeen.toNat),
    ("rowBuilds", .int m.rowBuilds.toNat), ("rowsBuilt", .int m.rowsBuilt.toNat)]

end Metrics

/-! ## Observers -/

inductive Delivery where
  | message (event : Event)
  | alert (event : Event)
deriving DecidableEq

def Delivery.event : Delivery → Event
  | .message event | .alert event => event

/-- The deliveries of an event. -/
def Event.deliveries (threshold : Severity) (e : Event) : List Delivery :=
  if e.severity.reaches threshold then [.message e, .alert e] else [.message e]

/-- What an observer does with deliveries. -/
inductive Observer where
  /-- Keeps messages and alerts apart. -/
  | collector
  /-- Takes alerts for messages. -/
  | messagesOnly
  /-- Logs messages at the level of their severity, and alerts as errors. -/
  | logger
deriving DecidableEq

namespace Observer

def messages : Observer → List Delivery → List Event
  | .collector, deliveries =>
      deliveries.filterMap fun
        | .message event => some event
        | .alert _ => none
  | .messagesOnly, deliveries => deliveries.map Delivery.event
  | .logger, _ => []

def alerts : Observer → List Delivery → List Event
  | .collector, deliveries =>
      deliveries.filterMap fun
        | .message _ => none
        | .alert event => some event
  | _, _ => []

def level : Severity → LogLevel
  | .info => .info
  | .warning => .warn
  | .error => .error

def log : Observer → Delivery → List LogEntry
  | .logger, .message e => [⟨level e.severity, e.message, [("stage", .text e.stage.name)]⟩]
  | .logger, .alert e =>
      [⟨.error, e.message,
        [("stage", .text e.stage.name), ("severity", .text e.severity.name),
          ("alert", .flag true)]⟩]
  | _, _ => []

end Observer

/-! ## Sessions -/

/-- A checked configuration, with what was done with it. -/
structure Session where
  config : Config
  /-- The messages on the configuration. -/
  configMessages : Messages
  observers : List Observer
  /-- The least severity of an alert. -/
  threshold : Severity
  metrics : Metrics
  /-- What was told to the observers. -/
  deliveries : List Delivery
  log : List LogEntry

namespace Session

def addLog (s : Session) (entries : List LogEntry) : Session :=
  { s with log := s.log ++ entries }

/-- The session after messages were told to its observers. -/
def tell (s : Session) (stage : Stage) (messages : Messages) : Session :=
  if s.observers = [] then s
  else
    let deliveries := messages.flatMap fun message =>
      (Event.of stage message).deliveries s.threshold
    { s with
      deliveries := s.deliveries ++ deliveries
      log := s.log ++ deliveries.flatMap fun d => s.observers.flatMap (·.log d) }

/-- The session after messages were counted and told. -/
def report (s : Session) (stage : Stage) (messages : Messages) : Session :=
  { s with metrics := s.metrics.addMessages messages.length }.tell stage messages

/-! ### Beginning -/

/-- A new session with a configuration, the messages on it and the log so far. -/
def start (config : Config) (messages : Messages) (log : List LogEntry) : Session where
  config := config
  configMessages := messages
  observers := []
  threshold := .error
  metrics := Metrics.zero.addMessages messages.length
  deliveries := []
  log := log ++
    [⟨.debug, "phase rules ready",
      [("columns", .count config.columns.length), ("diagnostics", .count messages.length)]⟩]

def ofConfig (config : Option Config) : Session :=
  let checked := Config.check config
  start checked.config (checked.notices.map ConfigNotice.message) checked.log

/-- The session for the first configuration that is read from some paths. -/
def ofCandidates (files : FileSystem) (paths : List String) : Session :=
  let loaded := loadFirst files paths
  start loaded.checked.config (loaded.notices.map LoadNotice.message) loaded.log

def withThreshold (s : Session) (threshold : Severity) : Session :=
  { s with threshold }

/-- The session with observers, which are told of the configuration. -/
def observe (s : Session) (observers : List Observer) : Session :=
  { s with observers, deliveries := [] }.tell .config s.configMessages

/-! ### Work -/

def makeTable (s : Session) (snapshot : Snapshot) : Session × Table :=
  let table := Table.ofSnapshot snapshot s.config.columns
  let s := s.addLog (table.log snapshot)
  let s := { s with metrics := s.metrics.addTable table.rows.length }
  (s.report .aggregate (table.notices.map TableNotice.message), table)

def filterCount (selection : List Criteria) : Nat :=
  (selection.flatMap Criteria.filters).length

def queryEntry (outcome : ApplyOutcome) (seen compiled : Nat) : LogEntry :=
  ⟨.debug, "compiled selection",
    [("outcome", .text outcome.name), ("filters", .count seen), ("compiled", .count compiled)]⟩

def makeQuery (s : Session) (selection : List Criteria) : Session × Query × ApplyOutcome :=
  let query := Query.ofSelection selection
  let outcome := ApplyOutcome.of selection query.predicate
  let seen := filterCount selection
  let compiled := query.conditionCount
  let s := s.addLog query.log
  let s := { s with metrics := s.metrics.addQuery seen compiled }
  let s := s.report .compile (query.notices.map QueryNotice.message)
  (s.addLog [queryEntry outcome seen compiled], query, outcome)

/-- The selection that edited rows make in the session's table. -/
def collect (s : Session) (rows : List EditedRow) : List Criteria :=
  collectSelection rows s.config.columns

end Session

end PhaseTable
