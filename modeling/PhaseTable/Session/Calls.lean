/-
# PhaseTable.Session.Calls -- what is asked of a session, one thing after the other

A session is asked for queries and for tables.  Each call leaves a reply, and the session for the
next call; `Session.run` makes calls one after the other.  What a call adds to the counters and what
it tells the observers is kept by the session, so a run is all that there is to see of it.
-/
import PhaseTable.Session

namespace PhaseTable

set_option autoImplicit false

/-- What is asked of a session. -/
inductive Call where
  /-- The query for a selection. -/
  | query (selection : List Criteria)
  /-- The table of a snapshot. -/
  | table (snapshot : Snapshot)

namespace Call

def isQuery : Call → Bool
  | .query _ => true
  | .table _ => false

def filters : Call → List Filter
  | .query selection => selection.flatMap Criteria.filters
  | .table _ => []

end Call

inductive Reply where
  | query (query : Query) (outcome : ApplyOutcome)
  | table (table : Table)

namespace Reply

def messages : Reply → Messages
  | .query q _ => q.notices.map QueryNotice.message
  | .table t => t.notices.map TableNotice.message

def stage : Reply → Stage
  | .query _ _ => .compile
  | .table _ => .aggregate

def rows : Reply → List Row
  | .query _ _ => []
  | .table t => t.rows

end Reply

namespace Session

def call (s : Session) : Call → Session × Reply
  | .query selection =>
      let (s, query, outcome) := s.makeQuery selection
      (s, .query query outcome)
  | .table snapshot =>
      let (s, table) := s.makeTable snapshot
      (s, .table table)

/-- Answers calls one after the other. -/
def run (s : Session) : List Call → Session × List Reply
  | [] => (s, [])
  | c :: rest =>
      let (s, reply) := s.call c
      let (s, replies) := s.run rest
      (s, reply :: replies)

end Session

end PhaseTable
