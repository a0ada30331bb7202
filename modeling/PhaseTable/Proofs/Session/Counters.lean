/-
# PhaseTable.Proofs.Session.Counters -- the counters account for every filter

A query has at most one condition for each filter of its selection: the filters of a phase are those
that the selection has for it, repeats left out, and a filter has one condition or none
(`Query.conditionCount_le`).  Conditions are counted as the members of a group but its first, which
is the test for the phase; no other member is one (`Query.conditionCount_eq`).

So what is counted as dropped is what is missing, call by call (`Call.filters_eq`).  The counters
wrap; a run adds to them what its calls add (`Session.metrics_run`), and the replies depend on the
columns only (`Session.replies_run`).
-/
import PhaseTable.Proofs.Config.FixedPoint
import PhaseTable.Proofs.Filter.Proper
import PhaseTable.Proofs.Query.Groups
import PhaseTable.Proofs.Table.Phases
import PhaseTable.Session.Calls

namespace PhaseTable

set_option autoImplicit false

/-! ## Conditions -/

/-- The tree is a comparison with the number of the phase. -/
def Predicate.testsPhase : Predicate → Bool
  | .leaf ⟨.phaseNumber, _⟩ => true
  | _ => false

/-- The members of the groups, the tests for their phases left out. -/
def Query.conditions (q : Query) : List Predicate :=
  (q.predicate.children.flatMap Predicate.children).filter (!·.testsPhase)

/-- A proper tree does not ask for the phase. -/
theorem Predicate.Proper.testsPhase {p : Predicate} (proper : p.Proper) : p.testsPhase = false := by
  cases proper with
  | @leaf c proper =>
      obtain ⟨field, test⟩ := c
      obtain ⟨name, custom, -⟩ := proper.field
      cases custom
      rfl
  | and several each => rfl
  | or several each => rfl

namespace Criteria

/-- All members of a group but the first are conditions. -/
theorem conditions_group (c : Criteria) :
    c.group.children.filter (!·.testsPhase) = c.group.children.tail := by
  have proper : ∀ p ∈ c.filters.filterMap Filter.condition?, (!p.testsPhase) = true := by
    intro p listed
    obtain ⟨f, -, made⟩ := List.mem_filterMap.mp listed
    rw [(Filter.proper_of_condition (Filter.condition?_eq_some_iff.mp made)).testsPhase]
    rfl
  show (phaseTest c.phase :: _).filter _ = _
  rw [List.filter_cons_of_neg (by simp [phaseTest, Predicate.compareNumber, Predicate.testsPhase]),
    List.filter_eq_self.mpr proper]
  rfl

end Criteria

namespace Query

theorem conditionCount_eq (selection : List Criteria) :
    (ofSelection selection).conditionCount = (ofSelection selection).conditions.length := by
  rw [conditionCount, conditions, children_ofSelection, List.filter_flatMap]
  congr 1
  simp only [List.flatMap_map, Criteria.conditions_group]

/-- Each filter of a selection is for one of its phases. -/
theorem sum_length_filtersOf (selection : List Criteria) :
    ((selectionPhases selection).map fun n => (filtersOf selection n).length).sum =
      (selection.flatMap Criteria.filters).length := by
  -- the filters, each with its phase, are what is put in groups
  let phased (c : Criteria) := c.filters.map (c.phase, ·)
  have own : ∀ n, (filtersOf selection n).length =
      ((selection.flatMap phased).filter (·.1 = n)).length := by
    intro n
    rw [filtersOf, List.filter_flatMap]
    induction selection with
    | nil => rfl
    | cons c rest ih =>
        rw [List.flatMap_cons, List.length_append, ← ih]
        by_cases same : c.phase = n
        · simp [phased, same, List.filter_map, Function.comp_def]
        · simp [phased, same]
  have covers : ∀ entry ∈ selection.flatMap phased, entry.1 ∈ selectionPhases selection := by
    intro entry listed
    obtain ⟨c, member, listed⟩ := List.mem_flatMap.mp listed
    obtain ⟨f, -, rfl⟩ := List.mem_map.mp listed
    exact mem_selectionPhases.mpr ⟨c, member, rfl⟩
  have nodup := (ascending_selectionPhases selection).imp Int32.ne_of_lt
  simp only [own, sum_length_filter _ nodup covers, List.length_flatMap, phased, List.length_map]

/-- A phase has at most one condition for each of its filters. -/
theorem length_conditions_le (selection : List Criteria) (n : Int32) :
    (Criteria.ofPhase selection n).group.children.tail.length ≤ (filtersOf selection n).length :=
  calc ((countingFilters (filtersOf selection n)).filterMap Filter.condition?).length
      ≤ (countingFilters (filtersOf selection n)).length := List.length_filterMap_le _ _
    _ ≤ ((filtersOf selection n).filter Filter.isUsable).length :=
        (Text.distinctBy_sublist _).length_le
    _ ≤ (filtersOf selection n).length := List.length_filter_le _ _

/-- **A query has at most one condition for each filter of its selection.** -/
theorem conditionCount_le (selection : List Criteria) :
    (ofSelection selection).conditionCount ≤ (selection.flatMap Criteria.filters).length := by
  rw [conditionCount, children_ofSelection, List.flatMap_map, List.length_flatMap,
    ← sum_length_filtersOf]
  calc ((positivePhases selection).map fun n =>
        (Criteria.ofPhase selection n).group.children.tail.length).sum
      ≤ ((positivePhases selection).map fun n => (filtersOf selection n).length).sum :=
        List.sum_le_sum fun n _ => length_conditions_le selection n
    _ ≤ ((selectionPhases selection).map fun n => (filtersOf selection n).length).sum :=
        (List.filter_sublist.map _).sum_le_sum fun _ _ => Nat.zero_le _

end Query

/-! ## Calls and replies -/

/-- The conditions that came of the filters of a call. -/
def Reply.conditions : Reply → List Predicate
  | .query q _ => q.conditions
  | .table _ => []

namespace Call

/-- The reply to a call, in a table with the given columns. -/
def answer (columns : List Column) : Call → Reply
  | .query selection =>
      let query := Query.ofSelection selection
      .query query (.of selection query.predicate)
  | .table snapshot => .table (.ofSnapshot snapshot columns)

/-- The number of filters of the call that are missing in the reply. -/
def dropped (c : Call) (r : Reply) : Nat :=
  c.filters.length - r.conditions.length

/-- Each filter of a call is found in the reply or counted as missing. -/
theorem filters_eq (c : Call) (columns : List Column) :
    c.filters.length = (c.answer columns).conditions.length + c.dropped (c.answer columns) := by
  have le : (c.answer columns).conditions.length ≤ c.filters.length := by
    cases c with
    | query selection =>
        have counted := Query.conditionCount_le selection
        rwa [Query.conditionCount_eq] at counted
    | table snapshot => exact Nat.zero_le _
  rw [dropped]
  omega

end Call

/-- A table is made without a notice if there are columns. -/
theorem Table.notices_ofSnapshot {columns : List Column} (listed : columns ≠ []) (s : Snapshot) :
    (ofSnapshot s columns).notices = [] := by
  rw [ofSnapshot, List.isEmpty_eq_false_iff.mpr listed]
  split <;> rfl

/-! ## Totals -/

/-- What the counters of a session count, without bounds. -/
structure Totals where
  queries : Nat
  filters : Nat
  conditions : Nat
  dropped : Nat
  tables : Nat
  rows : Nat
  messages : Nat

namespace Totals

/-- What calls and the replies to them come to. -/
def of (calls : List Call) (replies : List Reply) : Totals where
  queries := calls.countP Call.isQuery
  filters := (calls.flatMap Call.filters).length
  conditions := (replies.flatMap Reply.conditions).length
  dropped := (List.zipWith Call.dropped calls replies).sum
  tables := calls.countP (!·.isQuery)
  rows := (replies.flatMap Reply.rows).length
  messages := (replies.flatMap Reply.messages).length

theorem of_query (selection : List Criteria) (q : Query) (outcome : ApplyOutcome) :
    of [.query selection] [.query q outcome] =
      ⟨1, (selection.flatMap Criteria.filters).length, q.conditions.length,
        (selection.flatMap Criteria.filters).length - q.conditions.length, 0, 0,
        q.notices.length⟩ := by
  simp [of, Call.isQuery, Call.filters, Call.dropped, Reply.conditions, Reply.rows, Reply.messages]

theorem of_table (snapshot : Snapshot) (t : Table) :
    of [.table snapshot] [.table t] = ⟨0, 0, 0, 0, 1, t.rows.length, t.notices.length⟩ := by
  simp [of, Call.isQuery, Call.filters, Call.dropped, Reply.conditions, Reply.rows, Reply.messages]

end Totals

namespace Metrics

def plus (m : Metrics) (t : Totals) : Metrics where
  compilations := m.compilations + .ofNat t.queries
  filtersSeen := m.filtersSeen + .ofNat t.filters
  filtersCompiled := m.filtersCompiled + .ofNat t.conditions
  filtersDropped := m.filtersDropped + .ofNat t.dropped
  rowBuilds := m.rowBuilds + .ofNat t.tables
  rowsBuilt := m.rowsBuilt + .ofNat t.rows
  diagnostics := m.diagnostics + .ofNat t.messages

theorem plus_of_nil (m : Metrics) : m.plus (.of [] []) = m := by
  simp [plus, Totals.of]

/-- Calls add to the counters one after the other. -/
theorem plus_of_cons (m : Metrics) (c : Call) (r : Reply) (calls : List Call)
    (replies : List Reply) :
    m.plus (.of (c :: calls) (r :: replies)) = (m.plus (.of [c] [r])).plus (.of calls replies) := by
  simp [plus, Totals.of, List.countP_cons, Nat.add_comm (List.countP _ _), UInt64.add_assoc]

/-- Each counter shows its total as far as 64 bits go. -/
structure Shows (m : Metrics) (t : Totals) : Prop where
  compilations : m.compilations.toNat = t.queries % 2 ^ 64
  filtersSeen : m.filtersSeen.toNat = t.filters % 2 ^ 64
  filtersCompiled : m.filtersCompiled.toNat = t.conditions % 2 ^ 64
  filtersDropped : m.filtersDropped.toNat = t.dropped % 2 ^ 64
  rowBuilds : m.rowBuilds.toNat = t.tables % 2 ^ 64
  rowsBuilt : m.rowsBuilt.toNat = t.rows % 2 ^ 64
  diagnostics : m.diagnostics.toNat = t.messages % 2 ^ 64

end Metrics

/-! ## Sessions -/

namespace Session

theorem config_tell (s : Session) (stage : Stage) (messages : Messages) :
    (s.tell stage messages).config = s.config := by
  unfold tell
  split <;> rfl

theorem metrics_tell (s : Session) (stage : Stage) (messages : Messages) :
    (s.tell stage messages).metrics = s.metrics := by
  unfold tell
  split <;> rfl

theorem config_call (s : Session) (c : Call) : (s.call c).1.config = s.config := by
  cases c with
  | query selection => exact config_tell _ _ _
  | table snapshot => exact config_tell _ _ _

theorem reply_call (s : Session) (c : Call) : (s.call c).2 = c.answer s.config.columns := by
  cases c <;> rfl

/-- A call adds to the counters what it hands over and what it gets back. -/
theorem metrics_call (s : Session) (c : Call) :
    (s.call c).1.metrics = s.metrics.plus (.of [c] [(s.call c).2]) := by
  cases c with
  | query selection =>
      refine (metrics_tell _ _ _).trans ?_
      rw [reply_call, Call.answer, Totals.of_query, ← Query.conditionCount_eq]
      simp [Metrics.plus, Metrics.addQuery, Metrics.addMessages, addLog, filterCount]
  | table snapshot =>
      refine (metrics_tell _ _ _).trans ?_
      rw [reply_call, Call.answer, Totals.of_table]
      simp [Metrics.plus, Metrics.addTable, Metrics.addMessages, addLog]

/-- The replies of a run are those to its calls, each by itself. -/
theorem replies_run (s : Session) (calls : List Call) :
    (s.run calls).2 = calls.map (·.answer s.config.columns) := by
  induction calls generalizing s with
  | nil => rfl
  | cons c rest ih =>
      show (s.call c).2 :: ((s.call c).1.run rest).2 = _
      rw [ih, reply_call, config_call, List.map_cons]

/-- A run adds to the counters what its calls add. -/
theorem metrics_run (s : Session) (calls : List Call) :
    (s.run calls).1.metrics = s.metrics.plus (.of calls (s.run calls).2) := by
  induction calls generalizing s with
  | nil => exact s.metrics.plus_of_nil.symm
  | cons c rest ih =>
      show ((s.call c).1.run rest).1.metrics =
        s.metrics.plus (.of (c :: rest) ((s.call c).2 :: ((s.call c).1.run rest).2))
      rw [ih, metrics_call, ← Metrics.plus_of_cons]

/-- Each filter that is handed over comes back as a condition or is counted as missing. -/
theorem filters_run (columns : List Column) (calls : List Call) :
    let totals := Totals.of calls (calls.map (·.answer columns))
    totals.filters = totals.conditions + totals.dropped := by
  induction calls with
  | nil => rfl
  | cons c rest ih =>
      simp only [Totals.of, List.flatMap_cons, List.map_cons, List.length_append,
        List.zipWith_cons_cons, List.sum_cons] at ih ⊢
      rw [ih, c.filters_eq columns]
      omega

/-- **The counters account for every filter over whole runs.**  Whatever is written as the
configuration, and whatever is asked of the session after that: each counter shows its total as far
as 64 bits go, the messages on the configuration included.  There are no more conditions than
filters, what is counted as dropped is the rest, and no table comes with a message. -/
theorem counters_of_run (raw : Option Config) (calls : List Call) :
    let session := ofConfig raw
    let replies := (session.run calls).2
    let totals := Totals.of calls replies
    (session.run calls).1.metrics.Shows
        { totals with messages := session.configMessages.length + totals.messages } ∧
      totals.conditions ≤ totals.filters ∧
      totals.filters = totals.conditions + totals.dropped ∧
      ∀ t, .table t ∈ replies → t.notices = [] := by
  intro session replies totals
  have answered : replies = calls.map (·.answer session.config.columns) := replies_run session calls
  have filters : totals.filters = totals.conditions + totals.dropped := by
    have sum := filters_run session.config.columns calls
    rwa [← answered] at sum
  refine ⟨?_, by omega, filters, fun t listed => ?_⟩
  · have start : session.metrics = ⟨0, 0, 0, 0, 0, 0, .ofNat session.configMessages.length⟩ := by
      simp [session, ofConfig, start, Metrics.zero, Metrics.addMessages]
    have counted : (session.run calls).1.metrics = session.metrics.plus totals :=
      metrics_run session calls
    rw [counted, start]
    constructor <;> simp [Metrics.plus]
  · rw [answered] at listed
    obtain ⟨c, -, made⟩ := List.mem_map.mp listed
    cases c with
    | query selection => cases made
    | table snapshot =>
        cases made
        exact Table.notices_ofSnapshot (Config.wellFormed_check raw).columns_ne_nil snapshot

end Session

end PhaseTable
