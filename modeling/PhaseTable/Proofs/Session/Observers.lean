/-
# PhaseTable.Proofs.Session.Observers -- what the observers of a session are told

An observer is told of the messages on the configuration when it is attached, and of the messages of
each call when the call is made (`Session.deliveries_run`).  Messages are told once and in order
whatever the threshold is.  Whether one is an alert is decided when it is told, so a threshold that
is set after the observers are attached comes too late for the messages on the configuration: these
were held against the threshold of a new session (`Session.told_by_order`).
-/
import PhaseTable.Config.Defaults
import PhaseTable.Proofs.Session.Counters

namespace PhaseTable

set_option autoImplicit false

def Reply.events (r : Reply) : List Event :=
  r.messages.map (Event.of r.stage)

namespace Session

/-! ## Views of the deliveries -/

/-- The events that the observers were told of as messages. -/
def told (s : Session) : List Event :=
  Observer.collector.messages s.deliveries

/-- The events that the observers were told of as alerts. -/
def alerted (s : Session) : List Event :=
  Observer.collector.alerts s.deliveries

theorem messages_deliveries (events : List Event) (threshold : Severity) :
    Observer.collector.messages (events.flatMap (·.deliveries threshold)) = events := by
  induction events with
  | nil => rfl
  | cons e rest ih =>
      rw [Observer.messages] at ih ⊢
      rw [List.flatMap_cons, List.filterMap_append, ih, Event.deliveries]
      split <;> rfl

theorem alerts_deliveries (events : List Event) (threshold : Severity) :
    Observer.collector.alerts (events.flatMap (·.deliveries threshold)) =
      events.filter (·.severity.reaches threshold) := by
  induction events with
  | nil => rfl
  | cons e rest ih =>
      rw [Observer.alerts] at ih ⊢
      rw [List.flatMap_cons, List.filterMap_append, ih, Event.deliveries]
      by_cases reaches : e.severity.reaches threshold = true
      · simp [reaches]
      · simp [reaches]

end Session

theorem Observer.messages_append (xs ys : List Delivery) :
    collector.messages (xs ++ ys) = collector.messages xs ++ collector.messages ys :=
  List.filterMap_append

theorem Observer.alerts_append (xs ys : List Delivery) :
    collector.alerts (xs ++ ys) = collector.alerts xs ++ collector.alerts ys :=
  List.filterMap_append

namespace Session

/-! ## Telling -/

theorem observers_tell (s : Session) (stage : Stage) (messages : Messages) :
    (s.tell stage messages).observers = s.observers := by
  unfold tell
  split <;> rfl

theorem threshold_tell (s : Session) (stage : Stage) (messages : Messages) :
    (s.tell stage messages).threshold = s.threshold := by
  unfold tell
  split <;> rfl

/-- Observers are told of each message, in the light of the threshold. -/
theorem deliveries_tell {s : Session} (observed : s.observers ≠ []) (stage : Stage)
    (messages : Messages) :
    (s.tell stage messages).deliveries =
      s.deliveries ++ (messages.map (Event.of stage)).flatMap (·.deliveries s.threshold) := by
  rw [tell, if_neg observed, List.flatMap_map]

/-! ## Calls -/

theorem observers_call (s : Session) (c : Call) : (s.call c).1.observers = s.observers := by
  cases c with
  | query selection => exact observers_tell _ _ _
  | table snapshot => exact observers_tell _ _ _

theorem threshold_call (s : Session) (c : Call) : (s.call c).1.threshold = s.threshold := by
  cases c with
  | query selection => exact threshold_tell _ _ _
  | table snapshot => exact threshold_tell _ _ _

/-- A call tells of the messages of its reply. -/
theorem deliveries_call {s : Session} (observed : s.observers ≠ []) (c : Call) :
    (s.call c).1.deliveries =
      s.deliveries ++ (s.call c).2.events.flatMap (·.deliveries s.threshold) := by
  cases c with
  | query selection => exact deliveries_tell (by exact observed) .compile _
  | table snapshot => exact deliveries_tell (by exact observed) .aggregate _

/-- A run tells of the messages of its replies, each once and in order. -/
theorem deliveries_run {s : Session} (observed : s.observers ≠ []) (calls : List Call) :
    (s.run calls).1.deliveries =
      s.deliveries ++
        ((s.run calls).2.flatMap Reply.events).flatMap (·.deliveries s.threshold) := by
  induction calls generalizing s with
  | nil => exact (List.append_nil _).symm
  | cons c rest ih =>
      have later := ih (s := (s.call c).1) (by rwa [observers_call])
      rw [deliveries_call observed, threshold_call] at later
      show ((s.call c).1.run rest).1.deliveries =
        s.deliveries ++ (((s.call c).2 :: ((s.call c).1.run rest).2).flatMap Reply.events).flatMap _
      rw [later, List.flatMap_cons, List.flatMap_append, List.append_assoc]

/-- What a session is asked is answered in the same way whoever watches. -/
theorem replies_congr {s t : Session} (same : s.config = t.config) (calls : List Call) :
    (s.run calls).2 = (t.run calls).2 := by
  rw [replies_run, replies_run, same]

/-- After events that were told in the light of some threshold, a run tells of those of its
replies. -/
theorem told_run {s : Session} (observed : s.observers ≠ []) {before : List Event}
    {limit : Severity} (earlier : s.deliveries = before.flatMap (·.deliveries limit))
    (calls : List Call) {later : List Event}
    (replies : (s.run calls).2.flatMap Reply.events = later) :
    (s.run calls).1.told = before ++ later ∧
      (s.run calls).1.alerted =
        before.filter (·.severity.reaches limit) ++
          later.filter (·.severity.reaches s.threshold) := by
  have all_ : (s.run calls).1.deliveries =
      before.flatMap (·.deliveries limit) ++ later.flatMap (·.deliveries s.threshold) := by
    rw [deliveries_run observed, earlier, replies]
  constructor
  · rw [told, all_, Observer.messages_append, messages_deliveries, messages_deliveries]
  · rw [alerted, all_, Observer.alerts_append, alerts_deliveries, alerts_deliveries]

/-! ## The order of attaching -/

def configEvents (s : Session) : List Event :=
  s.configMessages.map (Event.of .config)

section Observe

variable (s : Session) (observers : List Observer)

theorem config_observe : (s.observe observers).config = s.config :=
  config_tell _ _ _

theorem observers_observe : (s.observe observers).observers = observers :=
  observers_tell _ _ _

theorem threshold_observe : (s.observe observers).threshold = s.threshold :=
  threshold_tell _ _ _

variable {observers}

/-- Observers are told of the configuration in the light of the threshold that there is. -/
theorem deliveries_observe (some_ : observers ≠ []) :
    (s.observe observers).deliveries = s.configEvents.flatMap (·.deliveries s.threshold) :=
  deliveries_tell (by exact some_) .config _

end Observe

/-- **What observers are told, by the order in which they and the threshold are set.**  In both
orders they are told of the messages on the configuration and then of those of each call, each once
and in order.  If the threshold is set first, the alerts are those of them that reach it.  If the
observers are attached first, the messages on the configuration are alerts only as errors, and those
of the calls if they reach the threshold. -/
theorem told_by_order (raw : Option Config) (observer : Observer) (others : List Observer)
    (threshold : Severity) (calls : List Call) :
    let fresh := ofConfig raw
    let limited := (((fresh.withThreshold threshold).observe (observer :: others)).run calls).1
    let attached := (((fresh.observe (observer :: others)).withThreshold threshold).run calls).1
    let later := (fresh.run calls).2.flatMap Reply.events
    limited.told = fresh.configEvents ++ later ∧
      limited.alerted =
        (fresh.configEvents ++ later).filter (·.severity.reaches threshold) ∧
      attached.told = fresh.configEvents ++ later ∧
      attached.alerted = fresh.configEvents.filter (·.severity.reaches .error) ++
        later.filter (·.severity.reaches threshold) := by
  intro fresh limited attached later
  have some_ : observer :: others ≠ [] := List.cons_ne_nil _ _
  have observed (s : Session) : (s.observe (observer :: others)).observers ≠ [] := by
    rwa [observers_observe]
  have answered (s : Session) (same : s.config = fresh.config) :
      (s.run calls).2.flatMap Reply.events = later := by
    rw [replies_congr same]
  obtain ⟨limitedTold, limitedAlerted⟩ := told_run (observed (fresh.withThreshold threshold))
    (deliveries_observe _ some_) calls (answered _ (config_observe _ _))
  obtain ⟨attachedTold, attachedAlerted⟩ := told_run
    (s := (fresh.observe (observer :: others)).withThreshold threshold) (observed fresh)
    (deliveries_observe fresh some_) calls (answered _ (config_observe fresh _))
  rw [threshold_observe] at limitedAlerted
  exact ⟨limitedTold, by rw [List.filter_append]; exact limitedAlerted, attachedTold,
    attachedAlerted⟩

def twiceListed : Config :=
  ⟨2, "number", ["select"],
    List.replicate 2 (.switch excludeExisting "Exclude Existing" 1)⟩

/-- The column that is skipped is worth a warning, but no alert comes of it if the observer is
attached before warnings become alerts. -/
theorem warning_not_alerted :
    let fresh := ofConfig (some twiceListed)
    let limited := (((fresh.withThreshold .warning).observe [.collector]).run []).1
    let attached := (((fresh.observe [.collector]).withThreshold .warning).run []).1
    let skipped : Event :=
      ⟨.config, .warning, "config skipped duplicate column key: exclude_existing"⟩
    attached.told.filter (·.severity.reaches .warning) = [skipped] ∧
      limited.alerted = [skipped] ∧ attached.alerted = [] := by
  decide +kernel

end Session

end PhaseTable
