import NodeTelemetry.Proofs.History
import NodeTelemetry.Proofs.Lists
import NodeTelemetry.Proofs.Service.Run

/-!
# The logs of a run

Which entries the two histories are given is a matter of the actions alone: the events of accepted
posts (`Action.event?`) and the samples of the sampler (`Action.sample?`), in order. The log of a
history is the list of all of them, and what a collector keeps of a history is the end of its log
(`entries_collectorAfter`); the newest entry is the last one (`newest?_collectorAfter`).
-/

namespace NodeTelemetry.Service

/-! ### Entries of actions -/

/-- The event that an action gives to the events. -/
def Action.event? : Action → Option Event
  | .request now surface r _ =>
    if IsPost surface r ∧ r.body.length ≤ bodyLimit then (postedEvent now r.body).toOption else none
  | _ => none

/-- The sample that an action gives to the samples. -/
def Action.sample? : Action → Option Sample
  | .effect (.sampled x _ _) => some x
  | .sample x => some x
  | _ => none

theorem event?_of_not_isPost {surface : Surface} {r : Request} (h : ¬IsPost surface r)
    (now : Time.Instant) (opening : Opening) :
    (Action.request now surface r opening).event? = none := if_neg fun hpost => h hpost.1

theorem event?_of_long {r : Request} (h : bodyLimit < r.body.length) (now : Time.Instant)
    (surface : Surface) (opening : Opening) :
    (Action.request now surface r opening).event? = none :=
  if_neg fun hpost => Nat.not_le_of_lt h hpost.2

theorem event?_of_isPost {surface : Surface} {r : Request} (h : IsPost surface r)
    (hshort : r.body.length ≤ bodyLimit) (now : Time.Instant) (opening : Opening) :
    (Action.request now surface r opening).event? = (postedEvent now r.body).toOption :=
  if_pos ⟨h, hshort⟩

theorem events_write (s : Store) (a : Action) :
    (a.write s).events = s.events.appendAll a.event?.toList := by
  cases a with
  | request now surface r opening =>
    unfold Action.write Action.event?
    by_cases hpost : IsPost surface r ∧ r.body.length ≤ bodyLimit
    · simp only [if_pos hpost]
      cases postedEvent now r.body with
      | error e => rfl
      | ok e => rfl
    · simp only [if_neg hpost]
      rfl
  | effect e =>
    cases e with
    | called | failed | sampled | ended => rfl
  | sample | health | advance | receive | disconnect | wait | pump | take => rfl

theorem samples_write (s : Store) (a : Action) :
    (a.write s).samples = s.samples.appendAll a.sample?.toList := by
  cases a with
  | request now surface r opening =>
    show Store.samples (if IsPost surface r ∧ r.body.length ≤ bodyLimit then _ else _) = s.samples
    split
    · cases postedEvent now r.body with
      | error e => rfl
      | ok e => rfl
    · rfl
  | effect e =>
    cases e with
    | called | failed | sampled | ended => rfl
  | sample | health | advance | receive | disconnect | wait | pump | take => rfl

theorem events_step (s : Service) (a : Action) :
    (s.step a).store.events = s.store.events.appendAll a.event?.toList := by
  obtain ⟨streams, events, h⟩ := store_step s a
  rw [h]
  exact events_write s.store a

theorem samples_step (s : Service) (a : Action) :
    (s.step a).store.samples = s.store.samples.appendAll a.sample?.toList := by
  obtain ⟨streams, events, h⟩ := store_step s a
  rw [h]
  exact samples_write s.store a

/-- A history to which each step gives at most one entry is given the entries of a run in order. -/
theorem appendAll_run {α : Type} (history : Store → History α) (given : Action → Option α)
    (hstep : ∀ (s : Service) (a : Action),
      history (s.step a).store = (history s.store).appendAll (given a).toList)
    (s : Service) (as : List Action) :
    history (s.run as).store = (history s.store).appendAll (as.filterMap given) := by
  induction as generalizing s with
  | nil => rfl
  | cons a as ih =>
    rw [run_cons, ih, hstep, ← History.appendAll_append, filterMap_cons_toList]

/-- The events after a run are those before it and those that its actions give. -/
theorem events_run (s : Service) (as : List Action) :
    (s.run as).store.events = s.store.events.appendAll (as.filterMap Action.event?) :=
  appendAll_run Store.events Action.event? events_step s as

/-- The samples after a run are those before it and those that its actions give. -/
theorem samples_run (s : Service) (as : List Action) :
    (s.run as).store.samples = s.store.samples.appendAll (as.filterMap Action.sample?) :=
  appendAll_run Store.samples Action.sample? samples_step s as

/-! ### Logs -/

/-- The entries that some actions give to a history, in order. -/
def logOf : Scope → List Action → List Json
  | .stats, as => (as.filterMap Action.sample?).map Sample.toJson
  | .events, as => (as.filterMap Action.event?).map Event.toJson

theorem logOf_append (scope : Scope) (as bs : List Action) :
    logOf scope (as ++ bs) = logOf scope as ++ logOf scope bs := by
  cases scope with
  | stats => simp [logOf, List.filterMap_append]
  | events => simp [logOf, List.filterMap_append]

/-- The service of a collector that has kept nothing at first, after some actions. -/
def collectorAfter (node : String) (capacity periodMs : Nat) (as : List Action) : Service :=
  (start node (.empty capacity) periodMs).run as

section Collector

variable (node : String) (capacity periodMs : Nat)

theorem collectorAfter_append (as bs : List Action) :
    collectorAfter node capacity periodMs (as ++ bs) =
      (collectorAfter node capacity periodMs as).run bs := run_append _ as bs

theorem collectorAfter_step (as : List Action) (a : Action) :
    (collectorAfter node capacity periodMs as).step a =
      collectorAfter node capacity periodMs (as ++ [a]) :=
  (collectorAfter_append node capacity periodMs as [a]).symm

theorem samples_collectorAfter (as : List Action) :
    (collectorAfter node capacity periodMs as).store.samples =
      (History.empty capacity).appendAll (as.filterMap Action.sample?) := samples_run _ as

theorem events_collectorAfter (as : List Action) :
    (collectorAfter node capacity periodMs as).store.events =
      (History.empty capacity).appendAll (as.filterMap Action.event?) := events_run _ as

/-- The histories hold the ends of their logs. -/
theorem entries_collectorAfter (as : List Action) (scope : Scope) :
    (collectorAfter node capacity periodMs as).store.entries scope =
      (logOf scope as).drop ((logOf scope as).length - max capacity 1) := by
  cases scope with
  | stats =>
    show List.map Sample.toJson (Store.samples _).entries = _
    rw [samples_collectorAfter, History.entries_appendAll_empty, List.map_drop, logOf,
      List.length_map]
  | events =>
    show List.map Event.toJson (Store.events _).entries = _
    rw [events_collectorAfter, History.entries_appendAll_empty, List.map_drop, logOf,
      List.length_map]

/-- The newest entry is the last one of the log. -/
theorem newest?_collectorAfter (as : List Action) (scope : Scope) :
    (collectorAfter node capacity periodMs as).store.newest? scope = (logOf scope as).getLast? := by
  cases scope with
  | stats =>
    have h := (History.holds_empty capacity).appendAll (as.filterMap Action.sample?)
    show Option.map Sample.toJson (Store.samples _).latest? = _
    rw [samples_collectorAfter, logOf, List.getLast?_map, h.latest?]
    rfl
  | events =>
    have h := (History.holds_empty capacity).appendAll (as.filterMap Action.event?)
    show Option.map Event.toJson (Store.events _).latest? = _
    rw [events_collectorAfter, logOf, List.getLast?_map, h.latest?]
    rfl

end Collector

end NodeTelemetry.Service
