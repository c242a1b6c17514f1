import NodeTelemetry.Proofs.Service.Senders

/-!
# Queries only read

Requests to the query surface, the streams that they open and the passing of time write nothing to
what is kept: they may set two levels in the metrics, the open streams and the length of the event
history when last counted, and nothing else (`Store.Relevelled`).

What is kept after a run is therefore what the other actions of the run write, one after the other
(`relevelled_run`): the queries in between, and the senders that go on all the while, can be left
out. The same holds when senders end by themselves (`Senders.relevelled_run`).
-/

namespace NodeTelemetry

/-! ### Levels -/

/-- One store is the other with other levels in its metrics. -/
def Store.Relevelled (s t : Store) : Prop := ∃ streams events, t = s.relevel streams events

namespace Store.Relevelled

variable {s t u : Store}

theorem refl (s : Store) : s.Relevelled s :=
  ⟨s.metrics.activeStreams, s.metrics.eventsItems, rfl⟩

theorem symm (h : s.Relevelled t) : t.Relevelled s := by
  obtain ⟨streams, events, rfl⟩ := h
  exact ⟨s.metrics.activeStreams, s.metrics.eventsItems, rfl⟩

theorem trans (h : s.Relevelled t) (h' : t.Relevelled u) : s.Relevelled u := by
  obtain ⟨streams, events, rfl⟩ := h
  obtain ⟨streams', events', rfl⟩ := h'
  exact ⟨streams', events', rfl⟩

end Store.Relevelled

/-- Two stores have kept the same and have counted the same samples, posts and failed reads. -/
structure Store.SameKept (s t : Store) : Prop where
  /-- The samples are the same. -/
  samples_eq : t.samples = s.samples
  /-- The events are the same. -/
  events_eq : t.events = s.events
  /-- Each component has the same report. -/
  find?_eq : ∀ name,
    Keyed.find? name t.health.components = Keyed.find? name s.health.components
  /-- The listeners are up in both or in neither. -/
  listening_eq : t.health.listening = s.health.listening
  /-- As many samples were taken. -/
  sampled_eq : t.metrics.samples = s.metrics.samples
  /-- As many events were accepted. -/
  ingested_eq : t.metrics.ingested = s.metrics.ingested
  /-- As many events were refused. -/
  rejected_eq : t.metrics.rejected = s.metrics.rejected
  /-- As many reads of each source have failed. -/
  readErrors_eq : ∀ source, t.metrics.readErrors source = s.metrics.readErrors source

theorem Store.Relevelled.sameKept {s t : Store} (h : s.Relevelled t) : s.SameKept t := by
  obtain ⟨streams, events, rfl⟩ := h
  exact ⟨rfl, rfl, fun _ => rfl, rfl, rfl, rfl, rfl, fun source => by cases source <;> rfl⟩

namespace Service

/-! ### Actions that only read -/

/-- An action that is a request to the query surface, belongs to a stream, or lets time pass. -/
def Action.OnlyReads : Action → Prop
  | .request _ surface _ _ => surface = .query
  | .effect _ | .sample _ | .health _ => False
  | .advance _ | .receive _ _ | .disconnect _ | .wait _ | .pump _ | .take _ => True

instance (a : Action) : Decidable a.OnlyReads :=
  match a with
  | .request _ surface _ _ => inferInstanceAs (Decidable (surface = .query))
  | .effect _ | .sample _ | .health _ => .isFalse not_false
  | .advance _ | .receive _ _ | .disconnect _ | .wait _ | .pump _ | .take _ => .isTrue trivial

/-- Such an action writes nothing. -/
theorem write_of_onlyReads {a : Action} (h : a.OnlyReads) (s : Store) : a.write s = s := by
  cases a with
  | request now surface r opening =>
    have hpost : ¬IsPost surface r := fun hpost => by
      rw [show surface = .query from h] at hpost
      cases hpost.1
    exact write_of_not_isPost hpost s now opening
  | effect | sample | health => exact absurd h not_false
  | advance | receive | disconnect | wait | pump | take => rfl

/-- What is written does not depend on the levels. -/
theorem relevelled_write {s t : Store} (h : s.Relevelled t) (a : Action) :
    (a.write s).Relevelled (a.write t) := by
  obtain ⟨streams, events, rfl⟩ := h
  cases a with
  | request now surface r opening =>
    by_cases hpost : IsPost surface r ∧ r.body.length ≤ bodyLimit
    · show Store.Relevelled (if _ then _ else _) (if _ then _ else _)
      rw [if_pos hpost, if_pos hpost]
      cases postedEvent now r.body with
      | error e => exact ⟨streams, events, rfl⟩
      | ok e => exact ⟨streams, (s.keepEvent e).metrics.eventsItems, rfl⟩
    · show Store.Relevelled (if _ then _ else _) (if _ then _ else _)
      rw [if_neg hpost, if_neg hpost]
      exact ⟨streams, events, rfl⟩
  | effect e =>
    cases e with
    | failed source fault => cases source <;> exact ⟨streams, events, rfl⟩
    | called | sampled | ended => exact ⟨streams, events, rfl⟩
  | sample | health | advance | receive | disconnect | wait | pump | take =>
    exact ⟨streams, events, rfl⟩

/-- What some actions write, one after the other. -/
def writeAll (s : Store) (as : List Action) : Store := as.foldl (fun s a => a.write s) s

theorem writeAll_append (s : Store) (as bs : List Action) :
    writeAll s (as ++ bs) = writeAll (writeAll s as) bs := List.foldl_append

theorem relevelled_writeAll {s t : Store} (h : s.Relevelled t) (as : List Action) :
    (writeAll s as).Relevelled (writeAll t as) := by
  induction as generalizing s t with
  | nil => exact h
  | cons a as ih => exact ih (relevelled_write h a)

/-- Actions that only read can be left out. -/
theorem writeAll_filter (s : Store) (as : List Action) :
    writeAll s (as.filter (¬·.OnlyReads)) = writeAll s as := by
  induction as generalizing s with
  | nil => rfl
  | cons a as ih =>
    by_cases h : a.OnlyReads
    · rw [List.filter_cons_of_neg (by simpa using h), ih]
      show _ = writeAll (a.write s) as
      rw [write_of_onlyReads h]
    · rw [List.filter_cons_of_pos (by simpa using h)]
      exact ih (a.write s)

/-! ### Runs -/

/-- **What is kept after a run is what its actions write**, but for the levels. -/
theorem relevelled_run (s : Service) (as : List Action) :
    (writeAll s.store as).Relevelled (s.run as).store := by
  induction as generalizing s with
  | nil => exact .refl _
  | cons a as ih =>
    obtain ⟨streams, events, hstep⟩ := store_step s a
    have hrest : (writeAll (a.write s.store) as).Relevelled (writeAll (s.step a).store as) :=
      relevelled_writeAll ⟨streams, events, hstep⟩ as
    exact hrest.trans (ih (s.step a))

/-- Only a post that is accepted writes to the event history. -/
theorem isPost_of_events_write_ne {s : Service} {now : Time.Instant} {surface : Surface}
    {r : Request} (opening : Opening)
    (h : ((Action.request now surface r opening).write s.store).events ≠ s.store.events) :
    IsPost surface r ∧ (s.respond now surface r).response.status = 204 := by
  by_cases hpost : IsPost surface r
  · refine ⟨hpost, ?_⟩
    rw [respond_of_isPost hpost]
    rw [write_of_isPost hpost] at h
    rcases post_cases s now r.body with
      ⟨-, -, hs⟩ | ⟨-, e, -, -, hs⟩ | ⟨-, e, -, haccepted, -⟩
    · exact absurd (congrArg (·.store.events) hs) h
    · exact absurd (congrArg (·.store.events) hs) h
    · exact haccepted
  · exact absurd (congrArg Store.events (write_of_not_isPost hpost s.store now opening)) h

/-! ### Senders that end by themselves -/

/-- What a move writes is what an action of the service writes. -/
def Move.action? : Move → Option Action
  | .request now surface r => some (.request now surface r .left)
  | .effect e => some (.effect e)
  | .sample x => some (.sample x)
  | .health h => some (.health h)
  | .wait _ | .poll _ | .read _ | .leave _ | .close _ | .cancel _ => none

/-- A move that is a request to the query surface, belongs to a stream, or lets time pass. -/
def Move.OnlyReads (m : Move) : Prop := ∀ a, m.action? = some a → a.OnlyReads

instance (m : Move) : Decidable m.OnlyReads :=
  match h : m.action? with
  | none => .isTrue fun a ha => by rw [h] at ha; cases ha
  | some a =>
    decidable_of_iff a.OnlyReads
      ⟨fun hreads b hb => by rw [h] at hb; cases hb; exact hreads, fun hall => hall a h⟩

namespace Senders

/-- A request is answered as the service answers it, and what is kept changes accordingly. -/
theorem relevelled_request (y : Senders) (now : Time.Instant) (surface : Surface) (r : Request) :
    ((Action.request now surface r .left).write y.service.store).Relevelled
      (y.request now surface r).service.store := by
  unfold request
  by_cases hstream : AsksForStream surface r
  · have hpost : ¬IsPost surface r := fun hpost => by
      have hquery := hstream.1
      rw [hpost.1] at hquery
      cases hquery
    rw [if_pos hstream, write_of_not_isPost hpost]
    unfold subscribe
    cases requestedScope r with
    | error e => exact .refl _
    | ok scope =>
      by_cases hperiod : 0 < y.service.streamPeriodMs
      · simp only [dif_pos hperiod]
        exact ⟨y.service.gauge + 1, y.service.store.metrics.eventsItems, rfl⟩
      · simp only [dif_neg hperiod]
        exact .refl _
  · rw [if_neg hstream]
    by_cases hpost : IsPost surface r
    · rw [write_of_isPost hpost, respond_of_isPost hpost]
      exact .refl _
    · obtain ⟨⟨streams, events, hservice⟩, -⟩ := onlyLevels_respond hpost y.service now
      rw [write_of_not_isPost hpost, hservice]
      exact ⟨streams, events, rfl⟩

/-- **What a move does to what is kept**: it writes what its action writes, and may set levels. -/
theorem relevelled_step (y : Senders) (m : Move) :
    (writeAll y.service.store m.action?.toList).Relevelled (y.step m).service.store := by
  cases m with
  | request now surface r => exact relevelled_request y now surface r
  | poll i =>
    show y.service.store.Relevelled (y.poll i).service.store
    rcases service_poll y i with h | h
    · rw [h]
      exact .refl _
    · rw [h]
      exact ⟨y.service.gauge - 1, y.service.store.metrics.eventsItems, rfl⟩
  | read i | leave i | close i | cancel i =>
    show y.service.store.Relevelled (y.update i _).service.store
    rw [service_update]
    exact .refl _
  | effect | sample | health | wait => exact .refl _

theorem relevelled_run (y : Senders) (ms : List Move) :
    (writeAll y.service.store (ms.filterMap Move.action?)).Relevelled (y.run ms).service.store := by
  induction ms generalizing y with
  | nil => exact .refl _
  | cons m ms ih =>
    have hrest := relevelled_writeAll (relevelled_step y m) (ms.filterMap Move.action?)
    rw [filterMap_cons_toList, writeAll_append]
    exact hrest.trans (ih (y.step m))

/-- Moves that only read can be left out. -/
theorem writeAll_filterMap (s : Store) (ms : List Move) :
    writeAll s ((ms.filter (¬·.OnlyReads)).filterMap Move.action?) =
      writeAll s (ms.filterMap Move.action?) := by
  induction ms generalizing s with
  | nil => rfl
  | cons m ms ih =>
    by_cases h : m.OnlyReads
    · have hwrite : writeAll s m.action?.toList = s := by
        cases ha : m.action? with
        | none => rfl
        | some a => exact write_of_onlyReads (h a ha) s
      rw [List.filter_cons_of_neg (by simpa using h), ih, filterMap_cons_toList, writeAll_append,
        hwrite]
    · rw [List.filter_cons_of_pos (by simpa using h), filterMap_cons_toList,
        filterMap_cons_toList, writeAll_append, writeAll_append, ih]

end Senders

/-- **Queries only read.** From any state of a service and its streams,

* a run of requests to the query surface of any kind, of what becomes of the streams that they open,
  and of time that passes, leaves everything that is kept as it is: both histories, the reports of
  the components, the word that the listeners are up, and the counts of samples, posts and failed
  reads;
* so it is in any other run: with these actions or without them, the others leave behind the same;
* both hold step by step of senders that end by themselves;
* a request that changes the event history is a post to the ingest surface, and it was accepted. -/
theorem queries_only_read (s : Service) (y : Senders) :
    (∀ as : List Action, (∀ a ∈ as, a.OnlyReads) → s.store.SameKept (s.run as).store) ∧
    (∀ as : List Action,
      (s.run (as.filter (¬·.OnlyReads))).store.SameKept (s.run as).store) ∧
    (∀ ms : List Move, (∀ m ∈ ms, m.OnlyReads) →
      y.service.store.SameKept (y.run ms).service.store) ∧
    (∀ ms : List Move,
      (y.run (ms.filter (¬·.OnlyReads))).service.store.SameKept (y.run ms).service.store) ∧
    (∀ now surface r opening,
      (s.step (.request now surface r opening)).store.events ≠ s.store.events →
      IsPost surface r ∧ (s.respond now surface r).response.status = 204) ∧
    ∀ now surface r,
      (y.step (.request now surface r)).service.store.events ≠ y.service.store.events →
      IsPost surface r ∧ (y.service.respond now surface r).response.status = 204 := by
  have hactions (as : List Action) :
      (s.run (as.filter (¬·.OnlyReads))).store.Relevelled (s.run as).store := by
    have hfiltered := relevelled_run s (as.filter (¬·.OnlyReads))
    rw [writeAll_filter] at hfiltered
    exact hfiltered.symm.trans (relevelled_run s as)
  have hmoves (ms : List Move) :
      (y.run (ms.filter (¬·.OnlyReads))).service.store.Relevelled (y.run ms).service.store := by
    have hfiltered := y.relevelled_run (ms.filter (¬·.OnlyReads))
    rw [Senders.writeAll_filterMap] at hfiltered
    exact hfiltered.symm.trans (y.relevelled_run ms)
  refine ⟨fun as hreads => ?_, fun as => (hactions as).sameKept, fun ms hreads => ?_,
    fun ms => (hmoves ms).sameKept, fun now surface r opening h => ?_, fun now surface r h => ?_⟩
  · have hnone : as.filter (¬·.OnlyReads) = [] := by simpa using hreads
    have hrun := hactions as
    rw [hnone] at hrun
    exact hrun.sameKept
  · have hnone : ms.filter (¬·.OnlyReads) = [] := by simpa using hreads
    have hrun := hmoves ms
    rw [hnone] at hrun
    exact hrun.sameKept
  · have hstep := relevelled_run s [.request now surface r opening]
    refine isPost_of_events_write_ne opening fun he => h ?_
    exact hstep.sameKept.events_eq.trans he
  · refine isPost_of_events_write_ne .left fun he => h ?_
    exact (y.relevelled_request now surface r).sameKept.events_eq.trans he

/-- An event is posted. -/
def kindPost : Request := ⟨"POST", "/events", Utf8.ofString "\x7b\"type\":\"a\"\x7d"⟩

/-- A stream is opened, read and left; an event is posted to the wrong surface. -/
def streamActions : List Action :=
  [.request ⟨0, 0⟩ .query ⟨"GET", "/stream", []⟩ (.kept "c"), .advance 2000, .take "c",
    .request ⟨0, 0⟩ .query kindPost .left, .request ⟨0, 0⟩ .query ⟨"GET", "/metrics", []⟩ .left,
    .disconnect "c"]

/-- A stream is opened, read and left, and its sender ends. -/
def streamMoves : List Move :=
  [.request ⟨0, 0⟩ .query ⟨"GET", "/stream", []⟩, .poll 0, .read 0, .wait 2000, .poll 0, .leave 0,
    .close 0, .cancel 0, .poll 0]

theorem queries_only_read_of_stream :
    let s := (start "node" (.empty 1) 1000).step (.request ⟨0, 0⟩ .ingest kindPost .left)
    let y := Senders.start s
    (∀ a ∈ streamActions, a.OnlyReads) ∧ s.store.SameKept (s.run streamActions).store ∧
      (∀ m ∈ streamMoves, m.OnlyReads) ∧
      y.service.store.SameKept (y.run streamMoves).service.store ∧
      let empty := start "node" (.empty 1) 1000
      (empty.step (.request ⟨0, 0⟩ .ingest kindPost .left)).store.events ≠ empty.store.events ∧
      ((Senders.start empty).step (.request ⟨0, 0⟩ .ingest kindPost)).service.store.events ≠
        empty.store.events ∧
      IsPost .ingest kindPost ∧ (empty.respond ⟨0, 0⟩ .ingest kindPost).response.status = 204 := by
  intro s y
  have hactions : ∀ a ∈ streamActions, a.OnlyReads := by decide
  have hmoves : ∀ m ∈ streamMoves, m.OnlyReads := by decide
  obtain ⟨hrun, -, hmoved, -, -, -⟩ := queries_only_read s y
  refine ⟨hactions, hrun _ hactions, hmoves, hmoved _ hmoves, ?_⟩
  intro empty
  obtain ⟨-, -, -, -, hstep, hmove⟩ := queries_only_read empty (Senders.start empty)
  have hkept : (empty.step (.request ⟨0, 0⟩ .ingest kindPost .left)).store.events ≠
      empty.store.events := fun h => absurd (congrArg History.length h) (by decide)
  have hmoved : ((Senders.start empty).step (.request ⟨0, 0⟩ .ingest kindPost)).service.store.events
      ≠ empty.store.events := fun h => absurd (congrArg History.length h) (by decide)
  exact ⟨hkept, hmoved, (hmove ⟨0, 0⟩ .ingest kindPost hmoved).1,
    (hstep ⟨0, 0⟩ .ingest kindPost .left hkept).2⟩

end Service

end NodeTelemetry
