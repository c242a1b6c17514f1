import NodeTelemetry.Proofs.Keyed
import NodeTelemetry.Proofs.Service.Streams

/-!
# How many streams are open

A response with frames is held by its client from the moment at which it is answered until the
client leaves. `held` lists the names of the connections that are held after some actions. It goes by
the requests, the status of their responses and what the clients do, and not by what the service
keeps.

The service keeps one subscription for each of these names and no other, and the level of open
streams in its metrics has moved by their number (`Counts`). One step keeps this so (`Counts.step`),
hence every run does (`Counts.run`).
-/

namespace NodeTelemetry.Service

/-! ### Requests that open a stream -/

/-- The level of open streams in the metrics. -/
def gauge (s : Service) : Int := s.store.metrics.activeStreams

/-- The service with other subscriptions and another level of open streams. -/
def withStreams (s : Service) (streams : Keyed (Subscription Json)) (gauge : Int) : Service :=
  { s with streams := streams, store := s.store.relevel gauge s.store.metrics.eventsItems }

/-- The path of streams is on the query surface only. -/
theorem endpoint?_eq_stream {surface : Surface} {path : String} :
    endpoint? surface path = some .stream ↔ surface = .query ∧ path = "/stream" := by
  constructor
  · intro h
    have hmem := endpoint?_eq_some h
    cases surface with
    | ingest => simp [endpoints] at hmem
    | query => exact ⟨rfl, by simpa [endpoints] using hmem⟩
  · rintro ⟨rfl, rfl⟩
    rfl

/-- Only the endpoint of streams answers with frames. -/
theorem body_serve (s : Service) (now : Time.Instant) (r : Request) {endpoint : Endpoint}
    (h : endpoint ≠ .stream) : ∃ text, (s.serve now r endpoint).response.body = .text text := by
  cases endpoint with
  | stream => exact absurd rfl h
  | ping | healthz | readyz | metrics => exact ⟨_, rfl⟩
  | history =>
    show ∃ text, (s.history r).response.body = .text text
    unfold history
    cases requestedScope r with
    | error e => exact ⟨_, rfl⟩
    | ok scope => exact ⟨_, rfl⟩
  | events =>
    show ∃ text, (s.post now r.body).response.body = .text text
    unfold post
    by_cases hlong : bodyLimit < r.body.length
    · exact ⟨_, by rw [if_pos hlong]; rfl⟩
    · rw [if_neg hlong]
      cases postedEvent now r.body with
      | error e => exact ⟨_, rfl⟩
      | ok event => exact ⟨_, rfl⟩

/-- What an endpoint other than that of streams changes has nothing to do with open streams. -/
theorem serve_withStreams (s : Service) (now : Time.Instant) (r : Request) {endpoint : Endpoint}
    (h : endpoint ≠ .stream) (streams : Keyed (Subscription Json)) (gauge : Int) :
    ((s.withStreams streams gauge).serve now r endpoint).service =
      (s.serve now r endpoint).service.withStreams streams gauge := by
  cases endpoint with
  | stream => exact absurd rfl h
  | ping | healthz | readyz | metrics => rfl
  | history =>
    show (history _ r).service = (history s r).service.withStreams _ _
    unfold history
    cases requestedScope r with
    | error e => rfl
    | ok scope => rfl
  | events =>
    show (post _ now r.body).service = (post s now r.body).service.withStreams _ _
    unfold post
    by_cases hlong : bodyLimit < r.body.length
    · simp only [if_pos hlong]
      rfl
    · simp only [if_neg hlong]
      cases postedEvent now r.body with
      | error e => rfl
      | ok event => rfl

theorem withoutBody_of_text {o : Outcome} {text : String} (h : o.response.body = .text text) :
    o.withoutBody.service = o.service ∧ o.withoutBody.response.body = .text "" := by
  unfold Outcome.withoutBody
  rw [h]
  exact ⟨rfl, rfl⟩

/-- A request to the endpoint of streams opens a stream if it names a history, and ticks are
apart. -/
theorem subscribe_of_ok {s : Service} {r : Request} {scope : Scope}
    (hscope : requestedScope r = .ok scope) (hperiod : 0 < s.streamPeriodMs) :
    s.subscribe r = ⟨s.updateMetrics Metrics.openStream,
      .stream (.frames (.start scope s.streamPeriodMs hperiod)), []⟩ := by
  unfold subscribe
  rw [hscope]
  exact dif_pos hperiod

theorem subscribe_of_error {s : Service} {r : Request} {e : QueryError}
    (hscope : requestedScope r = .error e) : s.subscribe r = s.answer e.response := by
  unfold subscribe
  rw [hscope]

/-- A request to the endpoint of streams with a method that is taken. -/
def AsksForStream (surface : Surface) (r : Request) : Prop :=
  surface = .query ∧ r.path = "/stream" ∧ r.method ∈ Endpoint.stream.methods

instance (surface : Surface) (r : Request) : Decidable (AsksForStream surface r) :=
  inferInstanceAs (Decidable (_ ∧ _ ∧ _))

/-- Such a request is answered by a subscription; with `HEAD` that has no body. -/
theorem respond_of_asksForStream {surface : Surface} {r : Request} (h : AsksForStream surface r)
    (s : Service) (now : Time.Instant) :
    s.respond now surface r =
      if r.method = "HEAD" then (s.subscribe r).withoutBody else s.subscribe r := by
  obtain ⟨hsurface, hpath, hmethod⟩ := h
  unfold respond
  rw [endpoint?_eq_stream.mpr ⟨hsurface, hpath⟩]
  exact if_neg (not_not_intro hmethod)

/-- A request that opens no stream is answered by a text, and what it changes has nothing to do with
open streams. -/
theorem respond_of_not_asksForStream {surface : Surface} {r : Request}
    (h : ¬AsksForStream surface r) (s : Service) (now : Time.Instant) :
    (∃ text, (s.respond now surface r).response.body = .text text) ∧
      ∀ streams gauge, ((s.withStreams streams gauge).respond now surface r).service =
        (s.respond now surface r).service.withStreams streams gauge := by
  unfold respond
  cases hendpoint : endpoint? surface r.path with
  | none => exact ⟨⟨_, rfl⟩, fun _ _ => rfl⟩
  | some endpoint =>
    by_cases hmethod : r.method ∈ endpoint.methods
    · have hstream : endpoint ≠ .stream := by
        rintro rfl
        obtain ⟨hsurface, hpath⟩ := endpoint?_eq_stream.mp hendpoint
        exact h ⟨hsurface, hpath, hmethod⟩
      obtain ⟨text, htext⟩ := body_serve s now r hstream
      have hcommute := serve_withStreams s now r hstream
      simp only [if_neg (not_not_intro hmethod)]
      by_cases hhead : r.method = "HEAD"
      · simp only [if_pos hhead]
        refine ⟨⟨"", (withoutBody_of_text htext).2⟩, fun streams gauge => ?_⟩
        obtain ⟨text', htext'⟩ := body_serve (s.withStreams streams gauge) now r hstream
        rw [(withoutBody_of_text htext').1, (withoutBody_of_text htext).1, hcommute]
      · simp only [if_neg hhead]
        exact ⟨⟨text, htext⟩, hcommute⟩
    · simp only [if_pos hmethod]
      exact ⟨⟨_, rfl⟩, fun _ _ => rfl⟩

/-! ### Connections that are held -/

/-- A request is answered by a response whose body is a stream. -/
def Accepts (s : Service) (now : Time.Instant) (surface : Surface) (r : Request) : Prop :=
  AsksForStream surface r ∧ r.method = "GET" ∧ (s.respond now surface r).response.status = 200

instance (s : Service) (now : Time.Instant) (surface : Surface) (r : Request) :
    Decidable (s.Accepts now surface r) := inferInstanceAs (Decidable (_ ∧ _ ∧ _))

/-- The connections that are held after an action. A client that opens a stream under a name leaves
the one that it held under it. -/
def heldAfter (s : Service) (held : List String) : Action → List String
  | .request now surface r opening =>
    if s.Accepts now surface r then
      match opening.name? with
      | none => held
      | some name => name :: held.filter (· != name)
    else held
  | .disconnect name => held.filter (· != name)
  | _ => held

/-- The connections that are held after some actions, if none was before. -/
def held (s : Service) (as : List Action) : List String :=
  (as.foldl (fun (p : Service × List String) a => (p.1.step a, p.1.heldAfter p.2 a)) (s, [])).2

/-- A request is accepted and opens a stream, or it is not and leaves the streams alone. -/
theorem respond_cases {s : Service} (hperiod : 0 < s.streamPeriodMs) (now : Time.Instant)
    (surface : Surface) (r : Request) :
    (s.Accepts now surface r ∧ ∃ scope, requestedScope r = .ok scope ∧ s.respond now surface r =
      ⟨s.updateMetrics Metrics.openStream,
        .stream (.frames (.start scope s.streamPeriodMs hperiod)), []⟩) ∨
    (¬s.Accepts now surface r ∧ (∃ text, (s.respond now surface r).response.body = .text text) ∧
      (s.respond now surface r).service.gauge = s.gauge ∧
      (s.respond now surface r).service.streams = s.streams) := by
  by_cases h : AsksForStream surface r
  · have hrespond := respond_of_asksForStream h s now
    cases hscope : requestedScope r with
    | error e =>
      have hstatus : (s.respond now surface r).response.status ≠ 200 := by
        rw [hrespond, subscribe_of_error hscope]
        split
        · exact e.status_response ▸ by decide
        · exact e.status_response ▸ by decide
      refine .inr ⟨fun ha => hstatus ha.2.2, ?_⟩
      rw [hrespond, subscribe_of_error hscope]
      split
      · exact ⟨⟨_, rfl⟩, rfl, rfl⟩
      · exact ⟨⟨_, rfl⟩, rfl, rfl⟩
    | ok scope =>
      rw [subscribe_of_ok hscope hperiod] at hrespond
      by_cases hhead : r.method = "HEAD"
      · rw [if_pos hhead] at hrespond
        refine .inr ⟨fun ha => absurd (hhead.symm.trans ha.2.1) (by decide), ?_⟩
        rw [hrespond]
        exact ⟨⟨_, rfl⟩, Int.add_sub_cancel s.gauge 1, rfl⟩
      · rw [if_neg hhead] at hrespond
        have hget : r.method = "GET" := by
          have hmethod := h.2.2
          simp only [Endpoint.methods, List.mem_cons, List.not_mem_nil, or_false] at hmethod
          exact hmethod.resolve_right hhead
        refine .inl ⟨⟨h, hget, ?_⟩, scope, rfl, hrespond⟩
        rw [hrespond]
        rfl
  · obtain ⟨hbody, hcommute⟩ := respond_of_not_asksForStream h s now
    have hsame : (s.respond now surface r).service =
        (s.respond now surface r).service.withStreams s.streams s.gauge :=
      hcommute s.streams s.gauge
    refine .inr ⟨fun ha => h ha.1, hbody, ?_, ?_⟩
    · rw [hsame]
      rfl
    · rw [hsame]
      rfl

/-- The service keeps a subscription for each connection that is held and for no other, and the level
of open streams lies by their number above where it was. -/
structure Counts (level : Int) (held : List String) (s : Service) : Prop where
  /-- The subscriptions are in order. -/
  sorted : Keyed.Sorted s.streams
  /-- There is one for each connection. -/
  names_perm : s.streams.names.Perm held
  /-- The level has moved by their number. -/
  gauge_eq : s.gauge = level + held.length

namespace Counts

variable {level : Int} {held : List String} {s : Service}

/-- The number of subscriptions is the number of connections. -/
theorem activeStreams_eq (h : Counts level held s) : s.activeStreams = held.length := by
  rw [← h.names_perm.length_eq]
  exact (List.length_map _).symm

/-- When the level moves, it lies above another one by as much. -/
theorem updateMetrics (h : Counts level held s) {f : Metrics → Metrics} {by' : Int}
    (hf : ∀ m : Metrics, (f m).activeStreams = m.activeStreams + by') :
    Counts (level + by') held (s.updateMetrics f) := by
  refine ⟨h.sorted, h.names_perm, ?_⟩
  show (f s.store.metrics).activeStreams = _
  have hgauge : s.store.metrics.activeStreams = level + held.length := h.gauge_eq
  rw [hf, hgauge]
  omega

/-- A connection whose client leaves is one less, if there was one. -/
theorem disconnect (h : Counts level held s) (name : String) :
    Counts level (held.filter (· != name)) (s.disconnect name).1 := by
  unfold Service.disconnect
  cases hfind : Keyed.find? name s.streams with
  | none =>
    have hnone : name ∉ held := fun hmem => by
      obtain ⟨stream, hstream⟩ := Keyed.find?_of_mem_names (h.names_perm.mem_iff.mpr hmem)
      rw [hfind] at hstream
      cases hstream
    have hkeep : held.filter (· != name) = held :=
      List.filter_eq_self.mpr fun other hother =>
        bne_iff_ne.mpr fun he => hnone (he ▸ hother)
    rw [hkeep]
    exact h
  | some stream =>
    have hnames : (Keyed.erase name s.streams).names.Perm (held.filter (· != name)) := by
      rw [Keyed.names_erase]
      exact h.names_perm.filter _
    refine ⟨h.sorted.erase name, hnames, ?_⟩
    have hlength := (h.names_perm.symm.trans (h.sorted.names_of_find? hfind)).length_eq
    rw [List.length_cons, hnames.length_eq] at hlength
    have hgauge := h.gauge_eq
    show s.gauge - 1 = _
    omega

/-- A connection under a name that was free is one more, once the level has been raised for it. -/
theorem insert (h : Counts (level + 1) held s) {name : String}
    (hfree : Keyed.find? name s.streams = none) (stream : Subscription Json) :
    Counts level (name :: held) { s with streams := Keyed.insert name stream s.streams } := by
  refine ⟨h.sorted.insert name stream,
    (Keyed.names_insert_of_none hfree stream).trans (h.names_perm.cons name), ?_⟩
  have hgauge := h.gauge_eq
  show s.gauge = level + ((name :: held).length : Nat)
  rw [List.length_cons]
  omega

/-- A connection that goes on is there as before. -/
theorem update (h : Counts level held s) {name : String} {stream : Subscription Json}
    (hfind : Keyed.find? name s.streams = some stream) (stream' : Subscription Json) :
    Counts level held { s with streams := Keyed.insert name stream' s.streams } :=
  ⟨h.sorted.insert name stream',
    (h.sorted.names_insert_of_some hfind stream') ▸ h.names_perm, h.gauge_eq⟩

/-- When all connections go on, they are there as before. -/
theorem map (h : Counts level held s) (f : String × Subscription Json → Subscription Json)
    (nowMs : Nat) :
    Counts level held { s with nowMs := nowMs, streams := s.streams.map fun c => (c.1, f c) } := by
  refine ⟨List.pairwise_map.mpr h.sorted, ?_, h.gauge_eq⟩
  show ((s.streams.map fun c => (c.1, f c)).map Prod.fst).Perm held
  rw [List.map_map]
  exact h.names_perm

/-- One step keeps count of the connections. -/
theorem step (h : Counts level held s) (hperiod : 0 < s.streamPeriodMs) (a : Action) :
    Counts level (s.heldAfter held a) (s.step a) := by
  cases a with
  | request now surface r opening =>
    show Counts level (if s.Accepts now surface r then _ else held)
      (settle (s.respond now surface r) opening)
    rcases respond_cases hperiod now surface r with
      ⟨haccepts, scope, -, hrespond⟩ | ⟨hrefused, ⟨text, htext⟩, hgauge, hstreams⟩
    · rw [if_pos haccepts, hrespond]
      have hopened : Counts (level + 1) held (s.updateMetrics Metrics.openStream) :=
        h.updateMetrics fun _ => rfl
      cases opening with
      | left =>
        have hclosed := hopened.updateMetrics (f := Metrics.closeStream) fun _ => rfl
        rwa [Int.add_neg_cancel_right] at hclosed
      | kept name | idle name =>
        exact (hopened.disconnect name).insert (find?_disconnect_self _ name) _
    · rw [if_neg hrefused]
      unfold settle
      rw [htext]
      refine ⟨?_, ?_, hgauge.trans h.gauge_eq⟩
      · rw [hstreams]
        exact h.sorted
      · rw [hstreams]
        exact h.names_perm
  | disconnect name => exact h.disconnect name
  | advance ms => exact h.map _ _
  | receive name limit =>
    show Counts level held (s.receive name limit).2
    cases hfind : Keyed.find? name s.streams with
    | none =>
      unfold receive
      rwa [hfind]
    | some stream =>
      rw [receive_eq hfind]
      exact h.update hfind _
  | pump name =>
    show Counts level held (s.pump name)
    cases hfind : Keyed.find? name s.streams with
    | none =>
      unfold pump
      rwa [hfind]
    | some stream =>
      rw [pump_eq hfind]
      exact h.update hfind _
  | take name =>
    show Counts level held (s.take name).2
    cases hfind : Keyed.find? name s.streams with
    | none =>
      unfold take
      rwa [hfind]
    | some stream =>
      rw [take_eq hfind]
      exact h.update hfind _
  | effect e =>
    refine ⟨h.sorted, h.names_perm, ?_⟩
    refine Eq.trans ?_ h.gauge_eq
    cases e with
    | failed source fault => cases source <;> rfl
    | called | sampled | ended => rfl
  | sample | health | wait => exact ⟨h.sorted, h.names_perm, h.gauge_eq⟩

/-- So does a run. -/
theorem run (h : Counts level held s) (hperiod : 0 < s.streamPeriodMs) (as : List Action) :
    Counts level (as.foldl (fun (p : Service × List String) a =>
      (p.1.step a, p.1.heldAfter p.2 a)) (s, held)).2 (s.run as) := by
  induction as generalizing s held with
  | nil => exact h
  | cons a as ih => exact ih (h.step hperiod a) ((streamPeriodMs_step s a).symm ▸ hperiod)

end Counts

end NodeTelemetry.Service
