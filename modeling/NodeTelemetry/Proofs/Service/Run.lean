import NodeTelemetry.Proofs.Subscription
import NodeTelemetry.Sampler.Basic
import NodeTelemetry.Service.Basic

/-!
# Runs of a service

A run is a list of actions, in any order: requests on the two surfaces, what the sampler and the
components do, the passing of time, and what the clients of subscriptions do.

Time passes and clients read in two ways. With `advance` and `receive` every sender keeps up: it has
taken each tick that it can when the action is over. With `wait`, `pump` and `take` a sender may lag
behind its ticks and behind its client as long as it likes, and with `Opening.idle` it may begin as
late as it likes.

## What an action can change

Only a post to the ingest surface, the sampler and the components write to what is kept. All other
actions change no more than two levels in the metrics (`Store.relevel`): the open streams and the
length of the event history when last counted. `store_step` says this once, for every action.
-/

namespace NodeTelemetry

/-- The store with other levels in its metrics. -/
def Store.relevel (s : Store) (streams : Int) (events : Nat) : Store :=
  { s with metrics := { s.metrics with activeStreams := streams, eventsItems := events } }

namespace Service

/-! ### Actions -/

/-- What becomes of a subscription that a request opens. -/
inductive Opening where
  /-- Its client leaves at once. -/
  | left
  /-- It stays under the name of its connection, and its sender begins with its first tick. -/
  | kept (name : String)
  /-- It stays under the name of its connection, and its sender has not begun. -/
  | idle (name : String)

/-- The name of the connection, if it stays. -/
def Opening.name? : Opening → Option String
  | left => none
  | kept name | idle name => some name

/-- What can happen to a service. -/
inductive Action where
  /-- A request arrives. -/
  | request (now : Time.Instant) (surface : Surface) (r : Request) (opening : Opening)
  /-- The sampler does something. -/
  | effect (e : Effect)
  /-- A sample is kept. -/
  | sample (x : Sample)
  /-- The health of the components changes. -/
  | health (h : Health.Registry)
  /-- Time passes, and every sender keeps up. -/
  | advance (ms : Nat)
  /-- The client of a connection takes frames, and its sender keeps up. -/
  | receive (name : String) (limit : Nat)
  /-- The client of a connection leaves. -/
  | disconnect (name : String)
  /-- Time passes, and no sender does anything. -/
  | wait (ms : Nat)
  /-- The sender of a connection takes one tick, if one is due and it does not stand still. -/
  | pump (name : String)
  /-- The client of a connection takes one frame, and its sender does nothing. -/
  | take (name : String)

/-- The sender of a connection takes one tick, if it can. -/
def pump (s : Service) (name : String) : Service :=
  match Keyed.find? name s.streams with
  | none => s
  | some stream =>
    let stream := stream.pump s.nowMs (s.store.newest? stream.scope)
    { s with streams := Keyed.insert name stream s.streams }

/-- The client of a connection takes one frame. -/
def take (s : Service) (name : String) : List String × Service :=
  match Keyed.find? name s.streams with
  | none => ([], s)
  | some stream =>
    let (frames, stream) := stream.pass
    (frames.map frameText, { s with streams := Keyed.insert name stream s.streams })

/-- A subscription stays under the name of its connection, and its sender has not begun. A former
client under that name leaves. -/
def attach (s : Service) (name : String) (stream : Subscription Json) : Service :=
  let s := (s.disconnect name).1
  { s with streams := Keyed.insert name stream s.streams }

/-- The service after a request, when it is settled what becomes of a subscription. -/
def settle (o : Outcome) (opening : Opening) : Service :=
  match o.response.body, opening with
  | .text _, _ => o.service
  | .frames _, .left => o.service.closeStream
  | .frames stream, .kept name => (o.service.connect name stream).1
  | .frames stream, .idle name => o.service.attach name stream

/-- The service after an action. -/
def step (s : Service) : Action → Service
  | .request now surface r opening => settle (s.respond now surface r) opening
  | .effect e => { s with store := s.store.apply e }
  | .sample x => { s with store := s.store.keepSample x }
  | .health h => { s with store := { s.store with health := h } }
  | .advance ms => s.advance ms
  | .receive name limit => (s.receive name limit).2
  | .disconnect name => (s.disconnect name).1
  | .wait ms => { s with nowMs := s.nowMs + ms }
  | .pump name => s.pump name
  | .take name => (s.take name).2

/-- The service after some actions. -/
def run (s : Service) (as : List Action) : Service := as.foldl step s

theorem run_cons (s : Service) (a : Action) (as : List Action) :
    s.run (a :: as) = (s.step a).run as := rfl

theorem run_append (s : Service) (as bs : List Action) : s.run (as ++ bs) = (s.run as).run bs :=
  List.foldl_append

/-! ### Requests -/

/-- Whether a request is a post of an event. -/
def IsPost (surface : Surface) (r : Request) : Prop :=
  surface = .ingest ∧ r.path = "/events" ∧ r.method = "POST"

instance (surface : Surface) (r : Request) : Decidable (IsPost surface r) :=
  inferInstanceAs (Decidable (_ ∧ _ ∧ _))

theorem endpoint?_eq_some {surface : Surface} {path : String} {endpoint : Endpoint}
    (h : endpoint? surface path = some endpoint) : (path, endpoint) ∈ endpoints surface := by
  obtain ⟨e, hfind, rfl⟩ := Option.map_eq_some_iff.mp h
  have hpath := List.find?_some hfind
  rw [← beq_iff_eq.mp hpath]
  exact List.mem_of_find?_eq_some hfind

/-- The path of events is on the ingest surface only. -/
theorem endpoint?_eq_events {surface : Surface} {path : String} :
    endpoint? surface path = some .events ↔ surface = .ingest ∧ path = "/events" := by
  constructor
  · intro h
    have hmem := endpoint?_eq_some h
    cases surface with
    | query => simp [endpoints] at hmem
    | ingest => exact ⟨rfl, by simpa [endpoints] using hmem⟩
  · rintro ⟨rfl, rfl⟩
    rfl

theorem respond_of_isPost {surface : Surface} {r : Request} (h : IsPost surface r) (s : Service)
    (now : Time.Instant) : s.respond now surface r = s.post now r.body := by
  obtain ⟨hsurface, hpath, hmethod⟩ := h
  unfold respond
  rw [endpoint?_eq_events.mpr ⟨hsurface, hpath⟩]
  simp only [hmethod]
  rfl

/-- A query is served by what its path stands for. -/
theorem respond_get {surface : Surface} {r : Request} {endpoint : Endpoint}
    (hmethod : r.method = "GET") (hendpoint : endpoint? surface r.path = some endpoint)
    (hevents : endpoint ≠ .events) (s : Service) (now : Time.Instant) :
    s.respond now surface r = s.serve now r endpoint := by
  have hmethods : endpoint.methods = ["GET", "HEAD"] := by
    cases endpoint with
    | events => exact absurd rfl hevents
    | ping | history | stream | healthz | readyz | metrics => rfl
  unfold respond
  rw [hendpoint]
  dsimp only
  rw [hmethods, hmethod]
  rfl

/-- A query for a history is answered by the compact array of its entries. -/
theorem respond_history {r : Request} {scope : Scope} (hmethod : r.method = "GET")
    (hpath : r.path = "/history") (hscope : requestedScope r = .ok scope) (s : Service)
    (now : Time.Instant) :
    (s.respond now .query r).response =
      ⟨200, [("content-type", "application/json")],
        .text (Json.arr (s.store.entries scope)).compact⟩ := by
  rw [respond_get hmethod (congrArg (endpoint? .query) hpath) (by decide)]
  show (s.history r).response = _
  unfold history
  rw [hscope]
  rfl

/-- The outcome has changed no more than levels, and is no answer to an event that is accepted. -/
def Outcome.OnlyLevels (s : Service) (o : Outcome) : Prop :=
  (∃ streams events, o.service = { s with store := s.store.relevel streams events }) ∧
    o.response.status ≠ 204

theorem onlyLevels_answer (s : Service) (r : Response String) (h : r.status ≠ 204) :
    (s.answer r).OnlyLevels s :=
  ⟨⟨s.store.metrics.activeStreams, s.store.metrics.eventsItems, rfl⟩, h⟩

theorem onlyLevels_withoutBody {s : Service} {o : Outcome} (h : o.OnlyLevels s) :
    o.withoutBody.OnlyLevels s := by
  obtain ⟨⟨streams, events, hservice⟩, hstatus⟩ := h
  unfold Outcome.withoutBody
  cases o.response.body with
  | text _ => exact ⟨⟨streams, events, hservice⟩, hstatus⟩
  | frames _ =>
    refine ⟨⟨streams - 1, events, ?_⟩, hstatus⟩
    rw [hservice]
    rfl

theorem QueryError.status_response (e : QueryError) : e.response.status = 400 := by
  cases e with
  | repeatedScope => rfl
  | unknownScope e => rfl

theorem onlyLevels_serve (s : Service) (now : Time.Instant) (r : Request) {endpoint : Endpoint}
    (h : endpoint ≠ .events) : (s.serve now r endpoint).OnlyLevels s := by
  cases endpoint with
  | ping => exact onlyLevels_answer s _ (by decide)
  | history =>
    show (s.history r).OnlyLevels s
    unfold history
    cases requestedScope r with
    | error e => exact onlyLevels_answer s _ (by rw [e.status_response]; decide)
    | ok scope => exact onlyLevels_answer s _ (show 200 ≠ 204 by decide)
  | stream =>
    show (s.subscribe r).OnlyLevels s
    unfold subscribe
    cases requestedScope r with
    | error e => exact onlyLevels_answer s _ (by rw [e.status_response]; decide)
    | ok scope =>
      by_cases hperiod : 0 < s.streamPeriodMs
      · simp only [dif_pos hperiod]
        exact ⟨⟨s.store.metrics.activeStreams + 1, s.store.metrics.eventsItems, rfl⟩,
          show 200 ≠ 204 by decide⟩
      · simp only [dif_neg hperiod]
        exact ⟨⟨s.store.metrics.activeStreams, s.store.metrics.eventsItems, rfl⟩,
          show 200 ≠ 204 by decide⟩
  | healthz =>
    refine onlyLevels_answer s _ ?_
    show (if _ then 503 else 200) ≠ 204
    split <;> decide
  | readyz =>
    refine onlyLevels_answer s _ ?_
    show (if _ then 200 else 503) ≠ 204
    split <;> decide
  | metrics =>
    exact ⟨⟨s.store.metrics.activeStreams, s.store.events.length, rfl⟩,
      show 200 ≠ 204 by decide⟩
  | events => exact absurd rfl h

/-- A request that is no post of an event changes no more than levels. -/
theorem onlyLevels_respond {surface : Surface} {r : Request} (h : ¬IsPost surface r) (s : Service)
    (now : Time.Instant) : (s.respond now surface r).OnlyLevels s := by
  unfold respond
  cases hendpoint : endpoint? surface r.path with
  | none => exact onlyLevels_answer s _ (by decide)
  | some endpoint =>
    show Outcome.OnlyLevels s (if _ then _ else _)
    by_cases hmethod : r.method ∈ endpoint.methods
    · have hevents : endpoint ≠ .events := by
        rintro rfl
        obtain ⟨hsurface, hpath⟩ := endpoint?_eq_events.mp hendpoint
        exact h ⟨hsurface, hpath, List.mem_singleton.mp hmethod⟩
      rw [if_neg (not_not_intro hmethod)]
      split
      · exact onlyLevels_withoutBody (onlyLevels_serve s now r hevents)
      · exact onlyLevels_serve s now r hevents
    · rw [if_pos hmethod]
      exact onlyLevels_answer s _ (show 405 ≠ 204 by decide)

/-- The three ends of a post: too long, refused or accepted. -/
theorem post_cases (s : Service) (now : Time.Instant) (body : List UInt8) :
    (bodyLimit < body.length ∧ (s.post now body).response.status = 413 ∧
      (s.post now body).service = s) ∨
    (body.length ≤ bodyLimit ∧ ∃ e, postedEvent now body = .error e ∧
      (s.post now body).response.status = 400 ∧
      (s.post now body).service = { s with store := s.store.countRejected }) ∨
    (body.length ≤ bodyLimit ∧ ∃ e, postedEvent now body = .ok e ∧
      (s.post now body).response.status = 204 ∧
      (s.post now body).service = { s with store := s.store.keepEvent e }) := by
  unfold post
  by_cases hlong : bodyLimit < body.length
  · rw [if_pos hlong]
    exact .inl ⟨hlong, rfl, rfl⟩
  · rw [if_neg hlong]
    cases hevent : postedEvent now body with
    | error e => exact .inr (.inl ⟨Nat.le_of_not_lt hlong, e, rfl, rfl, rfl⟩)
    | ok e => exact .inr (.inr ⟨Nat.le_of_not_lt hlong, e, rfl, rfl, rfl⟩)

/-- A post opens no subscription. -/
theorem settle_post (s : Service) (now : Time.Instant) (body : List UInt8) (opening : Opening) :
    settle (s.post now body) opening = (s.post now body).service := by
  unfold post
  split
  · rfl
  · split
    · rfl
    · rfl

/-! ### What is written -/

/-- What an action writes to what is kept. -/
def Action.write (s : Store) : Action → Store
  | .request now surface r _ =>
    if IsPost surface r ∧ r.body.length ≤ bodyLimit then
      match postedEvent now r.body with
      | .error _ => s.countRejected
      | .ok e => s.keepEvent e
    else s
  | .effect e => s.apply e
  | .sample x => s.keepSample x
  | .health h => { s with health := h }
  | _ => s

theorem store_disconnect (s : Service) (name : String) :
    ∃ streams events, (s.disconnect name).1.store = s.store.relevel streams events := by
  unfold disconnect
  cases Keyed.find? name s.streams with
  | none => exact ⟨s.store.metrics.activeStreams, s.store.metrics.eventsItems, rfl⟩
  | some _ => exact ⟨s.store.metrics.activeStreams - 1, s.store.metrics.eventsItems, rfl⟩

theorem store_receive (s : Service) (name : String) (limit : Nat) :
    (s.receive name limit).2.store = s.store := by
  unfold receive
  cases Keyed.find? name s.streams with
  | none => rfl
  | some _ => rfl

theorem store_pump (s : Service) (name : String) : (s.pump name).store = s.store := by
  unfold pump
  cases Keyed.find? name s.streams with
  | none => rfl
  | some _ => rfl

theorem store_take (s : Service) (name : String) : (s.take name).2.store = s.store := by
  unfold take
  cases Keyed.find? name s.streams with
  | none => rfl
  | some _ => rfl

theorem store_settle {s : Service} {o : Outcome} (h : o.OnlyLevels s) (opening : Opening) :
    ∃ streams events, (settle o opening).store = s.store.relevel streams events := by
  obtain ⟨⟨streams, events, hservice⟩, -⟩ := h
  have hleft : ∀ name, ∃ streams events,
      (o.service.disconnect name).1.store = s.store.relevel streams events := by
    intro name
    obtain ⟨streams', events', hstore⟩ := store_disconnect o.service name
    refine ⟨streams', events', ?_⟩
    rw [hstore, hservice]
    rfl
  unfold settle
  cases o.response.body with
  | text _ => exact ⟨streams, events, by rw [hservice]⟩
  | frames stream =>
    cases opening with
    | left => exact ⟨streams - 1, events, by rw [hservice]; rfl⟩
    | kept name => exact hleft name
    | idle name => exact hleft name

theorem write_of_isPost {surface : Surface} {r : Request} (h : IsPost surface r) (s : Service)
    (now : Time.Instant) (opening : Opening) :
    (Action.request now surface r opening).write s.store = (s.post now r.body).service.store := by
  show (if IsPost surface r ∧ r.body.length ≤ bodyLimit then _ else _) = _
  rcases post_cases s now r.body with
    ⟨hlong, -, hs⟩ | ⟨hshort, e, he, -, hs⟩ | ⟨hshort, e, he, -, hs⟩
  · rw [hs, if_neg fun h => Nat.not_le_of_lt hlong h.2]
  · rw [hs, if_pos ⟨h, hshort⟩, he]
  · rw [hs, if_pos ⟨h, hshort⟩, he]

theorem write_of_not_isPost {surface : Surface} {r : Request} (h : ¬IsPost surface r) (s : Store)
    (now : Time.Instant) (opening : Opening) :
    (Action.request now surface r opening).write s = s := if_neg fun hpost => h hpost.1

/-- **What a step does to what is kept**: it writes what its action writes, and may set levels. -/
theorem store_step (s : Service) (a : Action) :
    ∃ streams events, (s.step a).store = (a.write s.store).relevel streams events := by
  have hsame : ∀ t : Store, t = t.relevel t.metrics.activeStreams t.metrics.eventsItems :=
    fun _ => rfl
  cases a with
  | request now surface r opening =>
    show ∃ streams events, (settle (s.respond now surface r) opening).store = _
    by_cases hpost : IsPost surface r
    · rw [respond_of_isPost hpost, settle_post, write_of_isPost hpost]
      exact ⟨_, _, hsame _⟩
    · rw [write_of_not_isPost hpost]
      exact store_settle (onlyLevels_respond hpost s now) opening
  | disconnect name => exact store_disconnect s name
  | receive name limit => exact ⟨_, _, (store_receive s name limit).trans (hsame _)⟩
  | pump name => exact ⟨_, _, (store_pump s name).trans (hsame _)⟩
  | take name => exact ⟨_, _, (store_take s name).trans (hsame _)⟩
  | effect | sample | health | advance | wait => exact ⟨_, _, hsame _⟩

end Service

end NodeTelemetry
