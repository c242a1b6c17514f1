import NodeTelemetry.Proofs.Service.Connections

/-!
# The two histories do not meet

One service keeps both histories, answers queries for both by the same handler and sends the frames
of both from the same table of streams. Still, whoever looks at one history only cannot tell what is
given to the other.

What an action is to such a client is `Service.shows`: the answer to a query for the history, the
answer to a post if it is the history of events, and the frames taken from a stream of the history.
Two services are `Alike` to it if they have the same of this history, the same streams of it, and
the same time. Every action keeps two services alike (`Alike.step`) and shows the same of both
(`Alike.shows_eq`). An action that has to do with the other history only leaves a service alike to
what it was (`alike_step_of_foreign`).
-/

namespace NodeTelemetry

/-- Two stores have kept the same in one of the histories. -/
def Store.SameHistory (s t : Store) : Scope → Prop
  | .stats => s.samples = t.samples
  | .events => s.events = t.events

namespace Store.SameHistory

variable {s t u : Store} {scope : Scope}

theorem refl (s : Store) (scope : Scope) : s.SameHistory s scope := by
  cases scope with
  | stats => rfl
  | events => rfl

theorem symm (h : s.SameHistory t scope) : t.SameHistory s scope := by
  cases scope with
  | stats => exact Eq.symm h
  | events => exact Eq.symm h

theorem trans (h : s.SameHistory t scope) (h' : t.SameHistory u scope) :
    s.SameHistory u scope := by
  cases scope with
  | stats => exact Eq.trans h h'
  | events => exact Eq.trans h h'

theorem entries_eq (h : s.SameHistory t scope) : s.entries scope = t.entries scope := by
  cases scope with
  | stats => exact congrArg (fun x : History Sample => x.snapshot.map Sample.toJson) h
  | events => exact congrArg (fun x : History Event => x.snapshot.map Event.toJson) h

theorem newest?_eq (h : s.SameHistory t scope) : s.newest? scope = t.newest? scope := by
  cases scope with
  | stats => exact congrArg (fun x : History Sample => x.latest?.map Sample.toJson) h
  | events => exact congrArg (fun x : History Event => x.latest?.map Event.toJson) h

/-- What changes both histories in the same way keeps each of them the same. -/
theorem imp {s' t' : Store} (h : s.SameHistory t scope)
    (hsamples : s.samples = t.samples → s'.samples = t'.samples)
    (hevents : s.events = t.events → s'.events = t'.events) : s'.SameHistory t' scope := by
  cases scope with
  | stats => exact hsamples h
  | events => exact hevents h

theorem apply (h : s.SameHistory t scope) (e : Effect) :
    (s.apply e).SameHistory (t.apply e) scope := by
  cases e with
  | sampled sample failures recovered => exact h.imp (congrArg (History.append · sample)) id
  | called | failed | ended => exact h.imp id id

/-- The sampler keeps no events. -/
theorem apply_events (s : Store) (e : Effect) : s.SameHistory (s.apply e) .events := by
  cases e with
  | called | failed | sampled | ended => rfl

end Store.SameHistory

namespace Service

/-! ### The streams of a history -/

/-- The stream under a name, if it is a stream of the history. -/
def stream? (s : Service) (scope : Scope) (name : String) : Option (Subscription Json) :=
  (Keyed.find? name s.streams).filter (·.scope = scope)

theorem stream?_eq_some {s : Service} {scope : Scope} {name : String} {c : Subscription Json} :
    s.stream? scope name = some c ↔ Keyed.find? name s.streams = some c ∧ c.scope = scope := by
  unfold stream?
  rw [Option.filter_eq_some_iff, decide_eq_true_eq]

/-- A change that keeps scopes can be looked at for the streams of one history only. -/
theorem filter_map_stream {scope : Scope} {f g : Subscription Json → Subscription Json}
    (hscope : ∀ c, (f c).scope = c.scope) (hfg : ∀ c, c.scope = scope → f c = g c)
    (o : Option (Subscription Json)) :
    (o.map f).filter (·.scope = scope) = (o.filter (·.scope = scope)).map g := by
  cases o with
  | none => rfl
  | some c =>
    by_cases hc : c.scope = scope
    · have hgc : (g c).scope = scope := by rw [← hfg c hc, hscope c, hc]
      simp [Option.filter, hc, hfg c hc, hgc]
    · have hfc : (f c).scope ≠ scope := fun h => hc ((hscope c).symm.trans h)
      simp [Option.filter, hc, hfc]

theorem stream?_insert (s : Service) (scope : Scope) (name other : String)
    (c : Subscription Json) :
    ({ s with streams := Keyed.insert other c s.streams } : Service).stream? scope name =
      if other = name then (some c).filter (·.scope = scope) else s.stream? scope name := by
  by_cases h : other = name
  · rw [if_pos h, h]
    exact congrArg (Option.filter _) (Keyed.find?_insert_self name c s.streams)
  · rw [if_neg h]
    exact congrArg (Option.filter _) (Keyed.find?_insert_of_ne (Ne.symm h) c s.streams)

theorem stream?_disconnect (s : Service) (scope : Scope) (name other : String) :
    (s.disconnect other).1.stream? scope name =
      if other = name then none else s.stream? scope name := by
  by_cases h : other = name
  · rw [if_pos h, h]
    exact congrArg (Option.filter _) (find?_disconnect_self s name)
  · rw [if_neg h]
    exact congrArg (Option.filter _) (find?_disconnect_of_ne h s)

/-- The stream under a name goes on, if there is one. -/
def adjust (s : Service) (name : String) (f : Subscription Json → Subscription Json) : Service :=
  match Keyed.find? name s.streams with
  | none => s
  | some c => { s with streams := Keyed.insert name (f c) s.streams }

theorem receive_eq_adjust (s : Service) (name : String) (limit : Nat) :
    (s.receive name limit).2 =
      s.adjust name fun c => (c.receive s.nowMs (s.store.newest? c.scope) limit).2 := by
  unfold receive adjust
  cases Keyed.find? name s.streams with
  | none => rfl
  | some c => rfl

theorem take_eq_adjust (s : Service) (name : String) :
    (s.take name).2 = s.adjust name fun c => c.pass.2 := by
  unfold take adjust
  cases Keyed.find? name s.streams with
  | none => rfl
  | some c => rfl

theorem stream?_adjust (s : Service) {scope : Scope} (name other : String)
    {f g : Subscription Json → Subscription Json} (hscope : ∀ c, (f c).scope = c.scope)
    (hfg : ∀ c, c.scope = scope → f c = g c) :
    (s.adjust other f).stream? scope name =
      if other = name then (s.stream? scope name).map g else s.stream? scope name := by
  by_cases h : other = name
  · obtain rfl := h
    rw [if_pos rfl]
    refine Eq.trans ?_ (filter_map_stream hscope hfg (Keyed.find? other s.streams))
    unfold stream? adjust
    cases hfind : Keyed.find? other s.streams with
    | none => exact congrArg (Option.filter _) hfind
    | some c => exact congrArg (Option.filter _) (Keyed.find?_insert_self other (f c) s.streams)
  · rw [if_neg h]
    unfold adjust
    cases Keyed.find? other s.streams with
    | none => rfl
    | some c => exact (stream?_insert s scope name other (f c)).trans (if_neg h)

theorem stream?_advance (s : Service) (scope : Scope) (name : String) (ms : Nat) :
    (s.advance ms).stream? scope name = (s.stream? scope name).map fun c =>
      c.run s.nowMs (s.nowMs + ms) (s.store.newest? scope) := by
  have hfind : Keyed.find? name (s.advance ms).streams = (Keyed.find? name s.streams).map fun c =>
      c.run s.nowMs (s.nowMs + ms) (s.store.newest? c.scope) :=
    Keyed.find?_map (fun _ (c : Subscription Json) =>
      c.run s.nowMs (s.nowMs + ms) (s.store.newest? c.scope)) name s.streams
  unfold stream?
  rw [hfind]
  exact filter_map_stream (fun c => c.scope_run _ _ _) (fun c hc => by rw [hc]) _

/-! ### Services that are alike -/

/-- Two services are the same to a client that looks at one history only. -/
structure Alike (scope : Scope) (s t : Service) : Prop where
  /-- The history is the same. -/
  history : s.store.SameHistory t.store scope
  /-- The time is the same. -/
  nowMs_eq : s.nowMs = t.nowMs
  /-- New streams have the same period. -/
  streamPeriodMs_eq : s.streamPeriodMs = t.streamPeriodMs
  /-- The streams of the history are the same, and what waits in them. -/
  stream?_eq : ∀ name, s.stream? scope name = t.stream? scope name

namespace Alike

variable {scope : Scope} {s t u : Service}

theorem refl (scope : Scope) (s : Service) : Alike scope s s :=
  ⟨.refl s.store scope, rfl, rfl, fun _ => rfl⟩

theorem symm (h : Alike scope s t) : Alike scope t s :=
  ⟨h.history.symm, h.nowMs_eq.symm, h.streamPeriodMs_eq.symm, fun name => (h.stream?_eq name).symm⟩

theorem trans (h : Alike scope s t) (h' : Alike scope t u) : Alike scope s u :=
  ⟨h.history.trans h'.history, h.nowMs_eq.trans h'.nowMs_eq,
    h.streamPeriodMs_eq.trans h'.streamPeriodMs_eq,
    fun name => (h.stream?_eq name).trans (h'.stream?_eq name)⟩

theorem newest?_eq (h : Alike scope s t) : s.store.newest? scope = t.store.newest? scope :=
  h.history.newest?_eq

/-- Two services alike are given the same stream under the same name. -/
theorem insert (h : Alike scope s t) (name : String) {c d : Subscription Json}
    (hcd : (some c).filter (fun c => decide (c.scope = scope)) =
      (some d).filter (fun c => decide (c.scope = scope))) :
    Alike scope { s with streams := Keyed.insert name c s.streams }
      { t with streams := Keyed.insert name d t.streams } :=
  { h with
    stream?_eq := fun other => by
      rw [stream?_insert, stream?_insert, hcd, h.stream?_eq other] }

/-- The streams under a name go on in the same way. -/
theorem adjust (h : Alike scope s t) (name : String) {f g : Subscription Json → Subscription Json}
    (hf : ∀ c, (f c).scope = c.scope) (hg : ∀ c, (g c).scope = c.scope)
    (hfg : ∀ c, c.scope = scope → f c = g c) :
    Alike scope (s.adjust name f) (t.adjust name g) := by
  have hrest : ∀ (s : Service) (f : Subscription Json → Subscription Json),
      ∃ streams, s.adjust name f = { s with streams := streams } := by
    intro s f
    unfold Service.adjust
    cases Keyed.find? name s.streams with
    | none => exact ⟨s.streams, rfl⟩
    | some c => exact ⟨_, rfl⟩
  obtain ⟨streams, hs⟩ := hrest s f
  obtain ⟨streams', ht⟩ := hrest t g
  have hstream : ∀ other,
      (s.adjust name f).stream? scope other = (t.adjust name g).stream? scope other := by
    intro other
    rw [s.stream?_adjust other name hf hfg, t.stream?_adjust other name hg fun _ _ => rfl,
      h.stream?_eq other]
  rw [hs, ht] at hstream ⊢
  exact { h with stream?_eq := hstream }

theorem disconnect (h : Alike scope s t) (name : String) :
    Alike scope (s.disconnect name).1 (t.disconnect name).1 := by
  obtain ⟨streams, events, hs⟩ := store_disconnect s name
  obtain ⟨streams', events', ht⟩ := store_disconnect t name
  have hhistory : (s.disconnect name).1.store.SameHistory (t.disconnect name).1.store scope := by
    rw [hs, ht]
    exact h.history.imp id id
  have hstream : ∀ other,
      (s.disconnect name).1.stream? scope other = (t.disconnect name).1.stream? scope other := by
    intro other
    rw [stream?_disconnect, stream?_disconnect, h.stream?_eq other]
  obtain ⟨_, _, hs⟩ := service_disconnect s name
  obtain ⟨_, _, ht⟩ := service_disconnect t name
  rw [hs, ht] at hhistory hstream ⊢
  exact ⟨hhistory, h.nowMs_eq, h.streamPeriodMs_eq, hstream⟩

theorem attach (h : Alike scope s t) (name : String) (c : Subscription Json) :
    Alike scope (s.attach name c) (t.attach name c) := (h.disconnect name).insert name rfl

theorem connect (h : Alike scope s t) (name : String) (c : Subscription Json) :
    Alike scope (s.connect name c).1 (t.connect name c).1 := by
  have hconnect (u : Service) : (u.connect name c).1 =
      let v := (u.disconnect name).1
      let stream := c.run v.nowMs v.nowMs (v.store.newest? c.scope)
      { v with streams := Keyed.insert name stream v.streams } := rfl
  have hleft := h.disconnect name
  -- the first tick finds the newest entry of the stream's own history, so the other one is not read
  have hrun (u : Service) : (some (c.run u.nowMs u.nowMs (u.store.newest? c.scope))).filter
        (fun c => decide (c.scope = scope)) =
      ((some c).filter (·.scope = scope)).map fun c =>
        c.run u.nowMs u.nowMs (u.store.newest? scope) :=
    filter_map_stream (f := fun c => c.run u.nowMs u.nowMs (u.store.newest? c.scope))
      (fun c => c.scope_run _ _ _) (fun c hc => by rw [hc]) (some c)
  rw [hconnect, hconnect]
  refine hleft.insert name ?_
  rw [hrun, hrun, hleft.nowMs_eq, hleft.newest?_eq]

/-- What is kept of one history after a request depends on what was kept of it before. -/
theorem history_respond (h : Alike scope s t) (now : Time.Instant) (surface : Surface)
    (r : Request) :
    (s.respond now surface r).service.store.SameHistory (t.respond now surface r).service.store
      scope := by
  by_cases hpost : IsPost surface r
  · rw [respond_of_isPost hpost, respond_of_isPost hpost]
    unfold post
    by_cases hlong : bodyLimit < r.body.length
    · rw [if_pos hlong, if_pos hlong]
      exact h.history
    · rw [if_neg hlong, if_neg hlong]
      cases postedEvent now r.body with
      | error e => exact h.history.imp id id
      | ok e => exact h.history.imp id (congrArg (History.append · e))
  · obtain ⟨⟨streams, events, hs⟩, -⟩ := onlyLevels_respond hpost s now
    obtain ⟨⟨streams', events', ht⟩, -⟩ := onlyLevels_respond hpost t now
    rw [hs, ht]
    exact h.history.imp id id

theorem respond (h : Alike scope s t) (now : Time.Instant) (surface : Surface) (r : Request) :
    Alike scope (s.respond now surface r).service (t.respond now surface r).service := by
  have hhistory := h.history_respond now surface r
  obtain ⟨_, hs⟩ := service_respond s now surface r
  obtain ⟨_, ht⟩ := service_respond t now surface r
  rw [hs, ht] at hhistory ⊢
  exact { h with history := hhistory }

/-- A request for a stream has the same answer, whichever history it is for. -/
theorem response_of_asksForStream (h : Alike scope s t) {surface : Surface} {r : Request}
    (hstream : AsksForStream surface r) (now : Time.Instant) :
    (s.respond now surface r).response = (t.respond now surface r).response := by
  have hsubscribe : (s.subscribe r).response = (t.subscribe r).response := by
    unfold subscribe
    rw [h.streamPeriodMs_eq]
    cases requestedScope r with
    | error e => rfl
    | ok scope =>
      by_cases hperiod : 0 < t.streamPeriodMs
      · simp only [dif_pos hperiod]
      · simp only [dif_neg hperiod]
  have hbody (o : Outcome) : o.withoutBody.response = o.response.withBody (.text "") := by
    unfold Outcome.withoutBody
    cases o.response.body with
    | text _ => rfl
    | frames _ => rfl
  rw [respond_of_asksForStream hstream, respond_of_asksForStream hstream]
  by_cases hhead : r.method = "HEAD"
  · rw [if_pos hhead, if_pos hhead, hbody, hbody, hsubscribe]
  · rw [if_neg hhead, if_neg hhead, hsubscribe]

theorem settle (h : Alike scope s t) (now : Time.Instant) (surface : Surface) (r : Request)
    (opening : Opening) :
    Alike scope (settle (s.respond now surface r) opening)
      (settle (t.respond now surface r) opening) := by
  have hrespond := h.respond now surface r
  unfold Service.settle
  by_cases hstream : AsksForStream surface r
  · rw [h.response_of_asksForStream hstream]
    cases (t.respond now surface r).response.body with
    | text _ => exact hrespond
    | frames c =>
      cases opening with
      | left =>
        exact { hrespond with history := hrespond.history.imp id id }
      | kept name => exact hrespond.connect name c
      | idle name => exact hrespond.attach name c
  · obtain ⟨⟨_, hs⟩, -⟩ := respond_of_not_asksForStream hstream s now
    obtain ⟨⟨_, ht⟩, -⟩ := respond_of_not_asksForStream hstream t now
    rw [hs, ht]
    exact hrespond

/-- **Every action keeps two services alike.** -/
theorem step (h : Alike scope s t) (a : Action) : Alike scope (s.step a) (t.step a) := by
  cases a with
  | request now surface r opening => exact h.settle now surface r opening
  | effect e => exact { h with history := h.history.apply e }
  | sample x => exact { h with history := h.history.imp (congrArg (History.append · x)) id }
  | health r => exact { h with history := h.history.imp id id }
  | advance ms =>
    refine ⟨h.history, congrArg (· + ms) h.nowMs_eq, h.streamPeriodMs_eq, fun name => ?_⟩
    show (s.advance ms).stream? scope name = (t.advance ms).stream? scope name
    rw [stream?_advance, stream?_advance, h.stream?_eq, h.nowMs_eq, h.newest?_eq]
  | wait ms => exact { h with nowMs_eq := congrArg (· + ms) h.nowMs_eq }
  | disconnect name => exact h.disconnect name
  | receive name limit =>
    show Alike scope (s.receive name limit).2 (t.receive name limit).2
    rw [receive_eq_adjust, receive_eq_adjust]
    refine h.adjust name (fun c => c.scope_receive _ _ _) (fun c => c.scope_receive _ _ _)
      fun c hc => ?_
    rw [hc, h.nowMs_eq, h.newest?_eq]
  | pump name =>
    refine h.adjust name (fun c => c.scope_pump _ _) (fun c => c.scope_pump _ _) fun c hc => ?_
    rw [hc, h.nowMs_eq, h.newest?_eq]
  | take name =>
    show Alike scope (s.take name).2 (t.take name).2
    rw [take_eq_adjust, take_eq_adjust]
    exact h.adjust name (fun _ => rfl) (fun _ => rfl) fun _ _ => rfl

end Alike

/-! ### What a client sees of a history -/

/-- An action that has to do with the other history only: for a client of the events whatever the
sampler does, for a client of the samples whatever is asked on the ingest surface. -/
def Action.Foreign (scope : Scope) : Action → Prop
  | .effect _ | .sample _ => scope = .events
  | .request _ surface _ _ => scope = .stats ∧ surface = .ingest
  | _ => False

instance (scope : Scope) (a : Action) : Decidable (a.Foreign scope) :=
  match a with
  | .effect _ | .sample _ => inferInstanceAs (Decidable (scope = .events))
  | .request _ surface _ _ => inferInstanceAs (Decidable (scope = .stats ∧ surface = .ingest))
  | .health _ | .advance _ | .receive _ _ | .disconnect _ | .wait _ | .pump _ | .take _ =>
    .isFalse not_false

/-- **Such an action leaves a service alike to what it was.** -/
theorem alike_step_of_foreign {scope : Scope} {a : Action} (h : a.Foreign scope) (s : Service) :
    Alike scope s (s.step a) := by
  cases a with
  | effect e =>
    obtain rfl : scope = .events := h
    exact { Alike.refl .events s with history := .apply_events s.store e }
  | sample x =>
    obtain rfl : scope = .events := h
    exact { Alike.refl .events s with history := rfl }
  | request now surface r opening =>
    obtain ⟨rfl, rfl⟩ : scope = .stats ∧ surface = .ingest := h
    have hhistory := (samples_step s (.request now .ingest r opening)).symm
    have hstream : ¬AsksForStream .ingest r := fun hstream => nomatch hstream.1
    obtain ⟨⟨_, htext⟩, -⟩ := respond_of_not_asksForStream hstream s now
    obtain ⟨_, hservice⟩ := service_respond s now .ingest r
    have hstep : s.step (.request now .ingest r opening) = (s.respond now .ingest r).service := by
      show settle (s.respond now .ingest r) opening = _
      unfold settle
      rw [htext]
    rw [hstep, hservice] at hhistory ⊢
    exact { Alike.refl .stats s with history := hhistory }
  | health | advance | receive | disconnect | wait | pump | take => exact absurd h not_false

/-- A request whose answer tells of a history: a query for it, or a post of an event. -/
def Concerns (scope : Scope) (surface : Surface) (r : Request) : Prop :=
  (surface = .query ∧ r.path = "/history" ∧ (requestedScope r).toOption = some scope) ∨
    (scope = .events ∧ IsPost surface r)

instance (scope : Scope) (surface : Surface) (r : Request) :
    Decidable (Concerns scope surface r) := inferInstanceAs (Decidable (_ ∧ _ ∧ _ ∨ _ ∧ _))

/-- What is shown to a client. -/
inductive Shown where
  /-- The answer to a request. -/
  | answer (r : Response Payload)
  /-- Frames of a stream. -/
  | frames (texts : List String)

/-- What an action shows of a history. -/
def shows (scope : Scope) (s : Service) : Action → Option Shown
  | .request now surface r _ =>
    if Concerns scope surface r then some (.answer (s.respond now surface r).response) else none
  | .receive name limit =>
    (s.stream? scope name).map fun _ => .frames (s.receive name limit).1
  | .take name => (s.stream? scope name).map fun _ => .frames (s.take name).1
  | _ => none

/-- What the actions of a run show of a history, one after the other, but for those that have to do
with the other history only. -/
def seen (scope : Scope) (s : Service) : List Action → List (Option Shown)
  | [] => []
  | a :: as =>
    if a.Foreign scope then seen scope (s.step a) as
    else s.shows scope a :: seen scope (s.step a) as

theorem seen_cons_of_foreign {scope : Scope} {a : Action} (h : a.Foreign scope) (s : Service)
    (as : List Action) : s.seen scope (a :: as) = (s.step a).seen scope as := if_pos h

theorem seen_cons {scope : Scope} {a : Action} (h : ¬a.Foreign scope) (s : Service)
    (as : List Action) :
    s.seen scope (a :: as) = s.shows scope a :: (s.step a).seen scope as := if_neg h

namespace Alike

variable {scope : Scope} {s t : Service}

/-- The answer to a query for a history tells no more than what is kept of it. -/
theorem response_history (h : Alike scope s t) (now : Time.Instant) {r : Request}
    (hpath : r.path = "/history") (hscope : (requestedScope r).toOption = some scope) :
    (s.respond now .query r).response = (t.respond now .query r).response := by
  have hserve (u : Service) : u.serve now r .history =
      u.answer (.json 200 (.arr (u.store.entries scope))) := by
    show u.history r = _
    unfold Service.history
    cases hr : requestedScope r with
    | error e => rw [hr] at hscope; cases hscope
    | ok x =>
      rw [hr] at hscope
      obtain rfl : x = scope := Option.some.inj hscope
      rfl
  have hendpoint : endpoint? .query r.path = some .history := by rw [hpath]; rfl
  unfold Service.respond
  rw [hendpoint]
  dsimp only
  rw [hserve, hserve, h.history.entries_eq]
  by_cases hmethod : r.method ∉ Endpoint.history.methods
  · rw [if_pos hmethod, if_pos hmethod]
    rfl
  · rw [if_neg hmethod, if_neg hmethod]
    by_cases hhead : r.method = "HEAD"
    · rw [if_pos hhead, if_pos hhead]
      rfl
    · rw [if_neg hhead, if_neg hhead]
      rfl

/-- The answer to a post tells nothing of what is kept. -/
theorem response_post (s t : Service) (now : Time.Instant) (body : List UInt8) :
    (s.post now body).response = (t.post now body).response := by
  unfold post
  by_cases hlong : bodyLimit < body.length
  · rw [if_pos hlong, if_pos hlong]
    rfl
  · rw [if_neg hlong, if_neg hlong]
    cases postedEvent now body with
    | error e => rfl
    | ok e => rfl

/-- Frames are shown of a stream of the history only, which both services have. -/
theorem frames_eq (h : Alike scope s t) (name : String) {texts texts' : List String}
    (htexts : ∀ c, Keyed.find? name s.streams = some c → Keyed.find? name t.streams = some c →
      c.scope = scope → texts = texts') :
    ((s.stream? scope name).map fun _ => Shown.frames texts) =
      (t.stream? scope name).map fun _ => Shown.frames texts' := by
  cases hs : s.stream? scope name with
  | none =>
    rw [← h.stream?_eq name, hs]
    rfl
  | some c =>
    have ht := (h.stream?_eq name).symm.trans hs
    obtain ⟨hfind, hc⟩ := stream?_eq_some.mp hs
    rw [ht, htexts c hfind (stream?_eq_some.mp ht).1 hc]

/-- **An action shows the same of two services alike.** -/
theorem shows_eq (h : Alike scope s t) (a : Action) : s.shows scope a = t.shows scope a := by
  cases a with
  | request now surface r opening =>
    by_cases hconcerns : Concerns scope surface r
    · refine (if_pos hconcerns).trans (Eq.trans ?_ (if_pos hconcerns).symm)
      refine congrArg (fun r => some (Shown.answer r)) ?_
      rcases hconcerns with ⟨rfl, hpath, hscope⟩ | ⟨-, hpost⟩
      · exact h.response_history now hpath hscope
      · rw [respond_of_isPost hpost, respond_of_isPost hpost, response_post s t]
    · exact (if_neg hconcerns).trans (if_neg hconcerns).symm
  | receive name limit =>
    refine h.frames_eq name fun c hs ht hc => ?_
    rw [receive_eq hs, receive_eq ht, hc, h.nowMs_eq, h.newest?_eq]
  | take name =>
    refine h.frames_eq name fun c hs ht hc => ?_
    rw [take_eq hs, take_eq ht]
  | effect | sample | health | advance | disconnect | wait | pump => rfl

/-- What is foreign can be left out of a run, from any service that is alike. -/
theorem seen_filter (h : Alike scope s t) (as : List Action) :
    s.seen scope as = t.seen scope (as.filter (¬·.Foreign scope)) ∧
      Alike scope (s.run as) (t.run (as.filter (¬·.Foreign scope))) := by
  induction as generalizing s t with
  | nil => exact ⟨rfl, h⟩
  | cons a as ih =>
    by_cases ha : a.Foreign scope
    · -- only one of the two services takes the step, and nothing of it is seen
      rw [List.filter_cons_of_neg (by simpa using ha), seen_cons_of_foreign ha]
      exact ih ((alike_step_of_foreign ha s).symm.trans h)
    · rw [List.filter_cons_of_pos (by simpa using ha), seen_cons ha, seen_cons ha, h.shows_eq a]
      obtain ⟨hseen, hrun⟩ := ih (h.step a)
      exact ⟨congrArg (_ :: ·) hseen, hrun⟩

end Alike

/-- **The two histories do not meet.** Take any service, with histories of any capacity that keep
anything and with any streams open, and two runs from there that are the same but for what is
foreign to one of the histories: for the events what the sampler does, for the samples what is asked
on the ingest surface; however often this happens, and wherever between the common actions. Then

* the common actions show the same in both runs, one after the other: each answer to a query for
  this history, each answer to a post if it is the history of events, and each frame that is taken
  from one of its streams;
* both runs leave behind the same of this history, the same streams of it, and the same frames that
  still wait there. -/
theorem histories_do_not_meet (s : Service) (scope : Scope) (as bs : List Action)
    (h : as.filter (¬·.Foreign scope) = bs.filter (¬·.Foreign scope)) :
    s.seen scope as = s.seen scope bs ∧ Alike scope (s.run as) (s.run bs) := by
  obtain ⟨hseenas, hrunas⟩ := (Alike.refl scope s).seen_filter as
  obtain ⟨hseenbs, hrunbs⟩ := (Alike.refl scope s).seen_filter bs
  rw [h] at hseenas hrunas
  exact ⟨hseenas.trans hseenbs.symm, hrunas.trans hrunbs.symm⟩

/-- An event is posted, a sample is kept, and a client has opened two streams and takes frames. -/
def mixedActions (kind : String) (samples : List Sample) : List Action :=
  [.request ⟨0, 0⟩ .query ⟨"GET", "/stream?scope=stats", []⟩ (.kept "stats"),
    .request ⟨0, 0⟩ .query ⟨"GET", "/stream", []⟩ (.kept "events")] ++ samples.map .sample ++
  [.request ⟨0, 0⟩ .ingest
      ⟨"POST", "/events", Utf8.ofString ("\x7b\"type\":\"" ++ kind ++ "\"\x7d")⟩ .left,
    .advance 1000, .take "events", .take "stats",
    .request ⟨0, 0⟩ .query ⟨"GET", "/history", []⟩ .left]

theorem histories_do_not_meet_mixed :
    let s := start "node" (.empty 1) 1000
    let x : Sample := ⟨⟨0, 0⟩, .zero⟩
    let as := mixedActions "a" [x]
    let bs := mixedActions "a" []
    let cs := mixedActions "b" [x]
    s.seen .events as = s.seen .events bs ∧ s.seen .stats as = s.seen .stats cs ∧
      Alike .stats (s.run as) (s.run cs) ∧
      (s.run as).store.samples.length ≠ (s.run bs).store.samples.length ∧
      ((s.run as).store.entries .events).map Json.compact ≠
        ((s.run cs).store.entries .events).map Json.compact := by
  intro s x as bs cs
  have hevents := histories_do_not_meet s .events as bs
    (by simp [as, bs, mixedActions, Action.Foreign])
  have hstats := histories_do_not_meet s .stats as cs
    (by simp [as, cs, mixedActions, Action.Foreign])
  exact ⟨hevents.1, hstats.1, hstats.2, by decide, by decide⟩

end Service

end NodeTelemetry
