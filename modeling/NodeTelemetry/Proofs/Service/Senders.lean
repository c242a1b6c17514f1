import NodeTelemetry.Proofs.Service.Sender

/-!
# Senders that end by themselves

A service that loses a client counts one stream less at once. What does the counting is not the
client, though, but the sender of its stream: the count is raised when a request is answered, and
lowered when the sender ends, some time after the client has left.

`Senders` is a service whose senders do so. It counts open streams twice, as the handler of requests
and the senders do it: in a number of its own and in the level of the metrics. `Move` has each step of
a sender, of a client and of a response that is dropped as a move of its own, beside all that happens
to the service around them.

A sender that has not ended is `live`. Both counts are the number of live senders (`Sound`), and one
move keeps this so (`Sound.step`), hence every run does (`Sound.run`). When no sender can go on and no
response is half dropped (`Settled`), live senders and held responses are the same
(`Sound.live_eq_held`). Everything settles in the end, since each move of its own leaves less to do
(`exists_settled`).
-/

namespace NodeTelemetry.Service

/-- A service whose senders end by themselves. -/
structure Senders where
  /-- The service beside its streams. -/
  service : Service
  /-- All connections that were ever opened, the first one first. -/
  connections : List Connection
  /-- The number of open streams, as handler and senders count it. -/
  active : Int

/-- What can happen to a service and its connections. -/
inductive Move where
  /-- A request arrives. -/
  | request (now : Time.Instant) (surface : Surface) (r : Request)
  /-- The sampler does something. -/
  | effect (e : Effect)
  /-- A sample is kept. -/
  | sample (x : Sample)
  /-- The health of the components changes. -/
  | health (h : Health.Registry)
  /-- Time passes. -/
  | wait (ms : Nat)
  /-- A sender goes on by one step, if it can. -/
  | poll (i : Nat)
  /-- A client takes a frame. -/
  | read (i : Nat)
  /-- A client drops its response. -/
  | leave (i : Nat)
  /-- A response that is dropped takes its receiver from the channel. -/
  | close (i : Nat)
  /-- A response that is dropped tells its sender to stop. -/
  | cancel (i : Nat)

/-- A move is what becomes of what was begun: a sender goes on, or a response is dropped in full. -/
def Move.IsOwn : Move → Prop
  | poll _ | close _ | cancel _ => True
  | _ => False

namespace Senders

/-- A service without connections. -/
def start (s : Service) : Senders := ⟨s, [], 0⟩

/-- A stream is opened: it is counted, and its sender can begin. -/
def raise (y : Senders) (stream : Subscription Json) (held : Bool) : Senders :=
  ⟨y.service.updateMetrics Metrics.openStream, y.connections ++ [.opened stream held], y.active + 1⟩

/-- A sender has ended: its stream is no longer counted. -/
def lower (y : Senders) : Senders := ⟨y.service.closeStream, y.connections, y.active - 1⟩

/-- A request is answered. One with `HEAD` is answered by a stream as well, whose body is dropped. -/
def request (y : Senders) (now : Time.Instant) (surface : Surface) (r : Request) : Senders :=
  if AsksForStream surface r then
    match (y.service.subscribe r).response.body with
    | .frames stream => y.raise stream (r.method != "HEAD")
    | .text _ => { y with service := (y.service.subscribe r).service }
  else { y with service := (y.service.respond now surface r).service }

/-- Something becomes of a connection, if it is there. -/
def update (y : Senders) (i : Nat) (f : Connection → Connection) : Senders :=
  match y.connections[i]? with
  | none => y
  | some c => { y with connections := y.connections.set i (f c) }

/-- The sender of a connection goes on. When it has ended, its stream is no longer counted. -/
def poll (y : Senders) (i : Nat) : Senders :=
  match y.connections[i]? with
  | none => y
  | some c =>
    let next := c.poll y.service.nowMs (y.service.store.newest? c.stream.scope)
    let y := { y with connections := y.connections.set i next }
    if c.live ∧ ¬next.live then y.lower else y

/-- What comes of a move. -/
def step (y : Senders) : Move → Senders
  | .request now surface r => y.request now surface r
  | .effect e => { y with service := y.service.step (.effect e) }
  | .sample x => { y with service := y.service.step (.sample x) }
  | .health h => { y with service := y.service.step (.health h) }
  | .wait ms => { y with service := y.service.step (.wait ms) }
  | .poll i => y.poll i
  | .read i => y.update i .read
  | .leave i => y.update i .leave
  | .close i => y.update i .close
  | .cancel i => y.update i .cancel

/-- What comes of some moves. -/
def run (y : Senders) (ms : List Move) : Senders := ms.foldl step y

/-- How many responses are held by clients. -/
def held (y : Senders) : Nat := y.connections.countP (·.held)

/-- How many senders have not ended. -/
def live (y : Senders) : Nat := y.connections.countP (·.live)

/-- No sender can go on, and no response is half dropped. -/
def Settled (y : Senders) : Prop :=
  ∀ c ∈ y.connections, ¬c.Runnable y.service.nowMs ∧ (c.held ∨ c.closed ∧ c.cancelled)

instance (y : Senders) : Decidable y.Settled :=
  inferInstanceAs (Decidable (∀ c ∈ y.connections, _))

/-! ### Counting -/

/-- Both counts are the number of live senders, and no client that holds its response has lost its
sender. -/
structure Sound (level : Int) (y : Senders) : Prop where
  /-- Each connection is sound. -/
  each : ∀ c ∈ y.connections, c.Sound
  /-- One count. -/
  active_eq : y.active = y.live
  /-- The other count. -/
  gauge_eq : y.service.gauge = level + y.active

theorem sound_start (s : Service) : Sound s.gauge (start s) :=
  ⟨fun _ h => absurd h List.not_mem_nil, rfl, (Int.add_zero _).symm⟩

variable {level : Int} {y : Senders}

/-- What a connection that is replaced changes in a count. -/
theorem countP_set {p : Connection → Bool} {cs : List Connection} {i : Nat} {c : Connection}
    (h : cs[i]? = some c) (c' : Connection) :
    ((cs.set i c').countP p : Int) = cs.countP p - (if p c then 1 else 0) + (if p c' then 1 else 0) := by
  obtain ⟨hi, rfl⟩ := List.getElem?_eq_some_iff.mp h
  have hpos : p cs[i] = true → 0 < cs.countP p := fun hp =>
    List.countP_pos_iff.mpr ⟨_, List.getElem_mem hi, hp⟩
  rw [List.countP_set hi]
  split
  · have := hpos ‹_›
    split <;> push_cast <;> omega
  · split <;> push_cast <;> omega

/-- A connection is replaced by what comes of it. -/
theorem mem_set {cs : List Connection} (h : ∀ c ∈ cs, c.Sound) {i : Nat} {c' : Connection}
    (hc' : c'.Sound) : ∀ c ∈ cs.set i c', c.Sound := by
  intro c hc
  rcases List.mem_or_eq_of_mem_set hc with hc | rfl
  · exact h c hc
  · exact hc'

/-- What the client does, and what is dropped with its response, is nothing to the count. -/
theorem Sound.update (h : Sound level y) (i : Nat) {f : Connection → Connection}
    (hlive : ∀ c, (f c).live = c.live) (hsound : ∀ c, c.Sound → (f c).Sound) :
    Sound level (y.update i f) := by
  unfold Senders.update
  cases hget : y.connections[i]? with
  | none => exact h
  | some c =>
    have hc : (f c).Sound := hsound c (h.each c (List.mem_of_getElem? hget))
    have hcount := countP_set (p := (·.live)) hget (f c)
    rw [hlive, Int.sub_add_cancel] at hcount
    exact ⟨mem_set h.each hc, h.active_eq.trans hcount.symm, h.gauge_eq⟩

/-- A sender that goes on is counted as long as it is live. -/
theorem Sound.poll (h : Sound level y) (i : Nat) : Sound level (y.poll i) := by
  unfold Senders.poll
  cases hget : y.connections[i]? with
  | none => exact h
  | some c =>
    have hc : c.Sound := h.each c (List.mem_of_getElem? hget)
    have hnext := hc.poll y.service.nowMs (y.service.store.newest? c.stream.scope)
    have hstay : (c.poll y.service.nowMs (y.service.store.newest? c.stream.scope)).live → c.live :=
      Connection.live_of_live_poll
    dsimp only
    generalize c.poll y.service.nowMs (y.service.store.newest? c.stream.scope) = next at *
    have hcount := countP_set (p := (·.live)) hget next
    have hactive : y.active = y.connections.countP (·.live) := h.active_eq
    have hgauge : y.service.gauge = level + y.active := h.gauge_eq
    by_cases hended : c.live ∧ ¬next.live
    · rw [if_pos hended]
      rw [if_pos hended.1, if_neg hended.2] at hcount
      refine ⟨mem_set h.each hnext, ?_, ?_⟩
      · show y.active - 1 = (y.connections.set i next).countP (·.live)
        omega
      · show y.service.gauge - 1 = level + (y.active - 1)
        omega
    · rw [if_neg hended]
      have hsame : next.live = c.live := by
        cases hl : c.live with
        | false => exact Bool.eq_false_iff.mpr fun hn => by rw [hstay hn] at hl; cases hl
        | true => exact Decidable.not_not.mp fun hn => hended ⟨hl, hn⟩
      rw [hsame, Int.sub_add_cancel] at hcount
      exact ⟨mem_set h.each hnext, hactive.trans hcount.symm, hgauge⟩

/-- A stream that is opened is counted. -/
theorem Sound.raise (h : Sound level y) {stream : Subscription Json} (hstream : stream.waiting = [])
    (held : Bool) : Sound level (y.raise stream held) := by
  have hgauge : y.service.gauge = level + y.active := h.gauge_eq
  have hactive : y.active = y.connections.countP (·.live) := h.active_eq
  refine ⟨fun c hc => ?_, ?_, ?_⟩
  · rcases List.mem_append.mp hc with hc | hc
    · exact h.each c hc
    · exact List.mem_singleton.mp hc ▸ Connection.sound_opened hstream held
  · show y.active + 1 = ((y.connections ++ [Connection.opened stream held]).countP (·.live) : Nat)
    rw [List.countP_append, hactive]
    rfl
  · show y.service.gauge + 1 = level + (y.active + 1)
    omega

/-- What leaves the level alone leaves the counts alone. -/
theorem Sound.around (h : Sound level y) {s : Service} (hgauge : s.gauge = y.service.gauge) :
    Sound level { y with service := s } :=
  ⟨h.each, h.active_eq, hgauge.trans h.gauge_eq⟩

theorem gauge_effect (s : Service) (e : Effect) : (s.step (.effect e)).gauge = s.gauge := by
  cases e with
  | failed source fault => cases source <;> rfl
  | called | sampled | ended => rfl

/-- A request for a stream that names no history changes nothing. -/
theorem request_of_error (y : Senders) (now : Time.Instant) {surface : Surface} {r : Request}
    (h : AsksForStream surface r) {e : QueryError} (hscope : requestedScope r = .error e) :
    y.request now surface r = y := by
  unfold request
  rw [if_pos h, subscribe_of_error hscope]
  rfl

/-- A request for the stream of a history opens it. -/
theorem request_of_ok (hperiod : 0 < y.service.streamPeriodMs) (now : Time.Instant)
    {surface : Surface} {r : Request} (h : AsksForStream surface r) {scope : Scope}
    (hscope : requestedScope r = .ok scope) :
    y.request now surface r =
      y.raise (.start scope y.service.streamPeriodMs hperiod)
        (r.method != "HEAD") := by
  unfold request
  rw [if_pos h, subscribe_of_ok hscope hperiod]
  rfl

/-- The three ends of a request: it is not about streams, it is refused, or it opens a stream. -/
theorem request_cases (y : Senders) (hperiod : 0 < y.service.streamPeriodMs) (now : Time.Instant)
    (surface : Surface) (r : Request) :
    (¬AsksForStream surface r ∧
      y.request now surface r = { y with service := (y.service.respond now surface r).service }) ∨
    (AsksForStream surface r ∧ (∃ e, requestedScope r = .error e) ∧ y.request now surface r = y) ∨
    (AsksForStream surface r ∧ ∃ scope, requestedScope r = .ok scope ∧ y.request now surface r =
      y.raise (.start scope y.service.streamPeriodMs hperiod)
        (r.method != "HEAD")) := by
  by_cases h : AsksForStream surface r
  · cases hscope : requestedScope r with
    | error e => exact .inr (.inl ⟨h, ⟨e, rfl⟩, request_of_error y now h hscope⟩)
    | ok scope => exact .inr (.inr ⟨h, scope, rfl, request_of_ok hperiod now h hscope⟩)
  · exact .inl ⟨h, if_neg h⟩

theorem gauge_respond {surface : Surface} {r : Request} (h : ¬AsksForStream surface r) (s : Service)
    (now : Time.Instant) : (s.respond now surface r).service.gauge = s.gauge := by
  have hsame : (s.respond now surface r).service =
      (s.respond now surface r).service.withStreams s.streams s.gauge :=
    (respond_of_not_asksForStream h s now).2 s.streams s.gauge
  rw [hsame]
  rfl

/-- One move keeps the counts. -/
theorem Sound.step (h : Sound level y) (hperiod : 0 < y.service.streamPeriodMs) (m : Move) :
    Sound level (y.step m) := by
  cases m with
  | request now surface r =>
    show Sound level (y.request now surface r)
    rcases request_cases y hperiod now surface r with
      ⟨hother, hy⟩ | ⟨-, -, hy⟩ | ⟨-, scope, -, hy⟩
    · rw [hy]
      exact h.around (gauge_respond hother y.service now)
    · rwa [hy]
    · rw [hy]
      exact h.raise rfl _
  | effect e => exact h.around (gauge_effect y.service e)
  | sample | health | wait => exact h.around rfl
  | poll i => exact h.poll i
  | read i => exact h.update i Connection.live_read fun _ => Connection.Sound.read
  | leave i => exact h.update i (fun _ => rfl) fun _ => Connection.Sound.leave
  | close i => exact h.update i Connection.live_close fun _ => Connection.Sound.close
  | cancel i => exact h.update i Connection.live_cancel fun _ => Connection.Sound.cancel

theorem streamPeriodMs_respond (s : Service) (now : Time.Instant) (surface : Surface) (r : Request) :
    (s.respond now surface r).service.streamPeriodMs = s.streamPeriodMs := by
  obtain ⟨store, hservice⟩ := service_respond s now surface r
  rw [hservice]

theorem service_update (y : Senders) (i : Nat) (f : Connection → Connection) :
    (y.update i f).service = y.service := by
  unfold update
  cases y.connections[i]? <;> rfl

theorem service_poll (y : Senders) (i : Nat) :
    (y.poll i).service = y.service ∨ (y.poll i).service = y.service.closeStream := by
  unfold poll
  cases y.connections[i]? with
  | none => exact .inl rfl
  | some c =>
    dsimp only
    split
    · exact .inr rfl
    · exact .inl rfl

/-- The period of streams stays. -/
theorem streamPeriodMs_step (hperiod : 0 < y.service.streamPeriodMs) (m : Move) :
    (y.step m).service.streamPeriodMs = y.service.streamPeriodMs := by
  cases m with
  | request now surface r =>
    show (y.request now surface r).service.streamPeriodMs = _
    rcases request_cases y hperiod now surface r with ⟨-, hy⟩ | ⟨-, -, hy⟩ | ⟨-, scope, -, hy⟩
    · rw [hy]
      exact streamPeriodMs_respond y.service now surface r
    · rw [hy]
    · rw [hy]
      rfl
  | poll i =>
    show (y.poll i).service.streamPeriodMs = _
    rcases service_poll y i with h | h
    · rw [h]
    · rw [h]
      rfl
  | read i | leave i | close i | cancel i =>
    exact congrArg Service.streamPeriodMs (service_update y i _)
  | effect | sample | health | wait => rfl

/-- It stays in every run. -/
theorem streamPeriodMs_run (hperiod : 0 < y.service.streamPeriodMs) (ms : List Move) :
    0 < (y.run ms).service.streamPeriodMs := by
  induction ms generalizing y with
  | nil => exact hperiod
  | cons m ms ih => exact ih ((streamPeriodMs_step hperiod m).symm ▸ hperiod)

/-- Every run keeps the counts. -/
theorem Sound.run (h : Sound level y) (hperiod : 0 < y.service.streamPeriodMs) (ms : List Move) :
    Sound level (y.run ms) := by
  induction ms generalizing y with
  | nil => exact h
  | cons m ms ih => exact ih (h.step hperiod m) ((streamPeriodMs_step hperiod m).symm ▸ hperiod)

/-- When all has settled, the senders that have not ended are those of responses that are held. -/
theorem Sound.live_eq_held (h : Sound level y) (hsettled : y.Settled) : y.live = y.held := by
  refine List.countP_congr fun c hc => ⟨fun hlive => ?_, (h.each c hc).live_of_held⟩
  obtain ⟨hstill, hheld | ⟨-, hcancelled⟩⟩ := hsettled c hc
  · exact hheld
  · -- a sender that has been told to stop and has not ended can go on
    refine absurd ?_ hstill
    unfold Connection.live at hlive
    unfold Connection.Runnable
    cases hphase : c.phase with
    | waiting | sending => exact .inl hcancelled
    | ended =>
      rw [hphase] at hlive
      cases hlive

/-- A client that holds its response has a live sender, settled or not. -/
theorem Sound.held_le_live (h : Sound level y) : y.held ≤ y.live :=
  List.countP_mono_left fun c hc => (h.each c hc).live_of_held

/-! ### Settling -/

/-- How much some connections have still to do by themselves. -/
def restOf (nowMs : Nat) : List Connection → Nat
  | [] => 0
  | c :: cs => c.rest nowMs + restOf nowMs cs

/-- How much all connections have still to do by themselves. -/
def rest (y : Senders) : Nat := restOf y.service.nowMs y.connections

/-- Connections one of which has less to do have less to do. -/
theorem restOf_set {cs : List Connection} {i : Nat} {c : Connection} (h : cs[i]? = some c)
    {c' : Connection} {nowMs : Nat} (hless : c'.rest nowMs < c.rest nowMs) :
    restOf nowMs (cs.set i c') < restOf nowMs cs := by
  induction cs generalizing i with
  | nil => cases h
  | cons d cs ih =>
    cases i with
    | zero =>
      obtain rfl := Option.some.inj h
      exact Nat.add_lt_add_right hless _
    | succ i => exact Nat.add_lt_add_left (ih h) _

theorem rest_update {i : Nat} {c : Connection} (hget : y.connections[i]? = some c)
    {f : Connection → Connection} (hless : (f c).rest y.service.nowMs < c.rest y.service.nowMs) :
    (y.update i f).rest < y.rest := by
  unfold update
  rw [hget]
  exact restOf_set hget hless

theorem rest_poll {i : Nat} {c : Connection} (hget : y.connections[i]? = some c)
    (h : c.Runnable y.service.nowMs) : (y.poll i).rest < y.rest := by
  have hless := Connection.rest_poll h (y.service.store.newest? c.stream.scope)
  unfold poll
  rw [hget]
  dsimp only
  split
  · exact restOf_set hget hless
  · exact restOf_set hget hless

/-- What has not settled has a move of its own to make. -/
theorem exists_own (h : ¬y.Settled) : ∃ m : Move, m.IsOwn ∧ (y.step m).rest < y.rest := by
  unfold Settled at h
  simp only [Classical.not_forall] at h
  obtain ⟨c, hc, hrest⟩ := h
  obtain ⟨i, hget⟩ := List.getElem?_of_mem hc
  by_cases hrun : c.Runnable y.service.nowMs
  · exact ⟨.poll i, trivial, rest_poll hget hrun⟩
  · have hdropped : ¬(c.held ∨ c.closed ∧ c.cancelled) := fun hd => hrest ⟨hrun, hd⟩
    have hheld : c.held = false := Bool.eq_false_iff.mpr fun hh => hdropped (.inl hh)
    by_cases hclosed : c.closed
    · have hcancelled : c.cancelled = false :=
        Bool.eq_false_iff.mpr fun hh => hdropped (.inr ⟨hclosed, hh⟩)
      exact ⟨.cancel i, trivial, rest_update hget (Connection.rest_cancel hheld hcancelled _)⟩
    · exact ⟨.close i, trivial, rest_update hget
        (Connection.rest_close hheld (Bool.eq_false_iff.mpr hclosed) _)⟩

/-- All settles when everybody goes on. -/
theorem exists_settled (y : Senders) : ∃ ms : List Move, (∀ m ∈ ms, m.IsOwn) ∧ (y.run ms).Settled := by
  induction hrest : y.rest using Nat.strongRecOn generalizing y with
  | ind n ih =>
    by_cases hsettled : y.Settled
    · exact ⟨[], fun _ h => absurd h List.not_mem_nil, hsettled⟩
    · obtain ⟨m, hm, hless⟩ := exists_own hsettled
      obtain ⟨ms, hms, hend⟩ := ih _ (hrest ▸ hless) (y.step m) rfl
      exact ⟨m :: ms, List.forall_mem_cons.mpr ⟨hm, hms⟩, hend⟩

end Senders

end NodeTelemetry.Service
