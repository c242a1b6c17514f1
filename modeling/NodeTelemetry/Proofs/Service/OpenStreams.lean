import NodeTelemetry.Proofs.Service.Senders

/-!
# Open streams are responses that are held

From the outside, senders that end by themselves are a run of the service, in which clients that leave
are counted at once (`Tells`). What the service sees of a move is at most one action (`seen`). It does
not see a sender that has lost its client, a frame that is put into the channel, or a response that is
dropped in full.

So the service tells the counts of every settled state, and of any other state those that it will
have once it has settled (`open_streams_are_held`).
-/

namespace NodeTelemetry.Service

namespace Senders

variable {level : Int} {y : Senders} {s : Service}

/-! ### What the service sees -/

/-- The name of a connection with a number. -/
def streamName (i : Nat) : String := String.ofList (List.replicate i 'c')

theorem streamName_ne {i j : Nat} (h : i ≠ j) : streamName i ≠ streamName j := by
  intro he
  have hlists := congrArg String.toList he
  unfold streamName at hlists
  rw [String.toList_ofList, String.toList_ofList] at hlists
  have hlength := congrArg List.length hlists
  rw [List.length_replicate, List.length_replicate] at hlength
  exact h hlength

/-- What a service sees of a step of a sender: a tick. It does not see what a sender does that has lost
its client, nor that a frame is put into the channel. -/
def seenPoll (name : String) (c : Connection) : List Action :=
  match c.phase, c.held with
  | .waiting, true => [.pump name]
  | _, _ => []

/-- What a service sees of a client that reads: that it takes a frame, if there is one. -/
def seenRead (name : String) (c : Connection) : List Action :=
  if c.held ∧ c.stream.waiting ≠ [] then [.take name] else []

/-- What a service sees of a client that drops its response. -/
def seenLeave (name : String) (c : Connection) : List Action :=
  if c.held then [.disconnect name] else []

/-- What a service sees of a move. -/
def seen (y : Senders) : Move → List Action
  | .request now surface r => [.request now surface r (.idle (streamName y.connections.length))]
  | .effect e => [.effect e]
  | .sample x => [.sample x]
  | .health h => [.health h]
  | .wait ms => [.wait ms]
  | .poll i => y.connections[i]?.toList.flatMap (seenPoll (streamName i))
  | .read i => y.connections[i]?.toList.flatMap (seenRead (streamName i))
  | .leave i => y.connections[i]?.toList.flatMap (seenLeave (streamName i))
  | .close _ | .cancel _ => []

/-- What a service sees of some moves. -/
def seenAll (y : Senders) : List Move → List Action
  | [] => []
  | m :: ms => y.seen m ++ (y.step m).seenAll ms

/-- A service keeps the connections whose responses are held, and counts no others. -/
structure Tells (level : Int) (y : Senders) (s : Service) : Prop where
  /-- Beside its streams and their level the service is the same. -/
  service_eq : ∃ streams gauge, s = y.service.withStreams streams gauge
  /-- It keeps the connections that are held under their names. -/
  find?_eq : ∀ i, Keyed.find? (streamName i) s.streams =
    (y.connections[i]?.filter (·.held)).map Connection.kept
  /-- Its level is that of the responses held. -/
  gauge_eq : s.gauge = level + y.held

theorem tells_start {s : Service} (h : s.streams = []) : Tells s.gauge (start s) s := by
  refine ⟨⟨s.streams, s.gauge, rfl⟩, fun i => ?_, (Int.add_zero _).symm⟩
  rw [h]
  rfl

/-- A connection that looks the same from the outside is told of as before. -/
theorem Tells.set_same (h : Tells level y s) {i : Nat} {c c' : Connection}
    (hget : y.connections[i]? = some c) (hheld : c'.held = c.held)
    (hkept : c.held → c'.kept = c.kept) :
    Tells level { y with connections := y.connections.set i c' } s := by
  refine ⟨h.service_eq, fun j => ?_, ?_⟩
  · rw [h.find?_eq]
    show _ = ((y.connections.set i c')[j]?.filter _).map _
    rw [List.getElem?_set]
    by_cases hij : i = j
    · obtain rfl := hij
      obtain ⟨hi, -⟩ := List.getElem?_eq_some_iff.mp hget
      rw [if_pos rfl, if_pos hi, hget, Option.filter_some, Option.filter_some, hheld]
      by_cases hc : c.held
      · rw [if_pos hc, if_pos hc, Option.map_some, Option.map_some, hkept hc]
      · rw [if_neg hc, if_neg hc]
    · rw [if_neg hij]
  · refine h.gauge_eq.trans ?_
    have hcount := countP_set (p := (·.held)) hget c'
    rw [hheld, Int.sub_add_cancel] at hcount
    exact congrArg (level + ·) hcount.symm

/-- A connection that goes on is told of as it then is. -/
theorem Tells.set_insert (h : Tells level y s) {i : Nat} {c c' : Connection}
    (hget : y.connections[i]? = some c) (hheld : c.held) (hheld' : c'.held) :
    Tells level { y with connections := y.connections.set i c' }
      { s with streams := Keyed.insert (streamName i) c'.kept s.streams } := by
  obtain ⟨streams, gauge, rfl⟩ := h.service_eq
  refine ⟨⟨_, gauge, rfl⟩, fun j => ?_, ?_⟩
  · show Keyed.find? _ (Keyed.insert _ _ streams) = ((y.connections.set i c')[j]?.filter _).map _
    rw [List.getElem?_set]
    by_cases hij : i = j
    · obtain rfl := hij
      obtain ⟨hi, -⟩ := List.getElem?_eq_some_iff.mp hget
      rw [if_pos rfl, if_pos hi, Option.filter_some, if_pos hheld', Keyed.find?_insert_self]
      rfl
    · rw [if_neg hij, Keyed.find?_insert_of_ne (streamName_ne (Ne.symm hij))]
      exact h.find?_eq j
  · refine h.gauge_eq.trans ?_
    have hcount := countP_set (p := (·.held)) hget c'
    rw [if_pos hheld, if_pos hheld', Int.sub_add_cancel] at hcount
    exact congrArg (level + ·) hcount.symm

/-- The end of a sender that has lost its client is not seen. -/
theorem Tells.lower (h : Tells level y s) : Tells level y.lower s := by
  obtain ⟨streams, gauge, rfl⟩ := h.service_eq
  exact ⟨⟨streams, gauge, rfl⟩, h.find?_eq, h.gauge_eq⟩

/-- The connection with a number, as the service keeps it. -/
theorem Tells.find?_held (h : Tells level y s) {i : Nat} {c : Connection}
    (hget : y.connections[i]? = some c) (hheld : c.held) :
    Keyed.find? (streamName i) s.streams = some c.kept := by
  rw [h.find?_eq, hget, Option.filter_some, if_pos hheld]
  rfl

/-- A step of a sender is a tick that the service sees, or nothing that it sees. -/
theorem Tells.poll (h : Tells level y s) (hsound : Sound level y) (i : Nat) :
    Tells level (y.poll i) (s.run (y.seen (.poll i))) := by
  show Tells level (y.poll i) (s.run (y.connections[i]?.toList.flatMap _))
  unfold Senders.poll
  cases hget : y.connections[i]? with
  | none => exact h
  | some c =>
    have hc : c.Sound := hsound.each c (List.mem_of_getElem? hget)
    have hframe := (Connection.poll_frame c y.service.nowMs
      (y.service.store.newest? c.stream.scope)).1
    have hkept := fun hheld => hc.kept_poll hheld y.service.nowMs
      (y.service.store.newest? c.stream.scope)
    rw [Option.toList_some, List.flatMap_singleton]
    dsimp only
    generalize c.poll y.service.nowMs (y.service.store.newest? c.stream.scope) = next at *
    have hput : Tells level { y with connections := y.connections.set i next }
        
        (s.run (seenPoll (streamName i) c)) := by
      obtain ⟨stream, phase, held, closed, cancelled⟩ := c
      cases held with
      | false =>
        have hsame := h.set_same hget hframe fun hh => absurd hh Bool.false_ne_true
        cases phase <;> exact hsame
      | true =>
        cases phase with
        | waiting =>
          have hpump := h.set_insert hget rfl hframe
          rw [hkept rfl] at hpump
          show Tells level _ (s.pump (streamName i))
          rw [pump_eq (h.find?_held hget rfl)]
          obtain ⟨streams, gauge, rfl⟩ := h.service_eq
          exact hpump
        | sending frame => exact h.set_same hget hframe hkept
        | ended => exact h.set_same hget hframe hkept
    split
    · exact hput.lower
    · exact hput

/-- A client takes the frame that the service gives it. -/
theorem Tells.read (h : Tells level y s) (i : Nat) :
    Tells level (y.update i .read) (s.run (y.seen (.read i))) := by
  show Tells level (y.update i .read) (s.run (y.connections[i]?.toList.flatMap _))
  unfold update
  cases hget : y.connections[i]? with
  | none => exact h
  | some c =>
    rw [Option.toList_some, List.flatMap_singleton]
    unfold seenRead
    by_cases hheld : c.held
    · have hread : c.read = { c with stream := c.stream.pass.2 } := if_pos hheld
      by_cases hempty : c.stream.waiting = []
      · rw [if_neg fun hh => hh.2 hempty]
        refine h.set_same hget (by rw [hread]) fun _ => ?_
        rw [hread]
        unfold Connection.kept Subscription.pass
        rw [hempty]
        rfl
      · rw [if_pos ⟨hheld, hempty⟩]
        have hheld' : c.read.held := by rwa [hread]
        have htake := h.set_insert hget hheld hheld'
        have hpass : c.kept.pass.2 = c.read.kept := by
          rw [hread]
          unfold Connection.kept Subscription.pass
          cases hwaiting : c.stream.waiting with
          | nil => exact absurd hwaiting hempty
          | cons frame rest => rfl
        show Tells level _ (s.take (streamName i)).2
        rw [take_eq (h.find?_held hget hheld), hpass]
        exact htake
    · have hread : c.read = c := if_neg hheld
      rw [if_neg fun hh => hheld hh.1]
      exact h.set_same hget (by rw [hread]) fun hh => absurd hh hheld

/-- A client that drops its response is seen to leave. -/
theorem Tells.leave (h : Tells level y s) (i : Nat) :
    Tells level (y.update i .leave) (s.run (y.seen (.leave i))) := by
  show Tells level (y.update i .leave) (s.run (y.connections[i]?.toList.flatMap _))
  unfold update
  cases hget : y.connections[i]? with
  | none => exact h
  | some c =>
    rw [Option.toList_some, List.flatMap_singleton]
    unfold seenLeave
    by_cases hheld : c.held
    · rw [if_pos hheld]
      have hfind := h.find?_held hget hheld
      have hcount := countP_set (p := (·.held)) hget c.leave
      obtain ⟨hi, -⟩ := List.getElem?_eq_some_iff.mp hget
      obtain ⟨streams, gauge, rfl⟩ := h.service_eq
      show Tells level _ (Service.disconnect _ (streamName i)).1
      unfold disconnect
      rw [hfind]
      refine ⟨⟨Keyed.erase (streamName i) streams, gauge - 1, rfl⟩, fun j => ?_, ?_⟩
      · show Keyed.find? _ (Keyed.erase _ streams) = ((y.connections.set i c.leave)[j]?.filter _).map _
        rw [List.getElem?_set]
        by_cases hij : i = j
        · obtain rfl := hij
          rw [if_pos rfl, if_pos hi, Keyed.find?_erase_self]
          rfl
        · rw [if_neg hij, Keyed.find?_erase_of_ne (streamName_ne (Ne.symm hij))]
          exact h.find?_eq j
      · have hgauge : gauge = level + y.connections.countP (·.held) := h.gauge_eq
        rw [if_pos hheld, if_neg (show ¬c.leave.held = true from Bool.false_ne_true)] at hcount
        show gauge - 1 = level + ((y.connections.set i c.leave).countP (·.held) : Nat)
        omega
    · rw [if_neg hheld]
      exact h.set_same hget (Bool.eq_false_iff.mpr hheld).symm fun hh => absurd hh hheld

/-- What is dropped with a response is not seen. -/
theorem Tells.drop (h : Tells level y s) (i : Nat) {f : Connection → Connection}
    (hheld : ∀ c, (f c).held = c.held) (hkept : ∀ c, c.held → f c = c) :
    Tells level (y.update i f) s := by
  unfold update
  cases hget : y.connections[i]? with
  | none => exact h
  | some c => exact h.set_same hget (hheld c) fun hh => congrArg Connection.kept (hkept c hh)

/-- What has nothing to do with streams comes to the same with all streams and without. -/
theorem Tells.around (h : Tells level y s) {f : Service → Service}
    (hf : ∀ streams gauge, f (y.service.withStreams streams gauge) =
      (f y.service).withStreams streams gauge) :
    Tells level { y with service := f y.service } (f s) := by
  obtain ⟨streams, gauge, rfl⟩ := h.service_eq
  rw [hf]
  exact ⟨⟨streams, gauge, rfl⟩, h.find?_eq, h.gauge_eq⟩

/-- A stream that a client opens is kept. -/
theorem Tells.raise (h : Tells level y s) (stream : Subscription Json) :
    Tells level (y.raise stream true)
      ((s.updateMetrics Metrics.openStream).attach (streamName y.connections.length) stream) := by
  have hnone : Keyed.find? (streamName y.connections.length) s.streams = none := by
    rw [h.find?_eq, List.getElem?_eq_none (Nat.le_refl _)]
    rfl
  have hdisconnect : (s.updateMetrics Metrics.openStream).disconnect
      (streamName y.connections.length) = (s.updateMetrics Metrics.openStream, []) := by
    unfold disconnect
    rw [show Keyed.find? _ (s.updateMetrics Metrics.openStream).streams = none from hnone]
  have hkept : (Connection.opened stream true).kept = stream := by
    unfold Connection.kept Connection.opened Connection.hand
    rw [List.append_nil]
  have hgauge : s.gauge = level + y.held := h.gauge_eq
  have hfind := h.find?_eq
  unfold attach
  rw [hdisconnect]
  obtain ⟨streams, gauge, rfl⟩ := h.service_eq
  refine ⟨⟨_, gauge + 1, rfl⟩, fun j => ?_, ?_⟩
  · show Keyed.find? _ (Keyed.insert _ stream streams) =
      ((y.connections ++ [Connection.opened stream true])[j]?.filter _).map _
    by_cases hj : j = y.connections.length
    · obtain rfl := hj
      rw [Keyed.find?_insert_self, List.getElem?_concat_length]
      exact congrArg some hkept.symm
    · rw [Keyed.find?_insert_of_ne (streamName_ne hj), List.getElem?_append]
      refine (hfind j).trans ?_
      by_cases hlt : j < y.connections.length
      · rw [if_pos hlt]
      · rw [if_neg hlt, List.getElem?_eq_none (Nat.le_of_not_lt hlt), List.getElem?_eq_none]
        rw [List.length_singleton]
        omega
  · show gauge + 1 = level + ((y.connections ++ [Connection.opened stream true]).countP (·.held) : Nat)
    have hgauge' : gauge = level + y.connections.countP (·.held) := hgauge
    rw [List.countP_append, hgauge']
    push_cast
    exact Int.add_assoc _ _ _

/-- A stream whose body is dropped at once is not kept. -/
theorem Tells.raise_dropped (h : Tells level y s) (stream : Subscription Json) :
    Tells level (y.raise stream false) s := by
  obtain ⟨streams, gauge, rfl⟩ := h.service_eq
  refine ⟨⟨streams, gauge, rfl⟩, fun j => ?_, h.gauge_eq.trans ?_⟩
  · refine (h.find?_eq j).trans ?_
    show _ = ((y.connections ++ [Connection.opened stream false])[j]?.filter _).map _
    rw [List.getElem?_append]
    by_cases hlt : j < y.connections.length
    · rw [if_pos hlt]
    · rw [if_neg hlt, List.getElem?_eq_none (Nat.le_of_not_lt hlt)]
      cases j - y.connections.length with
      | zero => rfl
      | succ n => rfl
  · show level + (y.connections.countP (·.held) : Nat) =
      level + ((y.connections ++ [Connection.opened stream false]).countP (·.held) : Nat)
    rw [List.countP_append]
    rfl

/-- A request is answered as the service answers it. -/
theorem Tells.request (h : Tells level y s) (hperiod : 0 < y.service.streamPeriodMs)
    (now : Time.Instant) (surface : Surface) (r : Request) :
    Tells level (y.request now surface r) (s.run (y.seen (.request now surface r))) := by
  show Tells level _ (settle (s.respond now surface r) (.idle (streamName y.connections.length)))
  rcases request_cases y hperiod now surface r with
    ⟨hother, hy⟩ | ⟨hasks, ⟨e, hscope⟩, hy⟩ | ⟨hasks, scope, hscope, hy⟩
  · obtain ⟨⟨text, htext⟩, -⟩ := respond_of_not_asksForStream hother s now
    rw [hy]
    unfold settle
    rw [htext]
    exact h.around (f := fun s => (s.respond now surface r).service)
      (respond_of_not_asksForStream hother y.service now).2
  · rw [hy, respond_of_asksForStream hasks, subscribe_of_error hscope]
    split
    · exact h
    · exact h
  · have hperiod' : 0 < s.streamPeriodMs := by
      obtain ⟨streams, gauge, rfl⟩ := h.service_eq
      exact hperiod
    have hstart : (Subscription.start scope s.streamPeriodMs hperiod' : Subscription Json) =
        .start scope y.service.streamPeriodMs hperiod := by
      obtain ⟨streams, gauge, rfl⟩ := h.service_eq
      rfl
    rw [hy, respond_of_asksForStream hasks, subscribe_of_ok hscope hperiod', hstart]
    by_cases hhead : r.method = "HEAD"
    · rw [if_pos hhead, hhead]
      have hback : (s.updateMetrics Metrics.openStream).closeStream = s := by
        show s.withStreams s.streams (s.gauge + 1 - 1) = s
        rw [Int.add_sub_cancel]
        rfl
      show Tells level _ (s.updateMetrics Metrics.openStream).closeStream
      rw [hback]
      exact h.raise_dropped _
    · rw [if_neg hhead, bne_iff_ne.mpr hhead]
      exact h.raise _

/-- **One move is what the service sees of it.** -/
theorem Tells.step (h : Tells level y s) (hsound : Sound level y)
    (hperiod : 0 < y.service.streamPeriodMs) (m : Move) :
    Tells level (y.step m) (s.run (y.seen m)) := by
  cases m with
  | request now surface r => exact h.request hperiod now surface r
  | effect e =>
    refine h.around (f := fun s => s.step (.effect e)) fun streams gauge => ?_
    cases e with
    | failed source fault => cases source <;> rfl
    | called | sampled | ended => rfl
  | sample x => exact h.around (f := fun s => s.step (.sample x)) fun _ _ => rfl
  | health c => exact h.around (f := fun s => s.step (.health c)) fun _ _ => rfl
  | wait ms => exact h.around (f := fun s => s.step (.wait ms)) fun _ _ => rfl
  | poll i => exact h.poll hsound i
  | read i => exact h.read i
  | leave i => exact h.leave i
  | close i => exact h.drop i Connection.held_close fun c hc => if_pos hc
  | cancel i => exact h.drop i Connection.held_cancel fun c hc => if_pos hc

/-- So does a run of moves come to a run of the service. -/
theorem Tells.run (h : Tells level y s) (hsound : Sound level y)
    (hperiod : 0 < y.service.streamPeriodMs) (ms : List Move) :
    Tells level (y.run ms) (s.run (y.seenAll ms)) := by
  induction ms generalizing y s with
  | nil => exact h
  | cons m ms ih =>
    show Tells level ((y.step m).run ms) (s.run (y.seen m ++ (y.step m).seenAll ms))
    rw [run_append]
    exact ih (h.step hsound hperiod m) (hsound.step hperiod m)
      ((streamPeriodMs_step hperiod m).symm ▸ hperiod)

theorem held_raise (y : Senders) (stream : Subscription Json) (held : Bool) :
    (y.raise stream held).held = y.held + if held then 1 else 0 := by
  show (y.connections ++ [Connection.opened stream held]).countP (·.held) = _
  rw [List.countP_append]
  cases held <;> rfl

end Senders

theorem status_of_asksForStream {surface : Surface} {r : Request} (h : AsksForStream surface r)
    (s : Service) (now : Time.Instant) :
    (s.respond now surface r).response.status = (s.subscribe r).response.status := by
  rw [respond_of_asksForStream h]
  split
  · unfold Outcome.withoutBody
    cases (s.subscribe r).response.body <;> rfl
  · rfl

/-! ### The count of open streams -/

/-- **Open streams are the responses that clients hold.** Take a service without streams, whose streams
have a period. After any actions there are as many streams as connections that are held, the level in
the metrics has risen by as many, and each connection that is held has its stream.

Nor does it matter that senders end by themselves. Let anything happen to connections and their
senders step by step. At any time both counts have risen by as much, and at least by the number of
responses held, whose senders go on and whose channels are open. A request for a stream that names no
history is refused and changes nothing; any other one is accepted and counted. All settles when every
sender goes on and every response that is dropped is dropped in full; and when it has settled, both
counts have risen by exactly the number of responses held, and what is kept and counted is what the
service keeps and counts that sees all this from the outside. -/
theorem open_streams_are_held (s : Service) (hperiod : 0 < s.streamPeriodMs) (hnone : s.streams = []) :
    (∀ as : List Action,
      let t := s.run as
      t.activeStreams = (s.held as).length ∧ t.gauge = s.gauge + (s.held as).length ∧
        ∀ name ∈ s.held as, ∃ stream, Keyed.find? name t.streams = some stream) ∧
    ∀ ms : List Move,
      let y := (Senders.start s).run ms
      let t := s.run ((Senders.start s).seenAll ms)
      (y.service.gauge = s.gauge + y.active ∧ y.held ≤ y.active ∧
        ∀ c ∈ y.connections, c.held → c.live ∧ c.closed = false ∧ c.cancelled = false) ∧
      (∀ now surface r, AsksForStream surface r →
        (∀ e, requestedScope r = .error e →
          (y.service.respond now surface r).response.status = 400 ∧
            y.step (.request now surface r) = y) ∧
        ∀ scope, requestedScope r = .ok scope →
          (y.service.respond now surface r).response.status = 200 ∧
            (y.step (.request now surface r)).active = y.active + 1 ∧
            (y.step (.request now surface r)).held =
              y.held + if r.method != "HEAD" then 1 else 0) ∧
      (∃ own : List Move, (∀ m ∈ own, m.IsOwn) ∧ (y.run own).Settled) ∧
      (y.Settled → y.active = y.held ∧ t.activeStreams = y.held ∧ t.store = y.service.store) := by
  have hcounts : Counts s.gauge [] s :=
    ⟨hnone ▸ List.Pairwise.nil, hnone ▸ List.Perm.nil, (Int.add_zero _).symm⟩
  have hrun (as : List Action) : Counts s.gauge (s.held as) (s.run as) := hcounts.run hperiod as
  constructor
  · intro as
    refine ⟨(hrun as).activeStreams_eq, (hrun as).gauge_eq, fun name hname => ?_⟩
    exact Keyed.find?_of_mem_names ((hrun as).names_perm.mem_iff.mpr hname)
  · intro ms y t
    have hsound : Senders.Sound s.gauge y := (Senders.sound_start s).run hperiod ms
    have htells : Senders.Tells s.gauge y t :=
      (Senders.tells_start hnone).run (Senders.sound_start s) hperiod ms
    have hactive : y.active = y.live := hsound.active_eq
    have hperiod' : 0 < y.service.streamPeriodMs := Senders.streamPeriodMs_run hperiod ms
    refine ⟨⟨hsound.gauge_eq, ?_, fun c hc hheld => ?_⟩, fun now surface r hasks => ⟨?_, ?_⟩,
      Senders.exists_settled y, fun hsettled => ?_⟩
    · rw [hactive]
      exact Int.ofNat_le.mpr hsound.held_le_live
    · have hconnection := hsound.each c hc
      exact ⟨hconnection.live_of_held hheld, hconnection.not_closed_of_held hheld,
        hconnection.not_cancelled_of_held hheld⟩
    · intro e hscope
      refine ⟨?_, Senders.request_of_error y now hasks hscope⟩
      rw [status_of_asksForStream hasks, subscribe_of_error hscope]
      exact e.status_response
    · intro scope hscope
      have hstep : y.step (.request now surface r) = _ :=
        Senders.request_of_ok hperiod' now hasks hscope
      rw [hstep]
      refine ⟨?_, rfl, Senders.held_raise y _ _⟩
      rw [status_of_asksForStream hasks, subscribe_of_ok hscope hperiod']
      rfl
    · have hheld : y.active = y.held := hactive.trans (congrArg _ (hsound.live_eq_held hsettled))
      have hgauge : t.gauge = y.service.gauge := by
        rw [htells.gauge_eq, hsound.gauge_eq, hheld]
      refine ⟨hheld, ?_, ?_⟩
      · have hstreams : (t.activeStreams : Int) = t.gauge - s.gauge := by
          rw [(hrun _).activeStreams_eq, (hrun _).gauge_eq]
          omega
        have hlevel := htells.gauge_eq
        omega
      · obtain ⟨streams, gauge, ht⟩ := htells.service_eq
        rw [ht] at hgauge ⊢
        show y.service.store.relevel gauge _ = _
        rw [show gauge = y.service.gauge from hgauge]
        rfl

/-- Two clients open streams, and one of them drops its response while its sender has a frame in its
hand. -/
def droppedMoves : List Move :=
  [.sample blankSample, .request ⟨0, 0⟩ .query statsStream, .request ⟨0, 0⟩ .query statsStream,
    .poll 0, .leave 0, .cancel 0, .close 0]

/-- The senders go on. -/
def settlingMoves : List Move := [.poll 0, .poll 1, .poll 1]

/-- Both streams are counted until the sender has ended, and one of them from then on. -/
theorem open_streams_are_held_dropped :
    let s := start "node" (.empty 1) 1000
    let y := (Senders.start s).run (droppedMoves ++ settlingMoves)
    0 < s.streamPeriodMs ∧ s.streams = [] ∧ ((Senders.start s).run droppedMoves).active = 2 ∧
      y.Settled ∧ y.active = 1 ∧
      (s.run ((Senders.start s).seenAll (droppedMoves ++ settlingMoves))).activeStreams = 1 := by
  intro s y
  have hsettled : y.Settled := by decide +kernel
  have hone : y.held = 1 := by decide +kernel
  obtain ⟨-, hsenders⟩ := open_streams_are_held s (by decide) rfl
  obtain ⟨-, -, -, hend⟩ := hsenders (droppedMoves ++ settlingMoves)
  obtain ⟨hactive, hstreams, -⟩ := hend hsettled
  exact ⟨by decide, rfl, by decide +kernel, hsettled, hactive.trans (congrArg _ hone),
    hstreams.trans hone⟩

/-- Without a period a stream is accepted and held, but its sender fails before its first tick: the
body has ended and nothing is counted. -/
theorem not_counted_without_period :
    let s := start "node" (.empty 1) 0
    let as := [Action.request ⟨0, 0⟩ .query statsStream (.kept "c")]
    (s.respond ⟨0, 0⟩ .query statsStream).response.status = 200 ∧
      (s.respond ⟨0, 0⟩ .query statsStream).response.body = .text "" ∧ s.held as = ["c"] ∧
      (s.run as).activeStreams ≠ (s.held as).length ∧
      (s.run as).gauge ≠ s.gauge + (s.held as).length := by
  intro s as
  have hheld : s.held as = ["c"] := by decide
  rw [hheld]
  exact ⟨rfl, rfl, rfl, by decide, by decide⟩

end NodeTelemetry.Service
