import NodeTelemetry.Proofs.Keyed
import NodeTelemetry.Proofs.Service.Trace

/-!
# What the client of a stream receives

A connection is opened by a request for a stream and stays until its client leaves. In the meantime
entries are given to the two histories, time passes, the sender takes ticks and the client takes
frames, in any order (`Service.Action`).

The frames that the client has taken and those that wait for it are exactly what the ticks of the
sender have found, in their order. One step keeps this so (`follows_step`), and with it every run
(`delivers_run`) of a connection from its opening on. Once the client has left, nothing comes of a
connection any more (`gone_run`).
-/

namespace NodeTelemetry.Service

/-! ### Connections -/

/-- A request changes no more than what is kept, until its subscription is settled. -/
theorem service_respond (s : Service) (now : Time.Instant) (surface : Surface) (r : Request) :
    ∃ store, (s.respond now surface r).service = { s with store := store } := by
  by_cases hpost : IsPost surface r
  · rw [respond_of_isPost hpost]
    rcases post_cases s now r.body with ⟨-, -, hs⟩ | ⟨-, e, -, -, hs⟩ | ⟨-, e, -, -, hs⟩
    · exact ⟨s.store, hs⟩
    · exact ⟨_, hs⟩
    · exact ⟨_, hs⟩
  · obtain ⟨⟨streams, events, hs⟩, -⟩ := onlyLevels_respond hpost s now
    exact ⟨_, hs⟩

theorem find?_disconnect_self (s : Service) (name : String) :
    Keyed.find? name (s.disconnect name).1.streams = none := by
  unfold disconnect
  cases h : Keyed.find? name s.streams with
  | none => exact h
  | some stream => exact Keyed.find?_erase_self name s.streams

theorem find?_disconnect_of_ne {name other : String} (h : other ≠ name) (s : Service) :
    Keyed.find? name (s.disconnect other).1.streams = Keyed.find? name s.streams := by
  unfold disconnect
  cases Keyed.find? other s.streams with
  | none => rfl
  | some stream => exact Keyed.find?_erase_of_ne (Ne.symm h) s.streams

theorem find?_attach_of_ne {name other : String} (h : other ≠ name) (s : Service)
    (stream : Subscription Json) :
    Keyed.find? name (s.attach other stream).streams = Keyed.find? name s.streams :=
  (Keyed.find?_insert_of_ne (Ne.symm h) _ _).trans (find?_disconnect_of_ne h s)

theorem find?_connect_of_ne {name other : String} (h : other ≠ name) (s : Service)
    (stream : Subscription Json) :
    Keyed.find? name (s.connect other stream).1.streams = Keyed.find? name s.streams :=
  (Keyed.find?_insert_of_ne (Ne.symm h) _ _).trans (find?_disconnect_of_ne h s)

theorem find?_settle_of_ne {name : String} {opening : Opening} (h : opening.name? ≠ some name)
    (o : Outcome) :
    Keyed.find? name (settle o opening).streams = Keyed.find? name o.service.streams := by
  unfold settle
  cases o.response.body with
  | text _ => rfl
  | frames stream =>
    cases opening with
    | left => rfl
    | kept other => exact find?_connect_of_ne (fun he => h (congrArg some he)) _ _
    | idle other => exact find?_attach_of_ne (fun he => h (congrArg some he)) _ _

/-- What a connection is after a step, beside what its client has taken in the step: the frames that
waited and one for each tick. -/
def Follows (s : Service) (name : String) (a : Action) (stream stream' : Subscription Json) : Prop :=
  Keyed.find? name (s.step a).streams = some stream' ∧ stream'.scope = stream.scope ∧
    s.output name a ++ stream'.waiting.map frameText =
      (stream.waiting ++
        Subscription.sent (s.ticks name a) (s.store.newest? stream.scope)).map frameText

theorem follows_self {s : Service} {name : String} {a : Action} {stream : Subscription Json}
    (h : Keyed.find? name (s.step a).streams = some stream) (houtput : s.output name a = [])
    (hticks : s.ticks name a = []) : Follows s name a stream stream := by
  refine ⟨h, rfl, ?_⟩
  rw [houtput, hticks]
  exact congrArg (List.map frameText) (List.append_nil _).symm

theorem ticksOf_eq {s : Service} {name : String} {stream : Subscription Json}
    (h : Keyed.find? name s.streams = some stream)
    (f : Subscription Json → Option Json → List Nat) :
    s.ticksOf name f = f stream (s.store.newest? stream.scope) := by
  unfold ticksOf
  rw [h]

theorem follows_advance {s : Service} {name : String} {stream : Subscription Json}
    (h : Keyed.find? name s.streams = some stream) (ms : Nat) :
    Follows s name (.advance ms) stream
      (stream.run s.nowMs (s.nowMs + ms) (s.store.newest? stream.scope)) := by
  refine ⟨?_, Subscription.scope_run _ _ _ _, ?_⟩
  · refine (Keyed.find?_map (fun _ stream =>
      stream.run s.nowMs (s.nowMs + ms) (s.store.newest? stream.scope)) name s.streams).trans ?_
    rw [h]
    rfl
  · rw [Subscription.waiting_run]
    show _ = (_ ++ Subscription.sent (s.ticksOf name _) _).map frameText
    rw [ticksOf_eq h]
    rfl

theorem receive_eq {s : Service} {name : String} {stream : Subscription Json}
    (h : Keyed.find? name s.streams = some stream) (limit : Nat) :
    s.receive name limit =
      ((stream.receive s.nowMs (s.store.newest? stream.scope) limit).1.map frameText,
        { s with
          streams := Keyed.insert name
            (stream.receive s.nowMs (s.store.newest? stream.scope) limit).2 s.streams }) := by
  unfold receive
  rw [h]

theorem follows_receive {s : Service} {name : String} {stream : Subscription Json}
    (h : Keyed.find? name s.streams = some stream) (limit : Nat) :
    Follows s name (.receive name limit) stream
      (stream.receive s.nowMs (s.store.newest? stream.scope) limit).2 := by
  have houtput : s.output name (.receive name limit) = (s.receive name limit).1 := if_pos rfl
  have hticks : s.ticks name (.receive name limit) =
      stream.receiveTicks s.nowMs (s.store.newest? stream.scope) limit :=
    (if_pos rfl).trans (ticksOf_eq h _)
  refine ⟨?_, Subscription.scope_receive _ _ _ _, ?_⟩
  · show Keyed.find? name (s.receive name limit).2.streams = _
    rw [receive_eq h]
    exact Keyed.find?_insert_self name _ _
  · rw [houtput, hticks, receive_eq h, ← List.map_append, Subscription.waiting_receive]

theorem pump_eq {s : Service} {name : String} {stream : Subscription Json}
    (h : Keyed.find? name s.streams = some stream) :
    s.pump name =
      { s with
        streams := Keyed.insert name (stream.pump s.nowMs (s.store.newest? stream.scope))
          s.streams } := by
  unfold pump
  rw [h]

theorem follows_pump {s : Service} {name : String} {stream : Subscription Json}
    (h : Keyed.find? name s.streams = some stream) :
    Follows s name (.pump name) stream (stream.pump s.nowMs (s.store.newest? stream.scope)) := by
  have hticks : s.ticks name (.pump name) = stream.pumpTicks s.nowMs :=
    (if_pos rfl).trans (ticksOf_eq h _)
  refine ⟨?_, Subscription.scope_pump _ _ _, ?_⟩
  · show Keyed.find? name (s.pump name).streams = _
    rw [pump_eq h]
    exact Keyed.find?_insert_self name _ _
  · rw [hticks, Subscription.waiting_pump]
    rfl

theorem take_eq {s : Service} {name : String} {stream : Subscription Json}
    (h : Keyed.find? name s.streams = some stream) :
    s.take name =
      (stream.pass.1.map frameText,
        { s with streams := Keyed.insert name stream.pass.2 s.streams }) := by
  unfold take
  rw [h]

theorem follows_take {s : Service} {name : String} {stream : Subscription Json}
    (h : Keyed.find? name s.streams = some stream) :
    Follows s name (.take name) stream stream.pass.2 := by
  have houtput : s.output name (.take name) = (s.take name).1 := if_pos rfl
  refine ⟨?_, rfl, ?_⟩
  · show Keyed.find? name (s.take name).2.streams = _
    rw [take_eq h]
    exact Keyed.find?_insert_self name _ _
  · rw [houtput, take_eq h, ← List.map_append, Subscription.waiting_pass]
    exact congrArg (List.map frameText) (List.append_nil _).symm

/-- What happens under another name does not touch a connection. -/
theorem find?_step_of_other {s : Service} {name other : String} (h : other ≠ name) (limit : Nat) :
    Keyed.find? name (s.receive other limit).2.streams = Keyed.find? name s.streams ∧
      Keyed.find? name (s.pump other).streams = Keyed.find? name s.streams ∧
      Keyed.find? name (s.take other).2.streams = Keyed.find? name s.streams := by
  cases hother : Keyed.find? other s.streams with
  | none =>
    unfold receive pump take
    simp only [hother, and_self]
  | some stream =>
    rw [receive_eq hother, pump_eq hother, take_eq hother]
    exact ⟨Keyed.find?_insert_of_ne (Ne.symm h) _ _, Keyed.find?_insert_of_ne (Ne.symm h) _ _,
      Keyed.find?_insert_of_ne (Ne.symm h) _ _⟩

theorem ticks_kept_of_text {s : Service} {now : Time.Instant} {surface : Surface} {r : Request}
    {text : String} (h : (s.respond now surface r).response.body = .text text)
    (name other : String) : s.ticks name (.request now surface r (.kept other)) = [] := by
  unfold ticks
  dsimp only
  rw [h]

theorem ticks_kept_of_frames {s : Service} {now : Time.Instant} {surface : Surface} {r : Request}
    {stream : Subscription Json} (h : (s.respond now surface r).response.body = .frames stream)
    (name other : String) :
    s.ticks name (.request now surface r (.kept other)) =
      if other = name then stream.ticks s.nowMs s.nowMs (s.store.newest? stream.scope) else [] := by
  unfold ticks
  dsimp only
  rw [h]

/-- A request that opens another connection, or none, does not touch a connection. -/
theorem request_of_not_opens (s : Service) {name : String} {now : Time.Instant} {surface : Surface}
    {r : Request} {opening : Opening}
    (h : ¬(Action.request now surface r opening).Opens name) :
    Keyed.find? name (s.step (.request now surface r opening)).streams =
        Keyed.find? name s.streams ∧
      s.ticks name (.request now surface r opening) = [] := by
  obtain ⟨store, hservice⟩ := service_respond s now surface r
  constructor
  · show Keyed.find? name (settle _ opening).streams = _
    rw [find?_settle_of_ne h, hservice]
  · cases opening with
    | left => rfl
    | idle other => rfl
    | kept other =>
      have hother : other ≠ name := fun he => h (congrArg some he)
      cases hbody : (s.respond now surface r).response.body with
      | text _ => exact ticks_kept_of_text hbody name other
      | frames stream => exact (ticks_kept_of_frames hbody name other).trans (if_neg hother)

/-- **What an action can do with a connection** whose client stays: nothing at all, or one of the
four steps of its client and its sender. -/
theorem step_cases (s : Service) {name : String} {a : Action} (hopen : ¬a.Opens name)
    (hstay : a ≠ .disconnect name) :
    (Keyed.find? name (s.step a).streams = Keyed.find? name s.streams ∧ s.output name a = [] ∧
      s.ticks name a = []) ∨
    (∃ ms, a = .advance ms) ∨ (∃ limit, a = .receive name limit) ∨ a = .pump name ∨
      a = .take name := by
  cases a with
  | request now surface r opening =>
    obtain ⟨hfind, hticks⟩ := request_of_not_opens s hopen
    exact .inl ⟨hfind, rfl, hticks⟩
  | advance ms => exact .inr (.inl ⟨ms, rfl⟩)
  | receive other limit =>
    by_cases hother : other = name
    · exact .inr (.inr (.inl ⟨limit, by rw [hother]⟩))
    · exact .inl ⟨(find?_step_of_other hother limit).1, if_neg hother, if_neg hother⟩
  | disconnect other =>
    have hother : other ≠ name := fun he => hstay (he ▸ rfl)
    exact .inl ⟨find?_disconnect_of_ne hother s, rfl, rfl⟩
  | pump other =>
    by_cases hother : other = name
    · exact .inr (.inr (.inr (.inl (by rw [hother]))))
    · exact .inl ⟨(find?_step_of_other hother 0).2.1, rfl, if_neg hother⟩
  | take other =>
    by_cases hother : other = name
    · exact .inr (.inr (.inr (.inr (by rw [hother]))))
    · exact .inl ⟨(find?_step_of_other hother 0).2.2, if_neg hother, rfl⟩
  | effect | sample | health | wait => exact .inl ⟨rfl, rfl, rfl⟩

/-- A connection whose client stays is followed by one with the same frames, and one more for each
tick. -/
theorem follows_step {s : Service} {name : String} {a : Action} {stream : Subscription Json}
    (h : Keyed.find? name s.streams = some stream) (hopen : ¬a.Opens name)
    (hstay : a ≠ .disconnect name) : ∃ stream', Follows s name a stream stream' := by
  rcases step_cases s hopen hstay with
    ⟨hfind, houtput, hticks⟩ | ⟨ms, rfl⟩ | ⟨limit, rfl⟩ | rfl | rfl
  · exact ⟨stream, follows_self (hfind.trans h) houtput hticks⟩
  · exact ⟨_, follows_advance h ms⟩
  · exact ⟨_, follows_receive h limit⟩
  · exact ⟨_, follows_pump h⟩
  · exact ⟨_, follows_take h⟩

theorem ticksOf_eq_nil {s : Service} {name : String} (h : Keyed.find? name s.streams = none)
    (f : Subscription Json → Option Json → List Nat) : s.ticksOf name f = [] := by
  unfold ticksOf
  rw [h]

/-- Where there is no connection, nothing comes of a step. -/
theorem gone_step {s : Service} {name : String} {a : Action}
    (h : Keyed.find? name s.streams = none) (hopen : ¬a.Opens name) :
    Keyed.find? name (s.step a).streams = none ∧ s.output name a = [] ∧ s.ticks name a = [] := by
  have hticks : ∀ (other : String) (f : Subscription Json → Option Json → List Nat),
      (if other = name then s.ticksOf name f else []) = [] := by
    intro other f
    rw [ticksOf_eq_nil h, ite_self]
  cases a with
  | request now surface r opening =>
    obtain ⟨hfind, hticks⟩ := request_of_not_opens s hopen
    exact ⟨hfind.trans h, rfl, hticks⟩
  | advance ms =>
    refine ⟨?_, rfl, ticksOf_eq_nil h _⟩
    refine (Keyed.find?_map (fun _ stream =>
      stream.run s.nowMs (s.nowMs + ms) (s.store.newest? stream.scope)) name s.streams).trans ?_
    rw [h]
    rfl
  | receive other limit =>
    by_cases hother : other = name
    · obtain rfl := hother
      have hreceive : s.receive other limit = ([], s) := by
        unfold receive
        rw [h]
      refine ⟨?_, ?_, hticks other _⟩
      · show Keyed.find? other (s.receive other limit).2.streams = none
        rw [hreceive, h]
      · show (if other = other then (s.receive other limit).1 else []) = []
        rw [hreceive, ite_self]
    · exact ⟨(find?_step_of_other hother limit).1.trans h, if_neg hother, if_neg hother⟩
  | disconnect other =>
    by_cases hother : other = name
    · obtain rfl := hother
      exact ⟨find?_disconnect_self s other, rfl, rfl⟩
    · exact ⟨(find?_disconnect_of_ne hother s).trans h, rfl, rfl⟩
  | pump other =>
    by_cases hother : other = name
    · obtain rfl := hother
      refine ⟨?_, rfl, hticks other _⟩
      show Keyed.find? other (s.pump other).streams = none
      unfold pump
      rw [h, h]
    · exact ⟨(find?_step_of_other hother 0).2.1.trans h, rfl, if_neg hother⟩
  | take other =>
    by_cases hother : other = name
    · obtain rfl := hother
      have htake : s.take other = ([], s) := by
        unfold take
        rw [h]
      refine ⟨?_, ?_, rfl⟩
      · show Keyed.find? other (s.take other).2.streams = none
        rw [htake, h]
      · show (if other = other then (s.take other).1 else []) = []
        rw [htake, ite_self]
    · exact ⟨(find?_step_of_other hother 0).2.2.trans h, if_neg hother, rfl⟩
  | effect | sample | health | wait => exact ⟨h, rfl, rfl⟩

/-! ### Runs -/

theorem outputs_append (s : Service) (name : String) (as bs : List Action) :
    s.outputs name (as ++ bs) = s.outputs name as ++ (s.run as).outputs name bs := by
  induction as generalizing s with
  | nil => rfl
  | cons a as ih => rw [List.cons_append, outputs, outputs, ih, run_cons, List.append_assoc]

theorem trace_append (s : Service) (name : String) (scope : Scope) (as bs : List Action) :
    s.trace name scope (as ++ bs) = s.trace name scope as ++ (s.run as).trace name scope bs := by
  induction as generalizing s with
  | nil => rfl
  | cons a as ih => simp only [List.cons_append, trace, ih, run_cons, List.append_assoc]

theorem captures_trace_cons (s : Service) (name : String) (scope : Scope) (log : List Json)
    (a : Action) (as : List Action) :
    (captures log (s.trace name scope (a :: as))).map Capture.entry =
      Subscription.sent (s.ticks name a) log.getLast? ++
        (captures (log ++ logOf scope [a]) ((s.step a).trace name scope as)).map Capture.entry := by
  rw [trace, captures_append, captures_append, captures_kept, keptIn_append, keptIn_kept,
    keptIn_ticked, List.append_nil, List.nil_append, List.map_append, entries_captures_ticked]

theorem keptIn_trace (s : Service) (name : String) (scope : Scope) (as : List Action) :
    keptIn (s.trace name scope as) = logOf scope as := by
  induction as generalizing s with
  | nil => cases scope <;> rfl
  | cons a as ih =>
    rw [trace, keptIn_append, keptIn_append, keptIn_ticked, keptIn_kept, ih, List.nil_append,
      ← logOf_append]
    rfl

/-- Where there is no connection, its history may go on, but no tick is taken and no frame. -/
theorem gone_run {s : Service} {name : String} (h : Keyed.find? name s.streams = none)
    (scope : Scope) {as : List Action} (hopen : ∀ a ∈ as, ¬a.Opens name) :
    s.outputs name as = [] ∧ s.trace name scope as = (logOf scope as).map .kept := by
  induction as generalizing s with
  | nil => exact ⟨rfl, by cases scope <;> rfl⟩
  | cons a as ih =>
    obtain ⟨hopena, hopenas⟩ := List.forall_mem_cons.mp hopen
    obtain ⟨hnext, houtput, hticks⟩ := gone_step h hopena
    obtain ⟨houtputs, htrace⟩ := ih hnext hopenas
    constructor
    · rw [outputs, houtput, houtputs, List.append_nil]
    · rw [trace, hticks, htrace, List.map_nil, List.nil_append, ← List.map_append, ← logOf_append]
      rfl

/-- The frames that a client takes in some actions and those that wait for it afterwards are those
that waited before and what the ticks find. -/
def Delivers (s : Service) (name : String) (log : List Json) (as : List Action)
    (stream stream' : Subscription Json) : Prop :=
  Keyed.find? name (s.run as).streams = some stream' ∧ stream'.scope = stream.scope ∧
    s.outputs name as ++ stream'.waiting.map frameText =
      (stream.waiting ++
        (captures log (s.trace name stream.scope as)).map Capture.entry).map frameText

theorem Delivers.cons {s : Service} {name : String} {log : List Json} {a : Action}
    {as : List Action} {stream next stream' : Subscription Json}
    (hlog : s.store.newest? stream.scope = log.getLast?) (h : Follows s name a stream next)
    (hnext : Delivers (s.step a) name (log ++ logOf stream.scope [a]) as next stream') :
    Delivers s name log (a :: as) stream stream' := by
  obtain ⟨-, hscope, hframes⟩ := h
  obtain ⟨hfind, hscope', hframes'⟩ := hnext
  refine ⟨hfind, hscope'.trans hscope, ?_⟩
  rw [hscope] at hframes'
  rw [captures_trace_cons, ← hlog, ← List.append_assoc, List.map_append, ← hframes, outputs,
    List.append_assoc, hframes', List.map_append, List.append_assoc]

section Collector

variable {node : String} {capacity periodMs : Nat} {name : String}

/-- While the client of a connection stays, all that the ticks find is delivered. -/
theorem delivers_run {before : List Action} {stream : Subscription Json} {after : List Action}
    (h : Keyed.find? name (collectorAfter node capacity periodMs before).streams = some stream)
    (hopen : ∀ a ∈ after, ¬a.Opens name) (hstay : .disconnect name ∉ after) :
    ∃ stream', Delivers (collectorAfter node capacity periodMs before) name
      (logOf stream.scope before) after stream stream' := by
  induction after generalizing before stream with
  | nil => exact ⟨stream, h, rfl, congrArg (List.map frameText) (List.append_nil _).symm⟩
  | cons a as ih =>
    obtain ⟨hopena, hopenas⟩ := List.forall_mem_cons.mp hopen
    obtain ⟨hstaya, hstayas⟩ := not_or.mp (mt List.mem_cons.mpr hstay)
    obtain ⟨next, hnext⟩ := follows_step h hopena (Ne.symm hstaya)
    have hrun := collectorAfter_step node capacity periodMs before a
    obtain ⟨stream', hstream'⟩ := ih (hrun ▸ hnext.1) hopenas hstayas
    rw [← hrun, hnext.2.1, logOf_append] at hstream'
    exact ⟨stream', .cons (newest?_collectorAfter node capacity periodMs before _) hnext hstream'⟩

end Collector

/-! ### Opening a connection -/

/-- How long an action lasts. -/
def Action.lapse : Action → Nat
  | .advance ms | .wait ms => ms
  | _ => 0

theorem service_disconnect (s : Service) (name : String) :
    ∃ store streams, (s.disconnect name).1 = { s with store := store, streams := streams } := by
  unfold disconnect
  cases Keyed.find? name s.streams with
  | none => exact ⟨s.store, s.streams, rfl⟩
  | some stream => exact ⟨_, _, rfl⟩

theorem service_settle (o : Outcome) (opening : Opening) :
    ∃ store streams,
      settle o opening = { o.service with store := store, streams := streams } := by
  unfold settle
  cases o.response.body with
  | text _ => exact ⟨o.service.store, o.service.streams, rfl⟩
  | frames stream =>
    cases opening with
    | left => exact ⟨_, o.service.streams, rfl⟩
    | kept name | idle name =>
      obtain ⟨store, streams, hdisconnect⟩ := service_disconnect o.service name
      simp only [connect, attach, hdisconnect]
      exact ⟨store, _, rfl⟩

/-- **What stays in a step**: the node, the period of new subscriptions, and the time but for what
the action lasts. -/
theorem service_step (s : Service) (a : Action) :
    ∃ store streams, s.step a = ⟨s.node, store, s.streamPeriodMs, streams, s.nowMs + a.lapse⟩ := by
  cases a with
  | request now surface r opening =>
    obtain ⟨store, hservice⟩ := service_respond s now surface r
    obtain ⟨store', streams, hsettle⟩ := service_settle (s.respond now surface r) opening
    exact ⟨store', streams, hsettle.trans (by rw [hservice]; rfl)⟩
  | receive name limit =>
    show ∃ store streams, (s.receive name limit).2 = _
    unfold receive
    cases Keyed.find? name s.streams with
    | none => exact ⟨s.store, s.streams, rfl⟩
    | some stream => exact ⟨s.store, _, rfl⟩
  | disconnect name => exact service_disconnect s name
  | pump name =>
    show ∃ store streams, s.pump name = _
    unfold pump
    cases Keyed.find? name s.streams with
    | none => exact ⟨s.store, s.streams, rfl⟩
    | some stream => exact ⟨s.store, _, rfl⟩
  | take name =>
    show ∃ store streams, (s.take name).2 = _
    unfold take
    cases Keyed.find? name s.streams with
    | none => exact ⟨s.store, s.streams, rfl⟩
    | some stream => exact ⟨s.store, _, rfl⟩
  | effect | sample | health | advance | wait => exact ⟨_, _, rfl⟩

/-- The period of new subscriptions stays. -/
theorem streamPeriodMs_step (s : Service) (a : Action) :
    (s.step a).streamPeriodMs = s.streamPeriodMs := by
  obtain ⟨store, streams, hstep⟩ := service_step s a
  rw [hstep]

/-- Time goes on by what an action lasts. -/
theorem nowMs_step (s : Service) (a : Action) : (s.step a).nowMs = s.nowMs + a.lapse := by
  obtain ⟨store, streams, hstep⟩ := service_step s a
  rw [hstep]

theorem streamPeriodMs_collectorAfter (node : String) (capacity periodMs : Nat)
    (as : List Action) : (collectorAfter node capacity periodMs as).streamPeriodMs = periodMs := by
  have hrun : ∀ s : Service, (s.run as).streamPeriodMs = s.streamPeriodMs := by
    induction as with
    | nil => exact fun _ => rfl
    | cons a as ih => exact fun s => (ih (s.step a)).trans (streamPeriodMs_step s a)
  exact hrun _

/-- A request that subscribes to a history. -/
def Subscribes (r : Request) (scope : Scope) : Prop :=
  r.method = "GET" ∧ r.path = "/stream" ∧ requestedScope r = .ok scope

/-- Such a request is accepted. -/
theorem respond_of_subscribes {s : Service} (hperiod : 0 < s.streamPeriodMs) (now : Time.Instant)
    {r : Request} {scope : Scope} (h : Subscribes r scope) :
    s.respond now .query r =
      ⟨s.updateMetrics Metrics.openStream,
        .stream (.frames (.start scope s.streamPeriodMs hperiod)), []⟩ := by
  obtain ⟨hmethod, hpath, hscope⟩ := h
  rw [respond_get hmethod (congrArg (endpoint? .query) hpath) (by decide)]
  show s.subscribe r = _
  unfold subscribe
  rw [hscope]
  exact dif_pos hperiod

/-- A connection that is opened has taken its first tick, whoever left for it. -/
theorem find?_connect (s : Service) (name : String) (stream : Subscription Json) :
    Keyed.find? name (s.connect name stream).1.streams =
      some (stream.run s.nowMs s.nowMs (s.store.newest? stream.scope)) := by
  have hdisconnect : (s.disconnect name).1.nowMs = s.nowMs ∧
      (s.disconnect name).1.store.newest? stream.scope = s.store.newest? stream.scope := by
    unfold disconnect
    cases Keyed.find? name s.streams with
    | none => exact ⟨rfl, rfl⟩
    | some _ => exact ⟨rfl, by cases stream.scope <;> rfl⟩
  refine (Keyed.find?_insert_self name _ _).trans ?_
  show some (stream.run (s.disconnect name).1.nowMs (s.disconnect name).1.nowMs
    ((s.disconnect name).1.store.newest? stream.scope)) = _
  rw [hdisconnect.1, hdisconnect.2]

theorem ticks_opening {s : Service} (hperiod : 0 < s.streamPeriodMs) (now : Time.Instant)
    {r : Request} {scope : Scope} (h : Subscribes r scope) (name : String) :
    s.ticks name (.request now .query r (.kept name)) = [s.nowMs] := by
  have hbody : (s.respond now .query r).response.body =
      .frames (.start scope s.streamPeriodMs hperiod) := by
    rw [respond_of_subscribes hperiod now h]
    rfl
  rw [ticks_kept_of_frames hbody, if_pos rfl]
  exact Subscription.ticks_start _ _ _ hperiod _

theorem follows_kept {s : Service} (hperiod : 0 < s.streamPeriodMs) (now : Time.Instant)
    {r : Request} {scope : Scope} (h : Subscribes r scope) (name : String) :
    Follows s name (.request now .query r (.kept name))
      (.start scope s.streamPeriodMs hperiod)
      ((Subscription.start scope s.streamPeriodMs hperiod).run s.nowMs s.nowMs
        (s.store.newest? scope)) := by
  refine ⟨?_, Subscription.scope_run _ _ _ _, ?_⟩
  · show Keyed.find? name (settle (s.respond now .query r) (.kept name)).streams = _
    rw [respond_of_subscribes hperiod now h]
    refine (find?_connect _ name _).trans ?_
    cases scope with
    | stats => rfl
    | events => rfl
  · rw [ticks_opening hperiod now h, Subscription.waiting_run, Subscription.ticks_start]
    rfl

theorem follows_idle {s : Service} (hperiod : 0 < s.streamPeriodMs) (now : Time.Instant)
    {r : Request} {scope : Scope} (h : Subscribes r scope) (name : String) :
    Follows s name (.request now .query r (.idle name))
      (.start scope s.streamPeriodMs hperiod) (.start scope s.streamPeriodMs hperiod) := by
  refine follows_self ?_ rfl rfl
  show Keyed.find? name (settle (s.respond now .query r) (.idle name)).streams = _
  rw [respond_of_subscribes hperiod now h]
  exact Keyed.find?_insert_self name _ _

/-- A connection that is opened begins with no frames. -/
theorem follows_opening {s : Service} (hperiod : 0 < s.streamPeriodMs) (now : Time.Instant)
    {r : Request} {scope : Scope} (h : Subscribes r scope) {name : String} {opening : Opening}
    (hopening : opening.name? = some name) :
    ∃ stream, Follows s name (.request now .query r opening)
      (.start scope s.streamPeriodMs hperiod) stream := by
  cases opening with
  | left => cases hopening
  | kept other =>
    obtain rfl := Option.some.inj hopening
    exact ⟨_, follows_kept hperiod now h other⟩
  | idle other =>
    obtain rfl := Option.some.inj hopening
    exact ⟨_, follows_idle hperiod now h other⟩

/-- A client that takes the first frame at once has received the newest entry and has no frame left. -/
theorem outputs_take_first {s : Service} (hperiod : 0 < s.streamPeriodMs) (now : Time.Instant)
    {r : Request} {scope : Scope} (h : Subscribes r scope) (name : String) :
    s.outputs name [.request now .query r (.kept name), .take name] =
        (s.store.newest? scope).toList.map frameText ∧
      ∃ stream, Keyed.find? name
          (s.run [.request now .query r (.kept name), .take name]).streams = some stream ∧
        stream.waiting = [] := by
  obtain ⟨first, hfirst, hwaiting⟩ : ∃ first,
      Keyed.find? name (s.step (.request now .query r (.kept name))).streams = some first ∧
        first.waiting = (s.store.newest? scope).toList := by
    refine ⟨_, (follows_kept hperiod now h name).1, ?_⟩
    rw [Subscription.waiting_run, Subscription.ticks_start]
    exact List.append_nil _
  obtain ⟨hfind, -, hframes⟩ := follows_take hfirst
  have hnone : first.pass.2.waiting = [] := by
    show first.waiting.drop 1 = []
    rw [hwaiting]
    cases s.store.newest? scope <;> rfl
  refine ⟨?_, _, hfind, hnone⟩
  rw [hnone, List.map_nil, List.append_nil, hwaiting] at hframes
  show [] ++ ((s.step _).output name (.take name) ++ []) = _
  rw [List.nil_append, List.append_nil, hframes]
  exact congrArg (List.map frameText) (List.append_nil _)

/-! ### The stream of a connection -/

/-- From its opening on, all that the ticks of a connection find is delivered while its client
stays. -/
theorem delivers_opened (node : String) (capacity : Nat) {periodMs : Nat} (before : List Action)
    (now : Time.Instant) {r : Request} {scope : Scope} {name : String} {opening : Opening}
    {after : List Action} (hperiod : 0 < periodMs) (hr : Subscribes r scope)
    (hopening : opening.name? = some name) (hopen : ∀ a ∈ after, ¬a.Opens name)
    (hstay : .disconnect name ∉ after) :
    ∃ stream,
      Keyed.find? name ((collectorAfter node capacity periodMs before).run
        (.request now .query r opening :: after)).streams = some stream ∧
      (collectorAfter node capacity periodMs before).outputs name
          (.request now .query r opening :: after) ++ stream.waiting.map frameText =
        (captures (logOf scope before) ((collectorAfter node capacity periodMs before).trace name
          scope (.request now .query r opening :: after))).map fun c => frameText c.entry := by
  have hpos : 0 < (collectorAfter node capacity periodMs before).streamPeriodMs := by
    rwa [streamPeriodMs_collectorAfter]
  obtain ⟨first, hfirst⟩ := follows_opening hpos now hr hopening
  have hrun := collectorAfter_step node capacity periodMs before
    (.request now .query r opening)
  obtain ⟨stream, hrest⟩ := delivers_run (hrun ▸ hfirst.1) hopen hstay
  rw [← hrun, hfirst.2.1, logOf_append] at hrest
  obtain ⟨hfind, -, hframes⟩ :=
    Delivers.cons (newest?_collectorAfter node capacity periodMs before _) hfirst hrest
  refine ⟨stream, hfind, hframes.trans ?_⟩
  rw [show (Subscription.start scope _ hpos).waiting = [] from rfl, List.nil_append, List.map_map]
  rfl

/-- Once the client has left, no tick is taken and no frame. -/
theorem gone_after_disconnect (s : Service) {name : String} (scope : Scope) (xs : List Action)
    {ys : List Action}
    (hopen : ∀ a ∈ ys, ¬a.Opens name) :
    (s.run (xs ++ [.disconnect name])).outputs name ys = [] ∧
      (s.run (xs ++ [.disconnect name])).trace name scope ys = (logOf scope ys).map .kept := by
  refine gone_run ?_ scope hopen
  rw [run_append]
  exact find?_disconnect_self _ name

/-- What comes until the client leaves is all that comes. -/
theorem until_disconnect (s : Service) {name : String} (scope : Scope) (xs : List Action)
    {ys : List Action} (hopen : ∀ a ∈ ys, ¬a.Opens name) :
    s.outputs name (xs ++ .disconnect name :: ys) = s.outputs name xs ∧
      s.trace name scope (xs ++ .disconnect name :: ys) =
        s.trace name scope xs ++ (logOf scope (.disconnect name :: ys)).map .kept := by
  obtain ⟨houtputs, htrace⟩ := gone_after_disconnect s scope xs hopen
  rw [run_append] at houtputs htrace
  have hlog := logOf_append scope [.disconnect name] ys
  rw [outputs_append, trace_append]
  constructor
  · show _ ++ ([] ++ ((s.run xs).run [.disconnect name]).outputs name ys) = _
    rw [houtputs, List.append_nil, List.append_nil]
  · show _ ++ ([] ++ (logOf scope [.disconnect name]).map .kept ++
      ((s.run xs).run [.disconnect name]).trace name scope ys) = _
    rw [htrace, List.nil_append, ← List.map_append, ← hlog]
    rfl

/-- Whether the client stays or leaves, the frames that it has received are the first ones of what the
ticks find. -/
theorem outputs_opened (node : String) (capacity : Nat) {periodMs : Nat} (before : List Action)
    (now : Time.Instant) {r : Request} {scope : Scope} {name : String} {opening : Opening}
    {after : List Action} (hperiod : 0 < periodMs) (hr : Subscribes r scope)
    (hopening : opening.name? = some name) (hopen : ∀ a ∈ after, ¬a.Opens name) :
    (collectorAfter node capacity periodMs before).outputs name
        (.request now .query r opening :: after) <+:
      (captures (logOf scope before) ((collectorAfter node capacity periodMs before).trace name
        scope (.request now .query r opening :: after))).map fun c => frameText c.entry := by
  by_cases hleft : .disconnect name ∈ after
  · -- the frames of the actions before the client leaves are all that come
    obtain ⟨xs, ys, rfl, hxs⟩ := List.eq_append_cons_of_mem hleft
    have hopenxs : ∀ a ∈ xs, ¬a.Opens name := fun a ha => hopen a (List.mem_append_left _ ha)
    have hopenys : ∀ a ∈ ys, ¬a.Opens name := fun a ha =>
      hopen a (List.mem_append_right _ (List.mem_cons_of_mem _ ha))
    obtain ⟨stream, -, hframes⟩ :=
      delivers_opened node capacity before now hperiod hr hopening hopenxs hxs
    obtain ⟨houtputs, htrace⟩ := until_disconnect (collectorAfter node capacity periodMs before)
      scope (.request now .query r opening :: xs) hopenys
    rw [← List.cons_append, houtputs, htrace, captures_append, captures_kept, List.append_nil]
    exact ⟨_, hframes⟩
  · obtain ⟨stream, -, hframes⟩ :=
      delivers_opened node capacity before now hperiod hr hopening hopen hleft
    exact ⟨_, hframes⟩

/-- **A stream shows the newest entries of its history.** Take a collector after any actions, a
request that subscribes to a history, and any actions after it, in which time passes, entries are
given to both histories, clients read and leave, but no other connection is opened under the same
name. Let `found` be what the ticks of the connection find: for each tick the newest entry, at that
moment, of the history subscribed to, and nothing for a tick that finds it empty. A frame is a line of
data with the compact JSON text of an entry, and an empty line. Then

* the frames that the client has received are the first ones of those of `found`, in order;
* while the client stays, they and the frames that wait for it are all of them;
* the places of the entries in the log of the history never decrease;
* each entry stands at its place in the log of this history, whose end the collector keeps;
* from the moment at which the client leaves no tick is taken and no frame. -/
theorem stream_shows_newest (node : String) (capacity periodMs : Nat) (hperiod : 0 < periodMs)
    (before : List Action) (now : Time.Instant) (r : Request) (scope : Scope)
    (hr : Subscribes r scope) (name : String) (opening : Opening)
    (hopening : opening.name? = some name) (after : List Action)
    (hname : ∀ a ∈ after, ¬a.Opens name) :
    let s := collectorAfter node capacity periodMs before
    let actions := Action.request now .query r opening :: after
    let found := captures (logOf scope before) (s.trace name scope actions)
    let frame (entry : Json) := "data: " ++ entry.compact ++ "\n\n"
    s.outputs name actions <+: found.map (fun c => frame c.entry) ∧
    (.disconnect name ∉ after →
      ∃ stream, Keyed.find? name (s.run actions).streams = some stream ∧
        s.outputs name actions ++ stream.waiting.map frame = found.map fun c => frame c.entry) ∧
    found.Pairwise (fun c d => c.place ≤ d.place) ∧
    (∀ c ∈ found, (logOf scope (before ++ actions))[c.place]? = some c.entry) ∧
    (s.run actions).store.entries scope =
      (logOf scope (before ++ actions)).drop
        ((logOf scope (before ++ actions)).length - max capacity 1) ∧
    ∀ xs ys, after = xs ++ .disconnect name :: ys →
      (s.run (.request now .query r opening :: xs ++ [.disconnect name])).outputs name ys = [] ∧
        (s.run (.request now .query r opening :: xs ++ [.disconnect name])).trace name scope ys =
          (logOf scope ys).map .kept := by
  intro s actions found frame
  refine ⟨outputs_opened node capacity before now hperiod hr hopening hname,
    delivers_opened node capacity before now hperiod hr hopening hname, pairwise_captures _ _,
    fun c hc => ?_, ?_, ?_⟩
  · have hentry := (mem_captures hc).2
    rwa [keptIn_trace, ← logOf_append] at hentry
  · show (Service.run s actions).store.entries scope = _
    rw [← collectorAfter_append]
    exact entries_collectorAfter node capacity periodMs _ scope
  · rintro xs ys rfl
    exact gone_after_disconnect s scope _ fun a ha =>
      hname a (List.mem_append_right _ (List.mem_cons_of_mem _ ha))

/-- A sample of which nothing is known. -/
def blankSample : Sample := ⟨⟨0, 0⟩, .zero⟩

/-- A request for the stream of samples. -/
def statsStream : Request := ⟨"GET", "/stream?scope=stats", []⟩

/-- The frame of this sample. -/
def blankFrame : String :=
  "data: \x7b\"timestamp\":\"1970-01-01T00:00:00Z\",\"cpu_percent\":0.0," ++
    "\"mem_used_mb\":0,\"mem_total_mb\":0,\"swap_used_mb\":0,\"swap_total_mb\":0," ++
    "\"pswpin\":0,\"pswpout\":0,\"pgfault\":0,\"pgmajfault\":0,\"pgpgin\":0,\"pgpgout\":0," ++
    "\"disk_read_bytes\":0,\"disk_write_bytes\":0\x7d\n\n"

/-- A client that takes a frame as soon as its connection is open has received it, and no other one
waits; it leaves, and receives no more. -/
theorem stream_shows_sample :
    let s := collectorAfter "node" 1 1000 [.sample blankSample]
    let opening := Action.request ⟨0, 0⟩ .query statsStream (.kept "c")
    0 < 1000 ∧ Subscribes statsStream .stats ∧ (Opening.kept "c").name? = some "c" ∧
      (∀ a ∈ [Action.take "c", .disconnect "c", .sample blankSample], ¬a.Opens "c") ∧
      s.outputs "c" [opening, .take "c"] = [blankFrame] ∧
      s.outputs "c" [opening, .take "c", .disconnect "c", .sample blankSample] = [blankFrame] ∧
      (s.run [opening, .take "c", .disconnect "c"]).outputs "c" [.sample blankSample] = [] := by
  intro s opening
  have hsubscribes : Subscribes statsStream .stats := ⟨rfl, by decide, rfl⟩
  have hopen : ∀ a ∈ [Action.take "c", .disconnect "c", .sample blankSample], ¬a.Opens "c" := by
    intro a ha
    simp only [List.mem_cons, List.not_mem_nil, or_false] at ha
    rcases ha with rfl | rfl | rfl <;> exact not_false
  have hperiod : 0 < s.streamPeriodMs := by
    rw [streamPeriodMs_collectorAfter]
    decide
  have hframe : "data: " ++ blankSample.toJson.compact ++ "\n\n" = blankFrame := by decide +kernel
  -- the one tick finds the sample, and its frame is all that there is
  obtain ⟨-, hstay, -⟩ :=
    stream_shows_newest "node" 1 1000 (by decide) [.sample blankSample] ⟨0, 0⟩ statsStream .stats
      hsubscribes "c" (.kept "c") rfl [.take "c"] fun a ha =>
        hopen a (List.mem_of_mem_take (i := 1) ha)
  obtain ⟨stream, hfind, hframes⟩ := hstay (by simp)
  obtain ⟨-, last, hlast, hwaiting⟩ := outputs_take_first hperiod ⟨0, 0⟩ hsubscribes "c"
  obtain rfl := Option.some.inj (hfind.symm.trans hlast)
  rw [hwaiting, List.map_nil, List.append_nil, trace, ticks_opening hperiod ⟨0, 0⟩ hsubscribes "c"]
    at hframes
  have hreceived : s.outputs "c" [opening, .take "c"] = [blankFrame] :=
    hframes.trans (congrArg (fun frame => [frame]) hframe)
  obtain ⟨-, -, -, -, -, hleft⟩ :=
    stream_shows_newest "node" 1 1000 (by decide) [.sample blankSample] ⟨0, 0⟩ statsStream .stats
      hsubscribes "c" (.kept "c") rfl _ hopen
  have hafter : ∀ a ∈ [Action.sample blankSample], ¬a.Opens "c" := fun a ha =>
    hopen a (List.mem_of_mem_drop (i := 2) ha)
  exact ⟨by decide, hsubscribes, rfl, hopen, hreceived,
    (until_disconnect s .stats [opening, .take "c"] hafter).1.trans hreceived,
    (hleft [.take "c"] _ rfl).1⟩

end NodeTelemetry.Service
