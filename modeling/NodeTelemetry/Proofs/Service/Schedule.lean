import NodeTelemetry.Proofs.Service.Senders
import NodeTelemetry.Proofs.Subscription.Instants

/-!
# When the sender of a connection takes its ticks

From the opening of a connection on, each step takes its subscription further along its schedule
(`reaches_step`), and so does every run (`reaches_opened`), whatever the client does: it may leave
frames for as long as it likes, so that the sender stands still, and take them again.

A client that has taken all its frames before each instant (`Drains`) has a sender that is ahead, and
stays so (`ahead_step`). Then every instant gets its tick, at its time (`ahead_run`).

Both are put together in `stream_keeps_schedule`.
-/

namespace NodeTelemetry.Service

/-! ### The times of ticks -/

/-- When the ticks of a connection are taken. -/
def tickedIn : List Happening → List Nat
  | [] => []
  | .kept _ :: rest => tickedIn rest
  | .ticked atMs :: rest => atMs :: tickedIn rest

@[simp] theorem tickedIn_kept (entries : List Json) : tickedIn (entries.map .kept) = [] := by
  induction entries with
  | nil => rfl
  | cons entry entries ih => exact ih

@[simp] theorem tickedIn_ticked (ts : List Nat) : tickedIn (ts.map .ticked) = ts := by
  induction ts with
  | nil => rfl
  | cons t ts ih => exact congrArg (t :: ·) ih

@[simp] theorem tickedIn_append (xs ys : List Happening) :
    tickedIn (xs ++ ys) = tickedIn xs ++ tickedIn ys := by
  induction xs with
  | nil => rfl
  | cons x xs ih =>
    cases x with
    | kept entry => exact ih
    | ticked atMs => exact congrArg (atMs :: ·) ih

theorem tickedIn_trace_cons (s : Service) (name : String) (scope : Scope) (a : Action)
    (as : List Action) :
    tickedIn (s.trace name scope (a :: as)) =
      s.ticks name a ++ tickedIn ((s.step a).trace name scope as) := by
  simp [trace]

/-- What is found is found by ticks. -/
theorem sublist_tickedIn (log : List Json) (xs : List Happening) :
    ((captures log xs).map Capture.atMs).Sublist (tickedIn xs) := by
  induction xs generalizing log with
  | nil => exact List.Sublist.slnil
  | cons x xs ih =>
    cases x with
    | kept entry => exact ih _
    | ticked atMs =>
      simp only [captures, capture, tickedIn, List.map_append]
      cases log.getLast? with
      | none => exact (ih log).cons atMs
      | some entry => exact (ih log).cons_cons atMs

/-- In a history that is not empty every tick finds something. -/
theorem atMs_captures {log : List Json} (h : log ≠ []) (xs : List Happening) :
    (captures log xs).map Capture.atMs = tickedIn xs := by
  induction xs generalizing log with
  | nil => rfl
  | cons x xs ih =>
    cases x with
    | kept entry => exact ih (by simp)
    | ticked atMs =>
      have hfound : (capture log atMs).map Capture.atMs = [atMs] := by
        simp [capture, List.getLast?_eq_some_getLast h]
      simp only [captures, tickedIn, List.map_append, hfound, ih h, List.singleton_append]

/-- While no entry is given, all that is found is found in the same log. -/
theorem captures_of_keptIn_eq_nil {xs : List Happening} (h : keptIn xs = []) (log : List Json) :
    captures log xs = (tickedIn xs).flatMap (capture log) := by
  induction xs with
  | nil => rfl
  | cons x xs ih =>
    cases x with
    | kept entry => cases h
    | ticked atMs => exact congrArg (capture log atMs ++ ·) (ih h)

/-- In any time after the first tick no more is found than there are whole periods, and one. -/
theorem countP_captures_le {scope : Scope} {periodMs : Nat} {h : 0 < periodMs}
    {xs : List Happening}
    (hdue : List.Forall₂ (· ≤ ·)
      ((Subscription.start scope periodMs h : Subscription Json).instants (tickedIn xs)) (tickedIn xs))
    (log : List Json) (nowMs elapsedMs : Nat) :
    (captures log xs).countP (·.atMs ≤ (tickedIn xs).headD nowMs + elapsedMs) ≤
      elapsedMs / periodMs + 1 := by
  have hfound := (sublist_tickedIn log xs).countP_le
    (p := fun t => t ≤ (tickedIn xs).headD nowMs + elapsedMs)
  rw [List.countP_map] at hfound
  exact Nat.le_trans hfound (Subscription.countP_le_periods hdue
    (Subscription.headD_le_dueMs_start scope h nowMs) elapsedMs)

/-! ### Along the schedule -/

theorem nowMs_le_run (s : Service) (as : List Action) : s.nowMs ≤ (s.run as).nowMs := by
  induction as generalizing s with
  | nil => exact Nat.le_refl _
  | cons a as ih =>
    have hstep := ih (s.step a)
    rw [nowMs_step] at hstep
    exact Nat.le_trans (Nat.le_add_right _ _) hstep

theorem nowMs_le_of_mem_ticksOf {s : Service} {name : String}
    {f : Subscription Json → Option Json → List Nat}
    (hf : ∀ stream newest, ∀ t ∈ f stream newest, s.nowMs ≤ t) {t : Nat}
    (h : t ∈ s.ticksOf name f) : s.nowMs ≤ t := by
  unfold ticksOf at h
  cases hfind : Keyed.find? name s.streams with
  | none =>
    rw [hfind] at h
    cases h
  | some stream =>
    rw [hfind] at h
    exact hf _ _ t h

/-- No tick is taken in the past. -/
theorem nowMs_le_of_mem_ticks {s : Service} {name : String} {a : Action} {t : Nat}
    (h : t ∈ s.ticks name a) : s.nowMs ≤ t := by
  cases a with
  | request now surface r opening =>
    cases opening with
    | left | idle => exact absurd h List.not_mem_nil
    | kept other =>
      cases hbody : (s.respond now surface r).response.body with
      | text _ =>
        rw [ticks_kept_of_text hbody] at h
        cases h
      | frames stream =>
        rw [ticks_kept_of_frames hbody] at h
        split at h
        · exact Subscription.le_of_mem_ticks h
        · cases h
  | advance ms => exact nowMs_le_of_mem_ticksOf (fun _ _ _ => Subscription.le_of_mem_ticks) h
  | receive other limit =>
    change t ∈ if other = name then _ else _ at h
    split at h
    · exact nowMs_le_of_mem_ticksOf (fun _ _ _ => Subscription.le_of_mem_receiveTicks) h
    · cases h
  | pump other =>
    change t ∈ if other = name then _ else _ at h
    split at h
    · refine nowMs_le_of_mem_ticksOf (fun _ _ _ ht => ?_) h
      exact Nat.le_of_eq (Subscription.eq_of_mem_pumpTicks ht).symm
    · cases h
  | effect | sample | health | disconnect | wait | take => exact absurd h List.not_mem_nil

theorem nowMs_le_of_mem_tickedIn {s : Service} {name : String} {scope : Scope} {as : List Action}
    {t : Nat} (h : t ∈ tickedIn (s.trace name scope as)) : s.nowMs ≤ t := by
  induction as generalizing s with
  | nil => cases h
  | cons a as ih =>
    rw [tickedIn_trace_cons] at h
    rcases List.mem_append.mp h with h | h
    · exact nowMs_le_of_mem_ticks h
    · exact Nat.le_trans (nowMs_le_run s [a]) (ih h)

/-- The first tick is taken no earlier either. -/
theorem nowMs_le_headD_tickedIn (s : Service) (name : String) (scope : Scope) (as : List Action) :
    s.nowMs ≤ (tickedIn (s.trace name scope as)).headD s.nowMs := by
  cases hticks : tickedIn (s.trace name scope as) with
  | nil => exact Nat.le_refl _
  | cons t ts =>
    have ht : t ∈ tickedIn (s.trace name scope as) := hticks ▸ List.mem_cons_self
    exact nowMs_le_of_mem_tickedIn ht

/-- **One step** takes a connection whose client stays along its schedule. -/
theorem reaches_step {s : Service} {name : String} {a : Action} {stream : Subscription Json}
    (h : Keyed.find? name s.streams = some stream) (hopen : ¬a.Opens name)
    (hstay : a ≠ .disconnect name) :
    ∃ stream', Keyed.find? name (s.step a).streams = some stream' ∧
      stream.Reaches (s.ticks name a) (s.step a).nowMs stream' := by
  rw [nowMs_step]
  rcases step_cases s hopen hstay with
    ⟨hfind, -, hticks⟩ | ⟨ms, rfl⟩ | ⟨limit, rfl⟩ | rfl | rfl
  · rw [hticks]
    exact ⟨stream, hfind.trans h, stream.reaches_self _⟩
  · rw [show s.ticks name (.advance ms) = _ from ticksOf_eq h _]
    exact ⟨_, (follows_advance h ms).1, stream.reaches_run (Nat.le_add_right _ _) _⟩
  · rw [show s.ticks name (.receive name limit) = _ from (if_pos rfl).trans (ticksOf_eq h _)]
    exact ⟨_, (follows_receive h limit).1, stream.reaches_receive _ _ limit⟩
  · rw [show s.ticks name (.pump name) = _ from (if_pos rfl).trans (ticksOf_eq h _)]
    exact ⟨_, (follows_pump h).1, stream.reaches_pump _ _⟩
  · exact ⟨_, (follows_take h).1, stream.reaches_pass _⟩

/-- So does every run. -/
theorem reaches_trace {s : Service} {name : String} (scope : Scope) {as : List Action}
    {stream : Subscription Json} (h : Keyed.find? name s.streams = some stream)
    (hopen : ∀ a ∈ as, ¬a.Opens name) (hstay : .disconnect name ∉ as) :
    ∃ stream', Keyed.find? name (s.run as).streams = some stream' ∧
      stream.Reaches (tickedIn (s.trace name scope as)) (s.run as).nowMs stream' := by
  induction as generalizing s stream with
  | nil => exact ⟨stream, h, stream.reaches_self _⟩
  | cons a as ih =>
    obtain ⟨hopena, hopenas⟩ := List.forall_mem_cons.mp hopen
    obtain ⟨hstaya, hstayas⟩ := not_or.mp (mt List.mem_cons.mpr hstay)
    obtain ⟨next, hfind, hnext⟩ := reaches_step h hopena (Ne.symm hstaya)
    obtain ⟨stream', hfind', hrest⟩ := ih hfind hopenas hstayas
    refine ⟨stream', hfind', ?_⟩
    rw [tickedIn_trace_cons]
    exact hnext.trans (nowMs_le_run _ _) hrest

section Opened

variable {s : Service} {r : Request} {scope : Scope} {name : String} {opening : Opening}

/-- A connection that is opened is at the beginning of its schedule, or has taken the first tick. -/
theorem reaches_opening (hperiod : 0 < s.streamPeriodMs) (now : Time.Instant)
    (h : Subscribes r scope) (hopening : opening.name? = some name) :
    ∃ stream, Keyed.find? name (s.step (.request now .query r opening)).streams = some stream ∧
      (Subscription.start scope s.streamPeriodMs hperiod).Reaches
        (s.ticks name (.request now .query r opening))
        (s.step (.request now .query r opening)).nowMs stream := by
  rw [nowMs_step]
  cases opening with
  | left => cases hopening
  | kept other =>
    obtain rfl := Option.some.inj hopening
    have hrun := Subscription.reaches_run
      (.start scope s.streamPeriodMs hperiod) (Nat.le_refl s.nowMs) (s.store.newest? scope)
    rw [Subscription.ticks_start] at hrun
    rw [ticks_opening hperiod now h]
    exact ⟨_, (follows_kept hperiod now h other).1, hrun⟩
  | idle other =>
    obtain rfl := Option.some.inj hopening
    exact ⟨_, (follows_idle hperiod now h other).1, Subscription.reaches_self _ _⟩

/-- It stays on its schedule while its client stays. -/
theorem reaches_opened (hperiod : 0 < s.streamPeriodMs) (now : Time.Instant)
    (h : Subscribes r scope) (hopening : opening.name? = some name) {after : List Action}
    (hopen : ∀ a ∈ after, ¬a.Opens name) (hstay : .disconnect name ∉ after) :
    ∃ stream,
      Keyed.find? name (s.run (.request now .query r opening :: after)).streams = some stream ∧
      (Subscription.start scope s.streamPeriodMs hperiod).Reaches
        (tickedIn (s.trace name scope (.request now .query r opening :: after)))
        (s.run (.request now .query r opening :: after)).nowMs stream := by
  obtain ⟨first, hfind, hfirst⟩ := reaches_opening hperiod now h hopening
  obtain ⟨stream, hfind', hrest⟩ := reaches_trace scope hfind hopen hstay
  refine ⟨stream, hfind', ?_⟩
  rw [tickedIn_trace_cons]
  exact hfirst.trans (nowMs_le_run _ _) hrest

/-- No tick is taken before its instant or after the run, even if the client leaves in between. -/
theorem ticks_opened (hperiod : 0 < s.streamPeriodMs) (now : Time.Instant)
    (h : Subscribes r scope) (hopening : opening.name? = some name) {after : List Action}
    (hopen : ∀ a ∈ after, ¬a.Opens name) :
    List.Forall₂ (· ≤ ·)
      ((Subscription.start scope s.streamPeriodMs hperiod : Subscription Json).instants
        (tickedIn (s.trace name scope (.request now .query r opening :: after))))
      (tickedIn (s.trace name scope (.request now .query r opening :: after))) ∧
    ∀ t ∈ tickedIn (s.trace name scope (.request now .query r opening :: after)),
      t ≤ (s.run (.request now .query r opening :: after)).nowMs := by
  by_cases hleft : .disconnect name ∈ after
  · obtain ⟨xs, ys, rfl, hxs⟩ := List.eq_append_cons_of_mem hleft
    have hopenxs : ∀ a ∈ xs, ¬a.Opens name := fun a ha => hopen a (List.mem_append_left _ ha)
    have hopenys : ∀ a ∈ ys, ¬a.Opens name := fun a ha =>
      hopen a (List.mem_append_right _ (List.mem_cons_of_mem _ ha))
    obtain ⟨stream, -, hreaches⟩ := reaches_opened hperiod now h hopening hopenxs hxs
    -- the ticks before the client leaves are all that are taken
    have hticks : tickedIn (s.trace name scope
        (.request now .query r opening :: (xs ++ .disconnect name :: ys))) =
        tickedIn (s.trace name scope (.request now .query r opening :: xs)) := by
      rw [← List.cons_append, (until_disconnect s scope _ hopenys).2, tickedIn_append,
        tickedIn_kept, List.append_nil]
    rw [hticks]
    refine ⟨hreaches.due_le, fun t ht => Nat.le_trans (hreaches.times_le t ht) ?_⟩
    rw [← List.cons_append, run_append]
    exact nowMs_le_run _ _
  · obtain ⟨stream, -, hreaches⟩ := reaches_opened hperiod now h hopening hopen hleft
    exact ⟨hreaches.due_le, hreaches.times_le⟩

end Opened

/-! ### Senders that are ahead -/

/-- The frames that wait for the client of a connection. -/
def waitingFor (s : Service) (name : String) : List Json :=
  match Keyed.find? name s.streams with
  | none => []
  | some stream => stream.waiting

theorem waitingFor_eq {s : Service} {name : String} {stream : Subscription Json}
    (h : Keyed.find? name s.streams = some stream) : s.waitingFor name = stream.waiting := by
  simp [waitingFor, h]

/-- The client of a connection has taken all frames whenever an instant comes, and no action passes
two instants. -/
def Drains (s : Service) (name : String) (instant : Nat → Nat) : List Action → Prop
  | [] => True
  | a :: as =>
    (∀ m, s.nowMs < instant m → instant m ≤ s.nowMs + a.lapse →
      s.waitingFor name = [] ∧ s.nowMs + a.lapse < instant (m + 1)) ∧
    (s.step a).Drains name instant as

/-- A sender that is ahead stays ahead, and takes its next tick when it is due. -/
theorem ahead_step {s : Service} {name : String} {a : Action} {stream : Subscription Json}
    {dueMs : Nat} (h : Keyed.find? name s.streams = some stream)
    (hahead : stream.Ahead s.nowMs dueMs) (hopen : ¬a.Opens name) (hstay : a ≠ .disconnect name)
    (hwait : ∀ ms, a ≠ .wait ms)
    (hdrains : dueMs ≤ s.nowMs + a.lapse →
      stream.waiting = [] ∧ s.nowMs + a.lapse < dueMs + stream.periodMs) :
    ∃ stream', Keyed.find? name (s.step a).streams = some stream' ∧
      stream'.periodMs = stream.periodMs ∧
      (s.ticks name a = [] ∧ stream'.Ahead (s.step a).nowMs dueMs ∨
        s.ticks name a = [dueMs] ∧
          stream'.Ahead (s.step a).nowMs (dueMs + stream.periodMs)) := by
  rw [nowMs_step]
  by_cases hadvance : ∃ ms, a = .advance ms
  · obtain ⟨ms, rfl⟩ := hadvance
    have hfind := (follows_advance h ms).1
    rw [show s.ticks name (.advance ms) = _ from ticksOf_eq h _]
    obtain rfl := hahead.dueMs_eq s.nowMs
    by_cases hdue : stream.dueMs s.nowMs ≤ s.nowMs + ms
    · obtain ⟨hdrained, hnext⟩ := hdrains hdue
      obtain ⟨hticks, hrun⟩ := Subscription.run_due hahead.isBlocked (Nat.le_of_lt hahead.lt_due)
        hdue hnext (s.store.newest? stream.scope)
      rw [hrun] at hfind
      exact ⟨_, hfind, rfl, .inr ⟨hticks, Subscription.ahead_tick hdue hnext hdrained _⟩⟩
    · have hlate : s.nowMs + ms < stream.dueMs s.nowMs := Nat.lt_of_not_le hdue
      obtain ⟨hticks, hrun⟩ := Subscription.run_early hlate (s.store.newest? stream.scope)
      rw [hrun] at hfind
      refine ⟨_, hfind, rfl, .inl ⟨hticks, hahead.due_eq, hlate, ?_, hahead.length_le⟩⟩
      exact Nat.le_trans hahead.due_le (Nat.add_le_add_right (Nat.le_add_right _ _) _)
  · have hlapse : a.lapse = 0 := by
      cases a with
      | advance ms => exact absurd ⟨ms, rfl⟩ hadvance
      | wait ms => exact absurd rfl (hwait ms)
      | _ => rfl
    rw [hlapse, Nat.add_zero]
    rcases step_cases s hopen hstay with
      ⟨hfind, -, hticks⟩ | hms | ⟨limit, rfl⟩ | rfl | rfl
    · exact ⟨stream, hfind.trans h, rfl, .inl ⟨hticks, hahead⟩⟩
    · exact absurd hms hadvance
    · obtain ⟨hticks, hahead'⟩ := hahead.receive (s.store.newest? stream.scope) limit
      have hperiod := (stream.reaches_receive s.nowMs (s.store.newest? stream.scope) limit).period_eq
      exact ⟨_, (follows_receive h limit).1, hperiod,
        .inl ⟨((if_pos rfl).trans (ticksOf_eq h _)).trans hticks, hahead'⟩⟩
    · obtain ⟨hticks, hpump⟩ := hahead.pump (s.store.newest? stream.scope)
      have hfind := (follows_pump h).1
      rw [hpump] at hfind
      exact ⟨_, hfind, rfl, .inl ⟨((if_pos rfl).trans (ticksOf_eq h _)).trans hticks, hahead⟩⟩
    · exact ⟨_, (follows_take h).1, rfl, .inl ⟨rfl, hahead.rest (by simp)⟩⟩

/-- Hence every instant of a run gets its tick, at its time. -/
theorem ahead_run {s : Service} {name : String} (scope : Scope) {as : List Action}
    {stream : Subscription Json} {firstMs k : Nat}
    (h : Keyed.find? name s.streams = some stream)
    (hahead : stream.Ahead s.nowMs (firstMs + k * stream.periodMs))
    (hopen : ∀ a ∈ as, ¬a.Opens name) (hstay : .disconnect name ∉ as) (hwait : ∀ ms, .wait ms ∉ as)
    (hdrains : s.Drains name (firstMs + · * stream.periodMs) as) :
    ∃ (n : Nat) (stream' : Subscription Json), stream'.periodMs = stream.periodMs ∧
      stream'.Ahead (s.run as).nowMs (firstMs + (k + n) * stream.periodMs) ∧
      tickedIn (s.trace name scope as) =
        (List.range' k n).map (firstMs + · * stream.periodMs) := by
  induction as generalizing s stream k with
  | nil => exact ⟨0, stream, rfl, hahead, rfl⟩
  | cons a as ih =>
    obtain ⟨hopena, hopenas⟩ := List.forall_mem_cons.mp hopen
    obtain ⟨hstaya, hstayas⟩ := not_or.mp (mt List.mem_cons.mpr hstay)
    have hwaita : ∀ ms, a ≠ .wait ms := fun ms he => hwait ms (he ▸ List.mem_cons_self)
    have hwaitas : ∀ ms, .wait ms ∉ as := fun ms hm => hwait ms (List.mem_cons_of_mem _ hm)
    obtain ⟨hnow, hrest⟩ := hdrains
    have hstep := ahead_step h hahead hopena (Ne.symm hstaya) hwaita fun hle => by
      obtain ⟨hdrained, hnext⟩ := hnow k hahead.lt_due hle
      rw [waitingFor_eq h] at hdrained
      refine ⟨hdrained, ?_⟩
      rwa [Nat.add_assoc, ← Nat.succ_mul]
    obtain ⟨next, hfind, hperiod, ⟨hticks, hahead'⟩ | ⟨hticks, hahead'⟩⟩ := hstep
    · rw [← hperiod] at hrest hahead'
      obtain ⟨n, stream', hperiod', hend, hall⟩ :=
        ih hfind hahead' hopenas hstayas hwaitas hrest
      rw [hperiod] at hperiod' hend hall
      refine ⟨n, stream', hperiod', hend, ?_⟩
      rw [tickedIn_trace_cons, hticks, hall, List.nil_append]
    · rw [Nat.add_assoc, ← Nat.succ_mul, ← hperiod] at hahead'
      rw [← hperiod] at hrest
      obtain ⟨n, stream', hperiod', hend, hall⟩ :=
        ih hfind hahead' hopenas hstayas hwaitas hrest
      rw [hperiod] at hperiod' hend hall
      rw [Nat.succ_add_eq_add_succ] at hend
      refine ⟨n + 1, stream', hperiod', hend, ?_⟩
      rw [tickedIn_trace_cons, hticks, hall, List.range'_succ]
      rfl

/-- A client that drains its connection has one tick for each instant from the opening on. -/
theorem tickedIn_of_drains {s : Service} (hperiod : 0 < s.streamPeriodMs) (now : Time.Instant)
    {r : Request} {scope : Scope} (h : Subscribes r scope) {name : String} {after : List Action}
    (hopen : ∀ a ∈ after, ¬a.Opens name) (hstay : .disconnect name ∉ after)
    (hwait : ∀ ms, .wait ms ∉ after)
    (hdrains : (s.step (.request now .query r (.kept name))).Drains name
      (s.nowMs + · * s.streamPeriodMs) after) :
    tickedIn (s.trace name scope (.request now .query r (.kept name) :: after)) =
      (List.range (((s.run (.request now .query r (.kept name) :: after)).nowMs - s.nowMs) /
        s.streamPeriodMs + 1)).map (s.nowMs + · * s.streamPeriodMs) := by
  have hfind := (follows_kept hperiod now h name).1
  obtain ⟨hahead, hfirst⟩ :=
    Subscription.ahead_start scope s.nowMs hperiod (s.store.newest? scope)
  have hnow : (s.step (.request now .query r (.kept name))).nowMs = s.nowMs :=
    nowMs_step s (.request now .query r (.kept name))
  rw [← hfirst] at hdrains
  obtain ⟨n, stream, hperiod', hend, hticks⟩ := ahead_run (k := 1) scope hfind
    (by rw [hnow, hfirst, Nat.one_mul]; exact hahead) hopen hstay hwait hdrains
  rw [hfirst] at hperiod' hend hticks
  have hstop := hend.lt_due
  have hsoon := hend.due_le
  rw [Nat.add_mul, Nat.one_mul] at hstop hsoon
  rw [hperiod'] at hsoon
  have hcount : ((s.run (.request now .query r (.kept name) :: after)).nowMs - s.nowMs) /
      s.streamPeriodMs = n := by
    rw [run_cons]
    apply Nat.div_eq_of_lt_le
    · omega
    · rw [Nat.succ_mul]
      omega
  rw [tickedIn_trace_cons, ticks_opening hperiod now h name, hticks, hcount,
    List.range_eq_range', List.range'_succ]
  simp

/-! ### The schedule of a connection -/

/-- **A stream keeps its schedule.** Take a collector after any actions, a request that subscribes to a
history, and any actions after it, in which time passes, senders and clients go on or wait as long as
they like, and clients leave, but no other connection is opened under the same name. Let `ticks` be
the times of the ticks that the sender takes, `consumed` the instants of its schedule that they take,
and `found` what they find. The schedule begins at `beginMs`, with the first tick. Then

* this is when the request comes, if the sender goes on at once, and never earlier;
* no instant is taken twice, each is a whole number of periods after the beginning, and none is taken
  before its time; a tick that is at most five milliseconds late is followed by the next instant, a
  later one by the first instant that is still to come;
* what is found is found by ticks, and in any time after the beginning there are no more frames than
  whole periods, and one; the frames that the client receives are the first ones of them, each a line
  of data with the compact JSON text of what was found, and an empty line;
* while the client stays, the next tick is due as the ticks say, the frames that it has received and
  those that wait for it are all that were found, and no more than one waits behind those that there
  is room for, which are eight;
* this one is in the hand of the sender, and all others are in the channel, in whatever order senders
  and clients move;
* if the sender goes on as time passes, the client stays, the history is not empty and the client has
  taken all frames whenever an instant comes, then there is exactly one frame for each instant, found
  at its time and received or waiting. -/
theorem stream_keeps_schedule (node : String) (capacity periodMs : Nat) (hperiod : 0 < periodMs)
    (before : List Action) (now : Time.Instant) (r : Request) (scope : Scope)
    (hr : Subscribes r scope) (name : String) (opening : Opening)
    (hopening : opening.name? = some name) (after : List Action)
    (hname : ∀ a ∈ after, ¬a.Opens name) :
    let s := collectorAfter node capacity periodMs before
    let actions := Action.request now .query r opening :: after
    let schedule : Subscription Json := .start scope periodMs hperiod
    let ticks := tickedIn (s.trace name scope actions)
    let consumed := schedule.instants ticks
    let beginMs := ticks.headD s.nowMs
    let found := captures (logOf scope before) (s.trace name scope actions)
    let frame (entry : Json) := "data: " ++ entry.compact ++ "\n\n"
    (s.nowMs ≤ beginMs ∧ (opening = .kept name → ticks.head? = some s.nowMs)) ∧
    (consumed.Pairwise (· < ·) ∧ (∀ i ∈ consumed, ∃ m, i = beginMs + m * periodMs) ∧
      List.Forall₂ (· ≤ ·) consumed ticks ∧ (∀ t ∈ ticks, t ≤ (s.run actions).nowMs) ∧
      ∀ k t i j, ticks[k]? = some t → consumed[k]? = some i → consumed[k + 1]? = some j →
        (t ≤ i + 5 → j = i + periodMs) ∧ (i + 5 < t → t < j ∧ j ≤ t + periodMs)) ∧
    ((found.map Capture.atMs).Sublist ticks ∧
      (∀ elapsedMs,
        found.countP (·.atMs ≤ beginMs + elapsedMs) ≤ elapsedMs / periodMs + 1) ∧
      s.outputs name actions <+: found.map fun c => frame c.entry) ∧
    (.disconnect name ∉ after →
      ∃ stream, Keyed.find? name (s.run actions).streams = some stream ∧
        stream.due? = (schedule.after ticks).due? ∧
        s.outputs name actions ++ stream.waiting.map frame = (found.map fun c => frame c.entry) ∧
        stream.waiting.length ≤ 8 + 1) ∧
    (∀ moves, ∀ c ∈ ((Senders.start s).run moves).connections,
      c.stream.waiting.length ≤ 8 ∧ c.hand.length ≤ 1) ∧
    (opening = .kept name → (∀ ms, .wait ms ∉ after) → .disconnect name ∉ after →
      s.store.entries scope ≠ [] →
      (s.step (.request now .query r opening)).Drains name (s.nowMs + · * periodMs) after →
      found.map Capture.atMs =
          (List.range (((s.run actions).nowMs - s.nowMs) / periodMs + 1)).map
            (s.nowMs + · * periodMs) ∧
        (s.outputs name actions).length + ((s.run actions).waitingFor name).length =
          ((s.run actions).nowMs - s.nowMs) / periodMs + 1) := by
  intro s actions schedule ticks consumed beginMs found frame
  have hsame : s.streamPeriodMs = periodMs := streamPeriodMs_collectorAfter ..
  have hpos : 0 < s.streamPeriodMs := hsame.symm ▸ hperiod
  have hschedule : schedule = .start scope s.streamPeriodMs hpos := by
    simp only [schedule, hsame]
  have hticks : List.Forall₂ (· ≤ ·) consumed ticks ∧ ∀ t ∈ ticks, t ≤ (s.run actions).nowMs := by
    show List.Forall₂ _ (schedule.instants ticks) ticks ∧ _
    rw [hschedule]
    exact ticks_opened hpos now hr hopening hname
  have hdelivered (hstay : .disconnect name ∉ after) :=
    delivers_opened node capacity before now hperiod hr hopening hname hstay
  refine ⟨⟨nowMs_le_headD_tickedIn s name scope actions, fun hkept => ?_⟩,
    ⟨Subscription.pairwise_instants _ _, fun i hi => Subscription.mem_instants_start hi _, hticks.1,
      hticks.2, fun k t i j => Subscription.instants_follow⟩,
    ⟨sublist_tickedIn _ _, countP_captures_le hticks.1 _ s.nowMs,
      outputs_opened node capacity before now hperiod hr hopening hname⟩,
    fun hstay => ?_, fun moves c hc => ?_, fun hkept hwait hstay hfull hdrains => ?_⟩
  · subst hkept
    show (tickedIn (s.trace name scope actions)).head? = some s.nowMs
    rw [tickedIn_trace_cons, ticks_opening hpos now hr name]
    rfl
  · obtain ⟨stream, hfind, hframes⟩ := hdelivered hstay
    obtain ⟨stream', hfind', hreaches⟩ := reaches_opened hpos now hr hopening hname hstay
    obtain rfl := Option.some.inj (hfind'.symm.trans hfind)
    rw [← hschedule] at hreaches
    exact ⟨_, hfind, hreaches.due_eq, hframes, hreaches.length_le (Nat.zero_le _)⟩
  · have hsound := (Senders.sound_start s).run hpos moves
    exact ⟨(hsound.each c hc).length_le, c.length_hand_le⟩
  · have hinstants : found.map Capture.atMs =
        (List.range (((s.run actions).nowMs - s.nowMs) / periodMs + 1)).map
          (s.nowMs + · * periodMs) := by
      subst hkept
      have hlog : logOf scope before ≠ [] := fun hnil => hfull <| by
        rw [entries_collectorAfter, hnil, List.drop_nil]
      rw [← hsame] at hdrains ⊢
      rw [atMs_captures hlog]
      exact tickedIn_of_drains hpos now hr hname hstay hwait hdrains
    obtain ⟨stream, hfind, hframes⟩ := hdelivered hstay
    have hcount := congrArg List.length hframes
    have hlength := congrArg List.length hinstants
    rw [List.length_append, List.length_map, List.length_map, ← waitingFor_eq hfind] at hcount
    rw [List.length_map, List.length_map, List.length_range] at hlength
    exact ⟨hinstants, hcount.trans hlength⟩

/-- A client that takes its first frame before the next instant comes: ticks are taken at both
instants, the frame of the first one is received, and that of the second one waits. -/
theorem stream_keeps_schedule_drained :
    let s := collectorAfter "node" 1 10 [.sample blankSample]
    let actions :=
      [Action.request ⟨0, 0⟩ .query statsStream (.kept "c"), .take "c", .advance 10]
    0 < 10 ∧ Subscribes statsStream .stats ∧ (Opening.kept "c").name? = some "c" ∧
      (∀ a ∈ [Action.take "c", .advance 10], ¬a.Opens "c") ∧
      (captures (logOf .stats [.sample blankSample]) (s.trace "c" .stats actions)).map
        Capture.atMs = [0, 10] ∧
      s.outputs "c" actions = [blankFrame] ∧
      ((s.run actions).waitingFor "c").map
        (fun entry => "data: " ++ entry.compact ++ "\n\n") = [blankFrame] := by
  intro s actions
  have hsubscribes : Subscribes statsStream .stats := ⟨rfl, by decide, rfl⟩
  have hopen : ∀ a ∈ [Action.take "c", .advance 10], ¬a.Opens "c" := by simp [Action.Opens]
  have hperiod : 0 < s.streamPeriodMs := by
    rw [streamPeriodMs_collectorAfter]
    decide
  have hframe : "data: " ++ blankSample.toJson.compact ++ "\n\n" = blankFrame := by decide +kernel
  obtain ⟨htaken, last, hlast, hwaiting⟩ := outputs_take_first hperiod ⟨0, 0⟩ hsubscribes "c"
  have hreceived : s.outputs "c" actions = [blankFrame] :=
    htaken.trans (congrArg (fun frame => [frame]) hframe)
  have hdrains : (s.step (.request ⟨0, 0⟩ .query statsStream (.kept "c"))).Drains "c"
      (s.nowMs + · * 10) [.take "c", .advance 10] := by
    refine ⟨fun m hlt hle => absurd hle (Nat.not_le_of_lt hlt), fun m hlt hle => ?_, trivial⟩
    have hlt : 0 < 0 + m * 10 := hlt
    have hle : 0 + m * 10 ≤ 0 + 10 := hle
    exact ⟨(waitingFor_eq hlast).trans hwaiting, show 0 + 10 < 0 + (m + 1) * 10 by omega⟩
  obtain ⟨-, -, -, hstay, -, hdrained⟩ :=
    stream_keeps_schedule "node" 1 10 (by decide) [.sample blankSample] ⟨0, 0⟩ statsStream .stats
      hsubscribes "c" (.kept "c") rfl _ hopen
  have hinstants : (captures (logOf .stats [.sample blankSample]) (s.trace "c" .stats actions)).map
      Capture.atMs = [0, 10] := (hdrained rfl (by simp) (by simp) (by decide) hdrains).1
  refine ⟨by decide, hsubscribes, rfl, hopen, hinstants, hreceived, ?_⟩
  -- both ticks find the same sample, and one of the two frames has been received
  obtain ⟨stream, hfind, -, hframes, -⟩ := hstay (by simp)
  have hlog : logOf .stats [.sample blankSample] = [blankSample.toJson] := rfl
  rw [hlog] at hinstants hframes
  rw [atMs_captures (List.cons_ne_nil _ _)] at hinstants
  rw [captures_of_keptIn_eq_nil (keptIn_trace ..), hinstants, hreceived] at hframes
  rw [waitingFor_eq hfind]
  exact (List.append_right_inj [blankFrame]).mp
    (hframes.trans (congrArg (fun frame => [frame, frame]) hframe))

/-- A sender that begins late has its schedule from then on. -/
example :
    tickedIn ((collectorAfter "node" 1 10 []).trace "c" .stats
      [.request ⟨0, 0⟩ .query statsStream (.idle "c"), .wait 7, .pump "c", .wait 4, .pump "c",
        .wait 6, .pump "c"]) = [7, 17] := by decide +kernel

end NodeTelemetry.Service
