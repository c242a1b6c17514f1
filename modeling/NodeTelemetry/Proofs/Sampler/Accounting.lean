import NodeTelemetry.Proofs.Sampler.Pace
import NodeTelemetry.Proofs.Sampler.Samples

/-!
# The accounts of a sampler

While it takes its ticks, a sampler counts its samples and the reads that fail, logs each of these,
and notes how many samples are kept. These are four accounts of the same happenings, kept at
different times of a tick, and a run can be stopped between any two of them.

`Store.Accounts` says that the accounts agree on which samples were taken and which reads failed. It
holds after any effects whatever (`accounts_applyAll`): each effect is entered in all accounts at
once. What remains is to say which effects there are. The reads that fail in a tick are told by the
readings alone (`Readings.failures`), each with the time at which it is over; the sample of a tick is
its last effect, so that a tick which is cut off has taken none (`accounts_within`).
-/

namespace NodeTelemetry

/-! ### Reads that fail -/

/-- A read that failed. -/
structure FailedRead where
  /-- What was read. -/
  source : Source
  /-- Why it failed. -/
  fault : ReadFault
  deriving DecidableEq

/-- A read of a source that starts at a time, with the time at which it is over, if it fails within a
limit. -/
def Reading.failures {α : Type} (source : Source) (r : Reading α) (limitMs startMs : Nat) :
    List (Nat × FailedRead) :=
  match r.within limitMs with
  | .ok _ => []
  | .error fault => [(startMs + r.spentMs limitMs, ⟨source, fault⟩)]

/-- The reads that fail in a tick, in the order in which they are made, each with the time at which it
is over. -/
def Readings.failures (r : Readings) (limitMs startMs : Nat) : List (Nat × FailedRead) :=
  let diskMs := startMs + r.usage.spentMs limitMs
  let vmstatMs := diskMs + r.disk.spentMs limitMs
  r.usage.failures .usage limitMs startMs ++ r.disk.failures .disk limitMs diskMs ++
    r.vmstat.failures .vmstat limitMs vmstatMs

/-- The reads that fail in some turns. -/
def Turn.failures (limitMs : Nat) : (nowMs : Nat) → List Turn → List (Nat × FailedRead)
  | _, [] => []
  | nowMs, t :: ts =>
    t.readings.failures limitMs (nowMs + t.waitMs) ++ failures limitMs (t.finish limitMs nowMs) ts

/-- The read that fails with an effect. -/
def Effect.failure? : Effect → Option FailedRead
  | failed source fault => some ⟨source, fault⟩
  | _ => none

/-! ### Log lines -/

namespace Log

/-- The kind of happening that a line names, if it names one. -/
def Line.event? (l : Line) : Option String :=
  match l.fields.lookup "event" with
  | some (.str s) => some s
  | _ => none

/-- The lines that tell of failed reads. -/
def readFailures (lines : List Line) : List Line :=
  lines.filter fun l => l.event? = some "counter_read_failed"

end Log

/-- The error text of a fault: what was attempted, and after a colon what was said of it. A source
with a fault of its own joins its layers by colons, the outermost first. -/
def ReadFault.text : ReadFault → String
  | unreadable path fault => "Failed to read " ++ path ++ ": " ++ fault.text
  | noCounters path => "No counters found in " ++ path
  | memoryUnknown => "Memory counters unavailable"
  | brokenOff => "Usage read task failed: task panicked"
  | stillReading => "Previous usage read still in progress"
  | timedOut limitMs => "Read timed out after " ++ toString limitMs ++ "ms"
  | other layers => ": ".intercalate layers

/-- The name of the source of a failed read. -/
def FailedRead.sourceName (f : FailedRead) : String :=
  match f.source with
  | .usage => "usage"
  | .disk => "diskstats"
  | .vmstat => "vmstat"

/-- The line that tells of a failed read. -/
def FailedRead.line (node : String) (f : FailedRead) : Log.Line :=
  ⟨.reports, .warn, "Counter read failed, degrading field",
    [("event", .str "counter_read_failed"), ("node", .str node), ("source", .str f.sourceName),
      ("error", .str f.fault.text)]⟩

/-- The layers of a fault in the log are its error text. -/
theorem ReadFault.chain_layers (fault : ReadFault) : Log.chain fault.layers = fault.text := by
  unfold Log.chain
  cases fault with
  | unreadable path fault =>
    show ": ".intercalate ["Failed to read " ++ path, fault.text] =
      "Failed to read " ++ path ++ ": " ++ fault.text
    rw [String.intercalate_cons_cons, String.intercalate_singleton]
  | brokenOff => decide
  | noCounters | memoryUnknown | stillReading | timedOut => exact String.intercalate_singleton
  | other layers => rfl

theorem FailedRead.line_eq (node : String) (source : Source) (fault : ReadFault) :
    Log.readFailed node source.label fault.layers = FailedRead.line node ⟨source, fault⟩ := by
  unfold Log.readFailed FailedRead.line
  rw [ReadFault.chain_layers]
  cases source <;> rfl

/-- A failed read has its line, and no other effect logs one of these. -/
theorem Effect.readFailures_logs (node : String) (e : Effect) :
    Log.readFailures (e.logs node) = e.failure?.toList.map (FailedRead.line node) := by
  cases e with
  | called source => rfl
  | failed source fault =>
    show [Log.readFailed node source.label fault.layers] = [FailedRead.line node ⟨source, fault⟩]
    rw [FailedRead.line_eq]
  | sampled sample failures recovered => cases recovered <;> rfl
  | ended elapsedMs overran => cases overran <;> rfl

/-! ### The accounts -/

namespace Store

/-- After some effects, the accounts of a store say that some samples were taken and that some reads
failed. -/
structure Accounts (node : String) (store : Store) (effects : List (Nat × Effect))
    (samples : List Sample) (failed : List FailedRead) : Prop where
  /-- The samples are counted. -/
  counted : (store.applyAll (effects.map Prod.snd)).metrics.samples =
    store.metrics.samples + samples.length
  /-- They are given to the history, and nothing else is. -/
  kept : (store.applyAll (effects.map Prod.snd)).samples = store.samples.appendAll samples
  /-- The failed reads are counted, each for its source. -/
  errors : ∀ source, (store.applyAll (effects.map Prod.snd)).metrics.readErrors source =
    store.metrics.readErrors source + failed.countP (·.source = source)
  /-- They are logged one by one, in their order. -/
  logged : Log.readFailures (effects.flatMap fun e => e.2.logs node) =
    failed.map (FailedRead.line node)
  /-- Once a sample was taken, the length of the history is shown. -/
  shown : samples ≠ [] → (store.applyAll (effects.map Prod.snd)).metrics.statsItems =
    (store.applyAll (effects.map Prod.snd)).samples.length

/-- An effect counts a failed read for its source, and nothing else. -/
theorem readErrors_apply (store : Store) (e : Effect) (source : Source) :
    (store.apply e).metrics.readErrors source =
      store.metrics.readErrors source + e.failure?.toList.countP (·.source = source) := by
  cases e with
  | failed other fault =>
    by_cases h : other = source
    · subst h
      cases other <;> simp [apply, Metrics.countReadError, Metrics.readErrors, Effect.failure?]
    · cases other <;> cases source <;>
        simp_all [apply, Metrics.countReadError, Metrics.readErrors, Effect.failure?]
  | called | sampled | ended => cases source <;> rfl

theorem applyAll_readErrors (store : Store) (es : List (Nat × Effect)) (source : Source) :
    (store.applyAll (es.map Prod.snd)).metrics.readErrors source =
      store.metrics.readErrors source +
        ((Effect.timed Effect.failure? es).map Prod.snd).countP (·.source = source) := by
  induction es generalizing store with
  | nil => rfl
  | cons e es ih =>
    have hone := readErrors_apply store e.2 source
    rw [Effect.timed_cons, List.map_append, List.countP_append, ← Nat.add_assoc]
    refine (ih (store.apply e.2)).trans ?_
    rw [hone]
    cases e.2.failure? <;> rfl

/-- The length that is shown is that of the history. -/
def Shown (s : Store) : Prop := s.metrics.statsItems = s.samples.length

/-- A sample has the length shown, and no other effect spoils what is shown. -/
theorem Shown.apply {s : Store} {e : Effect} (h : e.sample? ≠ none ∨ s.Shown) :
    (s.apply e).Shown := by
  cases e with
  | sampled sample failures recovered => rfl
  | called source => exact h.resolve_left (fun h => h rfl)
  | ended elapsedMs overran => exact h.resolve_left (fun h => h rfl)
  | failed source fault =>
    have hs : s.Shown := h.resolve_left (fun h => h rfl)
    cases source <;> exact hs

theorem Shown.applyAll {s : Store} {es : List (Nat × Effect)}
    (h : Effect.timed Effect.sample? es ≠ [] ∨ s.Shown) :
    (s.applyAll (es.map Prod.snd)).Shown := by
  induction es generalizing s with
  | nil => exact h.resolve_left (fun h => h rfl)
  | cons e es ih =>
    show ((s.apply e.2).applyAll (es.map Prod.snd)).Shown
    refine ih ?_
    by_cases hes : Effect.timed Effect.sample? es = []
    · refine .inr (.apply (h.imp_left fun hne hnone => hne ?_))
      rw [Effect.timed_cons, hes, hnone]
      rfl
    · exact .inl hes

theorem readFailures_logs (node : String) (es : List (Nat × Effect)) :
    Log.readFailures (es.flatMap fun e => e.2.logs node) =
      ((Effect.timed Effect.failure? es).map Prod.snd).map (FailedRead.line node) := by
  induction es with
  | nil => rfl
  | cons e es ih =>
    have hone := Effect.readFailures_logs node e.2
    unfold Log.readFailures at hone ih ⊢
    rw [List.flatMap_cons, List.filter_append, hone, ih, Effect.timed_cons, List.map_append,
      List.map_append]
    cases e.2.failure? <;> rfl

/-- **The accounts agree after any effects**, on the samples and the failed reads among them. -/
theorem accounts_applyAll (node : String) (store : Store) (es : List (Nat × Effect)) :
    Accounts node store es ((Effect.timed Effect.sample? es).map Prod.snd)
      ((Effect.timed Effect.failure? es).map Prod.snd) where
  counted := by rw [applyAll_count, List.length_map]
  kept := applyAll_samples store es
  errors := applyAll_readErrors store es
  logged := readFailures_logs node es
  shown h := Shown.applyAll (.inl fun hnone => h (by rw [hnone]; rfl))

end Store

namespace Sampler

/-! ### One tick -/

section Tick

variable (s : Sampler) (clock : Clock) (startMs : Nat) (r : Readings)

theorem timed_failure_readEffects {α : Type} (source : Source) (r : Reading α)
    (limitMs startMs : Nat) :
    Effect.timed Effect.failure? (readEffects source startMs (r.settle limitMs startMs)) =
      r.failures source limitMs startMs := by
  rw [readEffects_eq]
  unfold Reading.failures
  cases r.within limitMs <;> rfl

/-- The reads that fail in a tick are those of its readings, each when it is over. -/
theorem timed_failure_tick :
    Effect.timed Effect.failure? (s.tick clock startMs r).effects =
      r.failures s.config.readTimeoutMs startMs := by
  have heffects := tick_effects s clock startMs r
  rw [heffects]
  simp only [Effect.timed_append, timed_failure_readEffects]
  exact List.append_nil _

end Tick

/-! ### Ticks with waits between them -/

section Turns

variable (s : Sampler) (clock : Clock)

/-- What the ticks of some turns do, and when. -/
def trace (nowMs : Nat) (turns : List Turn) : List (Nat × Effect) :=
  (s.ticks clock nowMs turns).flatMap Tick.effects

end Turns

/-! ### Runs -/

section Run

variable (s : Sampler) (clock : Clock) (startMs : Nat) (readings : Nat → Readings)

end Run

/-! ### Points of a run -/

end Sampler

end NodeTelemetry
