import NodeTelemetry.Counters.Files
import NodeTelemetry.Log
import NodeTelemetry.Store

/-!
# The sampler

The sampler takes one sample at each tick. It reads load and memory, then the block devices, then
the paging counters, each read beginning when the one before has come back or run out of time. A
read that fails costs the sample its fields and nothing else:

* load, memory and swap space are zero;
* the totals of the block devices are the last ones known;
* the rates are zero, and the next rates span the gap.

## Time

Time is counted in milliseconds. A `Reading` says when a read comes back and with what, so a tick
is a function of its start and its readings. What a tick does is a list of effects, each with the
time at which it happens; `Store.apply` says what an effect changes. A run that is stopped inside a
tick has done exactly the effects up to then.
-/

namespace NodeTelemetry

/-- How a read turns out. -/
structure Reading (α : Type) where
  /-- When it comes back, in milliseconds after its start; a read may never come back. -/
  delayMs : Option Nat
  /-- What it comes back with. -/
  outcome : Except ReadFault α

/-- When a read is over, and with what. -/
structure Settled (α : Type) where
  /-- The time at which it is over. -/
  doneMs : Nat
  /-- The value or the fault. -/
  outcome : Except ReadFault α

/-- A read that starts at a time and may take at most `limitMs`. One that comes back exactly then is
in time. -/
def Reading.settle {α : Type} (r : Reading α) (limitMs startMs : Nat) : Settled α :=
  match r.delayMs with
  | some d =>
    if d ≤ limitMs then ⟨startMs + d, r.outcome⟩
    else ⟨startMs + limitMs, .error (.timedOut limitMs)⟩
  | none => ⟨startMs + limitMs, .error (.timedOut limitMs)⟩

/-- A read that comes back at once with a value. -/
def Reading.ready {α : Type} (a : α) : Reading α := ⟨some 0, .ok a⟩

/-- The three reads of a tick. -/
structure Readings where
  /-- Load, memory and swap space. -/
  usage : Reading NodeUsage
  /-- The block devices. -/
  disk : Reading DiskTotals
  /-- The paging counters. -/
  vmstat : Reading Vmstat

/-- The wall clock: the time of day at each millisecond. -/
abbrev Clock := Nat → Time.Instant

/-- What a tick does to the world. -/
inductive Effect where
  /-- A read begins. -/
  | called (source : Source)
  /-- A read has failed. -/
  | failed (source : Source) (fault : ReadFault)
  /-- A sample is taken. `failures` are the sources that failed for it; `recovered` says that the
  sample before had failures and this one has none. -/
  | sampled (sample : Sample) (failures : List Source) (recovered : Bool)
  /-- A tick of a run is over. -/
  | ended (elapsedMs : Nat) (overran : Bool)

namespace Store

/-- The message of a sample with failures. -/
def degradedMessage (failures : List Source) : String :=
  "Unreadable counters: " ++ ", ".intercalate (failures.map Source.label)

/-- The health after a sample. -/
def noteHealth (h : Health.Registry) (now : Int) (failures : List Source) (recovered : Bool) :
    Health.Registry :=
  if !failures.isEmpty then h.setDegraded Health.samplerName (degradedMessage failures) now
  else if recovered then h.setHealthy Health.samplerName now
  else h

/-- What an effect changes. -/
def apply (s : Store) : Effect → Store
  | .called _ => s
  | .failed source _ => { s with metrics := s.metrics.countReadError source }
  | .sampled sample failures recovered =>
    let samples := s.samples.append sample
    { s with
      samples := samples
      health := noteHealth s.health sample.timestamp.secs failures recovered
      metrics := s.metrics.countSample.setItems samples.length .stats }
  | .ended elapsedMs _ =>
    { s with metrics := s.metrics.observeLatency (Time.Span.ofMillis elapsedMs).seconds }

/-- What several effects change, one after the other. -/
def applyAll (s : Store) (effects : List Effect) : Store := effects.foldl apply s

end Store

/-- What an effect logs on a node. -/
def Effect.logs (node : String) : Effect → List Log.Line
  | called _ => []
  | failed source fault => [Log.readFailed node source.label fault.layers]
  | sampled _ _ recovered => if recovered then [Log.readable] else []
  | ended elapsedMs overran => if overran then [Log.overrun elapsedMs] else []

namespace Sampler

/-- How a sampler is set up. -/
structure Config where
  /-- The time between samples. -/
  intervalMs : Nat
  /-- The most time for one read. -/
  readTimeoutMs : Nat
  deriving DecidableEq, Repr

/-- One second for both. -/
def Config.default : Config := ⟨1000, 1000⟩

/-- Sets the time between samples; the time for one read follows it. -/
def Config.withInterval (_ : Config) (ms : Nat) : Config := ⟨ms, ms⟩

/-- Sets the time for one read. -/
def Config.withReadTimeout (c : Config) (ms : Nat) : Config := { c with readTimeoutMs := ms }

/-- Why a sampler cannot be set up. -/
inductive BuildError where
  /-- It has nothing to read from. -/
  | noSource
  /-- It has nowhere to put its samples. -/
  | noHistory
  deriving DecidableEq, Repr

/-- The wording of a setup's error. -/
def BuildError.message : BuildError → String
  | noSource => "Counter source is required"
  | noHistory => "History buffer is required"

end Sampler

/-- What a sampler remembers from tick to tick. -/
structure Sampler where
  /-- How it is set up. -/
  config : Sampler.Config
  /-- The name of the node. -/
  node : String
  /-- The last paging counters read, and when. -/
  previous : Option (Vmstat × Nat)
  /-- The last totals of the block devices. -/
  lastDisk : DiskTotals
  /-- Whether the last sample had failures. -/
  degraded : Bool

namespace Sampler

/-- A sampler before its first tick. -/
def start (config : Config) (node : String) : Sampler := ⟨config, node, none, .zero, false⟩

/-- The name of a node that was given none. -/
def unknownNode : String := "unknown"

/-- Sets up a sampler from a source and a history, if both are given. -/
def build {σ : Type} (source : Option σ) (samples : Option (History Sample)) (config : Config)
    (node : Option String) : Except BuildError (σ × History Sample × Sampler) :=
  match source, samples with
  | none, _ => .error .noSource
  | some _, none => .error .noHistory
  | some s, some h => .ok (s, h, start config (node.getD unknownNode))

/-- A tick that was taken. -/
structure Tick where
  /-- The sampler after it. -/
  sampler : Sampler
  /-- The sample. -/
  sample : Sample
  /-- When it was over. -/
  doneMs : Nat
  /-- What it did, and when. -/
  effects : List (Nat × Effect)

/-- The rates that a read of the paging counters gives, and what is remembered of it. -/
def settleRates (previous : Option (Vmstat × Nat)) (r : Settled Vmstat) :
    Rates × Option (Vmstat × Nat) :=
  match r.outcome with
  | .error _ => (.zero, previous)
  | .ok current =>
    let rates := match previous with
      | none => .zero
      | some (snapshot, takenMs) => Rates.between snapshot current (.ofMillis (r.doneMs - takenMs))
    (rates, some (current, r.doneMs))

/-- The effects of a read. -/
def readEffects {α : Type} (source : Source) (startMs : Nat) (r : Settled α) :
    List (Nat × Effect) :=
  match r.outcome with
  | .ok _ => [(startMs, .called source)]
  | .error fault => [(startMs, .called source), (r.doneMs, .failed source fault)]

/-- The source of a read, if the read failed. -/
def failure {α : Type} (source : Source) (r : Settled α) : List Source :=
  match r.outcome with
  | .ok _ => []
  | .error _ => [source]

/-- The value of a read, or `a` if the read failed. -/
def valueOr {α : Type} (a : α) (r : Settled α) : α :=
  match r.outcome with
  | .ok b => b
  | .error _ => a

/-- The numbers of a sample. -/
def usageOf (u : NodeUsage) (disk : DiskTotals) (rates : Rates) : Usage :=
  { cpuPercent := u.cpuPercent
    memUsedMb := u.memUsedMb
    memTotalMb := u.memTotalMb
    swapUsedMb := u.swapUsedMb
    swapTotalMb := u.swapTotalMb
    pswpin := rates.pswpin
    pswpout := rates.pswpout
    pgfault := rates.pgfault
    pgmajfault := rates.pgmajfault
    pgpgin := rates.pgpgin
    pgpgout := rates.pgpgout
    diskReadBytes := disk.readBytes
    diskWriteBytes := disk.writeBytes }

/-- Takes a sample. -/
def tick (s : Sampler) (clock : Clock) (startMs : Nat) (r : Readings) : Tick :=
  let limit := s.config.readTimeoutMs
  let usage := r.usage.settle limit startMs
  let disk := r.disk.settle limit usage.doneMs
  let vmstat := r.vmstat.settle limit disk.doneMs
  let lastDisk := valueOr s.lastDisk disk
  let (rates, previous) := settleRates s.previous vmstat
  let failures := failure .usage usage ++ failure .disk disk ++ failure .vmstat vmstat
  let sample : Sample := ⟨clock vmstat.doneMs, usageOf (valueOr .zero usage) lastDisk rates⟩
  { sampler := { s with previous := previous, lastDisk := lastDisk, degraded := !failures.isEmpty }
    sample := sample
    doneMs := vmstat.doneMs
    effects :=
      readEffects .usage startMs usage ++ readEffects .disk usage.doneMs disk ++
        readEffects .vmstat disk.doneMs vmstat ++
        [(vmstat.doneMs, .sampled sample failures (failures.isEmpty && s.degraded))] }

/-- The effects of a run from its tick number `k` on: tick after tick, each beginning one interval
after the last one began, or at once if that one took longer. The run is followed up to a time,
through at most `fuel` ticks. `readings` gives the reads of each tick. -/
def runEffects (clock : Clock) (untilMs : Nat) (readings : Nat → Readings) :
    (fuel : Nat) → Sampler → (k startMs : Nat) → List (Nat × Effect)
  | 0, _, _, _ => []
  | fuel + 1, s, k, startMs =>
    if untilMs < startMs then []
    else
      let t := s.tick clock startMs (readings k)
      let elapsed := t.doneMs - startMs
      let overran := decide (s.config.intervalMs ≤ elapsed)
      t.effects ++ (t.doneMs, .ended elapsed overran) ::
        runEffects clock untilMs readings fuel t.sampler (k + 1)
          (startMs + max s.config.intervalMs elapsed)

/-- What a run does up to a time, that instant included. With an interval of at least a millisecond
no more ticks can begin than there are milliseconds. -/
def run (s : Sampler) (clock : Clock) (startMs untilMs : Nat) (readings : Nat → Readings) :
    List (Nat × Effect) :=
  (runEffects clock untilMs readings (untilMs - startMs + 1) s 0 startMs).filter
    (fun e => e.1 ≤ untilMs)

end Sampler

end NodeTelemetry
