import NodeTelemetry.Sampler.Basic

/-!
# What a tick does

A tick makes three timed reads, one after the other. `Reading.settle` says when a read is over and
with what, given when it began; here the two are taken apart. What a read gives within a limit
(`Reading.within`) and how long it takes (`Reading.spentMs`) do not depend on when it began, so a
tick that starts at a time is over a fixed time later, and what it remembers and samples follows
from what its three reads give.

`Sampler.tick` is not unfolded outside this module. The lemmas here say of each part of a tick what
it is: when it is over, the sampler after it, the fields of its sample, and what it does when.
-/

namespace NodeTelemetry

/-! ### One read -/

namespace Reading

variable {α : Type}

/-- What a read gives within a limit. One that is not back by then has run out of time. -/
def within (r : Reading α) (limitMs : Nat) : Except ReadFault α :=
  match r.delayMs with
  | some d => if d ≤ limitMs then r.outcome else .error (.timedOut limitMs)
  | none => .error (.timedOut limitMs)

/-- How long a read takes within a limit. -/
def spentMs (r : Reading α) (limitMs : Nat) : Nat :=
  match r.delayMs with
  | some d => min d limitMs
  | none => limitMs

/-- The value that a read gives within a limit, if it does not fail. -/
def value? (r : Reading α) (limitMs : Nat) : Option α := (r.within limitMs).toOption

/-- Whether a read fails within a limit. -/
def fails (r : Reading α) (limitMs : Nat) : Bool := (r.value? limitMs).isNone

/-- A read is over when it has taken its time, whenever it began. -/
theorem settle_eq (r : Reading α) (limitMs startMs : Nat) :
    r.settle limitMs startMs = ⟨startMs + r.spentMs limitMs, r.within limitMs⟩ := by
  unfold settle within spentMs
  cases r.delayMs with
  | none => rfl
  | some d =>
    by_cases h : d ≤ limitMs
    · simp only [h, if_true, Nat.min_eq_left]
    · simp only [h, if_false, Nat.min_eq_right (Nat.le_of_not_le h)]

end Reading

/-- How long the reads of a tick take together. -/
def Readings.spentMs (r : Readings) (limitMs : Nat) : Nat :=
  r.usage.spentMs limitMs + r.disk.spentMs limitMs + r.vmstat.spentMs limitMs

/-- The sources whose reads fail in a tick, in the order in which they are read. -/
def Readings.failed (r : Readings) (limitMs : Nat) : List Source :=
  (if r.usage.fails limitMs then [.usage] else []) ++
    (if r.disk.fails limitMs then [.disk] else []) ++
    (if r.vmstat.fails limitMs then [.vmstat] else [])

/-! ### The parts of an effect -/

namespace Effect

/-- The read that begins with an effect. -/
def call? : Effect → Option Source
  | called source => some source
  | _ => none

/-- The sample that is taken with an effect. -/
def sample? : Effect → Option Sample
  | sampled sample _ _ => some sample
  | _ => none

/-- The sample that is taken with an effect, the sources that failed for it, and whether these are
none and the sample before had some. -/
def report? : Effect → Option (Sample × List Source × Bool)
  | sampled sample failures recovered => some (sample, failures, recovered)
  | _ => none

/-- How long the tick took that is over with an effect, and whether that was the whole interval. -/
def ending? : Effect → Option (Nat × Bool)
  | ended elapsedMs overran => some (elapsedMs, overran)
  | _ => none

/-- The parts of some effects, each with its time. -/
def timed {α : Type} (part : Effect → Option α) (effects : List (Nat × Effect)) : List (Nat × α) :=
  effects.filterMap fun e => (part e.2).map (e.1, ·)

variable {α : Type} (part : Effect → Option α)

@[simp] theorem timed_nil : timed part [] = [] := rfl

theorem timed_cons (e : Nat × Effect) (es : List (Nat × Effect)) :
    timed part (e :: es) = ((part e.2).map (e.1, ·)).toList ++ timed part es := by
  unfold timed
  rw [List.filterMap_cons]
  cases part e.2 <;> rfl

@[simp] theorem timed_append (es fs : List (Nat × Effect)) :
    timed part (es ++ fs) = timed part es ++ timed part fs := List.filterMap_append

/-- The parts without their times. -/
theorem map_snd_timed (es : List (Nat × Effect)) :
    (timed part es).map Prod.snd = (es.map Prod.snd).filterMap part := by
  unfold timed
  rw [List.map_filterMap, List.filterMap_map]
  congr 1
  funext e
  cases h : part e.2 <;> simp [h]

/-- The parts of the effects up to a time are the parts up to that time. -/
theorem timed_filter (untilMs : Nat) (es : List (Nat × Effect)) :
    timed part (es.filter fun e => e.1 ≤ untilMs) =
      (timed part es).filter fun e => e.1 ≤ untilMs := by
  induction es with
  | nil => rfl
  | cons e es ih =>
    rw [timed_cons, List.filter_append, ← ih, List.filter_cons]
    by_cases h : e.1 ≤ untilMs
    · rw [if_pos (decide_eq_true h), timed_cons]
      cases part e.2 <;> simp [h]
    · rw [if_neg (by simpa using h)]
      cases part e.2 <;> simp [h]

theorem timed_flatMap (ticks : List Nat) (effects : Nat → List (Nat × Effect)) :
    timed part (ticks.flatMap effects) = ticks.flatMap fun k => timed part (effects k) :=
  List.filterMap_flatMap

end Effect

/-! ### The parts of a sample -/

/-- The load, memory and swap space of a sample. -/
structure Occupancy where
  /-- The load of the processor in percent. -/
  cpuPercent : Binary
  /-- Memory in use, in MiB. -/
  memUsedMb : UInt64
  /-- Memory in all, in MiB. -/
  memTotalMb : UInt64
  /-- Swap space in use, in MiB. -/
  swapUsedMb : UInt64
  /-- Swap space in all, in MiB. -/
  swapTotalMb : UInt64
  deriving DecidableEq

namespace Occupancy

/-- Nothing known. -/
def zero : Occupancy := ⟨Binary.zero false, 0, 0, 0, 0⟩

/-- The load as it was read, the rest in whole MiB of `2 ^ 20` bytes. -/
def ofReading (u : NodeUsage) : Occupancy :=
  ⟨u.cpuPercent, u.memUsedBytes / 1048576, u.memTotalBytes / 1048576, u.swapUsedBytes / 1048576,
    u.swapTotalBytes / 1048576⟩

end Occupancy

namespace Usage

/-- The fields that come from the read of load, memory and swap space. -/
def occupancy (u : Usage) : Occupancy :=
  ⟨u.cpuPercent, u.memUsedMb, u.memTotalMb, u.swapUsedMb, u.swapTotalMb⟩

/-- The fields that come from the read of the block devices. -/
def diskTotals (u : Usage) : DiskTotals := ⟨u.diskReadBytes, u.diskWriteBytes⟩

/-- The fields that come from the read of the paging counters. -/
def rates (u : Usage) : Rates :=
  ⟨u.pswpin, u.pswpout, u.pgfault, u.pgmajfault, u.pgpgin, u.pgpgout⟩

end Usage

/-! ### One tick -/

namespace Sampler

theorem occupancy_usageOf (u : NodeUsage) (disk : DiskTotals) (rates : Rates) :
    (usageOf u disk rates).occupancy = .ofReading u := rfl

theorem rates_usageOf (u : NodeUsage) (disk : DiskTotals) (rates : Rates) :
    (usageOf u disk rates).rates = rates := rfl

/-- The value of a settled read is the value that the read gives within its limit. -/
theorem valueOr_settle {α : Type} (a : α) (r : Reading α) (limitMs startMs : Nat) :
    valueOr a (r.settle limitMs startMs) = (r.value? limitMs).getD a := by
  rw [Reading.settle_eq]
  unfold valueOr Reading.value?
  cases r.within limitMs <;> rfl

/-- The source of a read is named if the read fails within its limit. -/
theorem failure_settle {α : Type} (source : Source) (r : Reading α) (limitMs startMs : Nat) :
    failure source (r.settle limitMs startMs) = if r.fails limitMs then [source] else [] := by
  rw [Reading.settle_eq]
  unfold failure Reading.fails Reading.value?
  cases r.within limitMs <;> rfl

/-- The rates that follow from the last paging counters, if there are any, and those read now. -/
def ratesSince (previous : Option (Vmstat × Nat)) (current : Option Vmstat) (nowMs : Nat) : Rates :=
  match previous, current with
  | some (snapshot, takenMs), some now => Rates.between snapshot now (.ofMillis (nowMs - takenMs))
  | _, _ => .zero

/-- A read of the paging counters that gives nothing costs the rates, and what was remembered
stays. -/
theorem settleRates_eq (previous : Option (Vmstat × Nat)) (r : Reading Vmstat)
    (limitMs startMs : Nat) :
    settleRates previous (r.settle limitMs startMs) =
      (ratesSince previous (r.value? limitMs) (startMs + r.spentMs limitMs),
        ((r.value? limitMs).map fun v => (v, startMs + r.spentMs limitMs)).or previous) := by
  rw [Reading.settle_eq]
  unfold settleRates Reading.value? ratesSince
  cases r.within limitMs with
  | error fault => cases previous <;> rfl
  | ok current => cases previous <;> rfl

variable (s : Sampler) (clock : Clock) (startMs : Nat) (r : Readings)

/-- A tick is over when its reads are. -/
theorem tick_doneMs :
    (s.tick clock startMs r).doneMs = startMs + r.spentMs s.config.readTimeoutMs := by
  unfold tick Readings.spentMs
  simp only [Reading.settle_eq]
  omega

/-- A tick does not change how the sampler is set up. -/
theorem tick_config : (s.tick clock startMs r).sampler.config = s.config := rfl

/-- A sampler remembers whether the sources have failed. -/
theorem tick_degraded :
    (s.tick clock startMs r).sampler.degraded = !(r.failed s.config.readTimeoutMs).isEmpty := by
  unfold tick Readings.failed
  simp only [failure_settle]

/-- The totals of the block devices are remembered until the next ones are read. -/
theorem tick_lastDisk :
    (s.tick clock startMs r).sampler.lastDisk =
      (r.disk.value? s.config.readTimeoutMs).getD s.lastDisk := by
  rw [← valueOr_settle s.lastDisk r.disk _ (r.usage.settle s.config.readTimeoutMs startMs).doneMs]
  rfl

/-- The paging counters are remembered, with the time at which their read was over, until the next
ones are read. -/
theorem tick_previous :
    (s.tick clock startMs r).sampler.previous =
      ((r.vmstat.value? s.config.readTimeoutMs).map fun v =>
        (v, startMs + r.spentMs s.config.readTimeoutMs)).or s.previous := by
  unfold tick
  simp only [settleRates_eq]
  simp only [Reading.settle_eq, Readings.spentMs, Nat.add_assoc]

/-- A sample shows the load, memory and swap space that were read for it. -/
theorem tick_occupancy :
    (s.tick clock startMs r).sample.usage.occupancy =
      ((r.usage.value? s.config.readTimeoutMs).map Occupancy.ofReading).getD .zero := by
  unfold tick
  simp only [occupancy_usageOf, valueOr_settle]
  cases r.usage.value? s.config.readTimeoutMs <;> rfl

/-- A sample shows the totals of the block devices that are then remembered. -/
theorem tick_diskTotals :
    (s.tick clock startMs r).sample.usage.diskTotals =
      (s.tick clock startMs r).sampler.lastDisk := rfl

/-- A sample shows the rates since the paging counters remembered before it. -/
theorem tick_rates :
    (s.tick clock startMs r).sample.usage.rates =
      ratesSince s.previous (r.vmstat.value? s.config.readTimeoutMs)
        (startMs + r.spentMs s.config.readTimeoutMs) := by
  unfold tick
  simp only [rates_usageOf, settleRates_eq]
  simp only [Reading.settle_eq, Readings.spentMs, Nat.add_assoc]

/-- A read begins, and if it fails, then it does so when it is over. -/
theorem readEffects_eq {α : Type} (source : Source) (r : Reading α) (limitMs startMs : Nat) :
    readEffects source startMs (r.settle limitMs startMs) =
      (startMs, .called source) ::
        (match r.within limitMs with
          | .ok _ => []
          | .error fault => [(startMs + r.spentMs limitMs, .failed source fault)]) := by
  rw [Reading.settle_eq]
  unfold readEffects
  cases r.within limitMs <;> rfl

/-- Nothing of a read is a part but its beginning, if that is one. -/
theorem timed_readEffects {α β : Type} (part : Effect → Option β)
    (hfailed : ∀ source fault, part (.failed source fault) = none) (source : Source)
    (r : Reading α) (limitMs startMs : Nat) :
    Effect.timed part (readEffects source startMs (r.settle limitMs startMs)) =
      ((part (.called source)).map (startMs, ·)).toList := by
  rw [readEffects_eq, Effect.timed_cons]
  cases r.within limitMs with
  | ok a => exact List.append_nil _
  | error fault =>
    rw [Effect.timed_cons, hfailed]
    exact List.append_nil _

/-- What a read does lies between its beginning and its end. -/
theorem time_readEffects {α : Type} (source : Source) (r : Reading α) (limitMs startMs : Nat) :
    ∀ e ∈ readEffects source startMs (r.settle limitMs startMs),
      startMs ≤ e.1 ∧ e.1 ≤ startMs + r.spentMs limitMs := by
  rw [readEffects_eq]
  intro e he
  cases h : r.within limitMs <;> simp only [h, List.mem_cons, List.not_mem_nil, or_false] at he
  · rcases he with rfl | rfl <;> exact ⟨by omega, by omega⟩
  · subst he
    exact ⟨by omega, by omega⟩

/-- A tick does what its reads do, one after the other, and then takes its sample, which tells the
sources that have failed. -/
theorem tick_effects :
    let limitMs := s.config.readTimeoutMs
    let diskMs := startMs + r.usage.spentMs limitMs
    let vmstatMs := diskMs + r.disk.spentMs limitMs
    (s.tick clock startMs r).effects =
      readEffects .usage startMs (r.usage.settle limitMs startMs) ++
        readEffects .disk diskMs (r.disk.settle limitMs diskMs) ++
        readEffects .vmstat vmstatMs (r.vmstat.settle limitMs vmstatMs) ++
        [((s.tick clock startMs r).doneMs,
          .sampled (s.tick clock startMs r).sample (r.failed limitMs)
            ((r.failed limitMs).isEmpty && s.degraded))] := by
  intro limitMs diskMs vmstatMs
  have hdisk : diskMs = (r.usage.settle limitMs startMs).doneMs := by rw [Reading.settle_eq]
  have hvmstat : vmstatMs = (r.disk.settle limitMs diskMs).doneMs := by rw [Reading.settle_eq]
  rw [hvmstat, hdisk]
  unfold tick Readings.failed
  simp only [failure_settle, limitMs]

/-- What a tick does lies between its beginning and its end. -/
theorem time_tick_effects :
    ∀ e ∈ (s.tick clock startMs r).effects,
      startMs ≤ e.1 ∧ e.1 ≤ startMs + r.spentMs s.config.readTimeoutMs := by
  have heffects := tick_effects s clock startMs r
  intro e he
  rw [heffects, tick_doneMs] at he
  unfold Readings.spentMs at he ⊢
  simp only [List.mem_append, List.mem_singleton] at he
  rcases he with ((he | he) | he) | rfl
  · have := time_readEffects _ _ _ _ e he
    omega
  · have := time_readEffects _ _ _ _ e he
    omega
  · have := time_readEffects _ _ _ _ e he
    omega
  · exact ⟨by simp only; omega, by simp only; omega⟩

/-- The reads of a tick begin one after the other, each when the one before is over. -/
theorem timed_call_tick :
    Effect.timed Effect.call? (s.tick clock startMs r).effects =
      [(startMs, .usage), (startMs + r.usage.spentMs s.config.readTimeoutMs, .disk),
        (startMs + r.usage.spentMs s.config.readTimeoutMs + r.disk.spentMs s.config.readTimeoutMs,
          .vmstat)] := by
  have heffects := tick_effects s clock startMs r
  rw [heffects]
  simp only [Effect.timed_append, timed_readEffects Effect.call? fun _ _ => rfl]
  rfl

/-- A tick takes one sample, when it is over. -/
theorem timed_sample_tick :
    Effect.timed Effect.sample? (s.tick clock startMs r).effects =
      [((s.tick clock startMs r).doneMs, (s.tick clock startMs r).sample)] := by
  have heffects := tick_effects s clock startMs r
  rw [heffects]
  simp only [Effect.timed_append, timed_readEffects Effect.sample? fun _ _ => rfl]
  rfl

/-- A tick tells once which sources have failed, when it is over. -/
theorem timed_report_tick :
    Effect.timed Effect.report? (s.tick clock startMs r).effects =
      [((s.tick clock startMs r).doneMs, ((s.tick clock startMs r).sample,
        r.failed s.config.readTimeoutMs,
        (r.failed s.config.readTimeoutMs).isEmpty && s.degraded))] := by
  have heffects := tick_effects s clock startMs r
  rw [heffects]
  simp only [Effect.timed_append, timed_readEffects Effect.report? fun _ _ => rfl]
  rfl

/-- That a tick of a run is over is not part of the tick. -/
theorem timed_ending_tick :
    Effect.timed Effect.ending? (s.tick clock startMs r).effects = [] := by
  have heffects := tick_effects s clock startMs r
  rw [heffects]
  simp only [Effect.timed_append, timed_readEffects Effect.ending? fun _ _ => rfl]
  rfl

end Sampler

end NodeTelemetry
