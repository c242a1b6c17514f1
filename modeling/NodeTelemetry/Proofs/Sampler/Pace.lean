import Mathlib.Data.Set.Card
import Mathlib.Order.Interval.Finset.Nat
import NodeTelemetry.Proofs.History
import NodeTelemetry.Proofs.Sampler.Ticks

/-!
# The pace of a run

A run takes tick after tick. When each of them begins and ends follows from the interval and from how
long the reads take: a tick that is over within the interval is followed by a pause for the rest of
it, a longer one at once by the next tick (`beganMs`, `endedMs`). The sampler, its clock and what the
reads give have no part in this.

What a run does up to a time is then the effects of all its ticks, in order, as far as they lie
before that time (`run_eq`). The induction is on the number of ticks that the run is followed
through. It stops at the first tick that begins too late, which loses nothing: every later tick
begins later still (`beganMs_mono`), and no tick does anything before it begins.

As each tick takes one sample and notes its time once, at its end, both can be counted by counting
the ticks that are over.
-/

namespace NodeTelemetry

/-! ### Filtering -/

/-- The first numbers with a property that is lost for good are as many as there are. -/
theorem filter_range_eq {p : Nat → Prop} [DecidablePred p] {bound : Nat}
    (hdown : ∀ j k, j ≤ k → p k → p j) (hbound : ∀ k, p k → k < bound) :
    (List.range bound).filter p = List.range (Set.ncard {k | p k}) := by
  have hex : ∃ m, ¬ p m := ⟨bound, fun h => Nat.lt_irrefl _ (hbound _ h)⟩
  have hiff (k : Nat) : p k ↔ k < Nat.find hex := by
    rw [Nat.lt_find_iff]
    exact ⟨fun h j hj => not_not_intro (hdown j k hj h), fun h => not_not.mp (h k (Nat.le_refl k))⟩
  have hle : Nat.find hex ≤ bound := Nat.find_min' hex fun h => Nat.lt_irrefl _ (hbound _ h)
  generalize Nat.find hex = m at hiff hle
  have hset : {k | p k} = ↑(Finset.range m) := by
    ext k
    rw [Finset.mem_coe, Finset.mem_range]
    exact hiff k
  rw [hset, Set.ncard_coe_finset, Finset.card_range]
  obtain ⟨rest, rfl⟩ := Nat.exists_eq_add_of_le hle
  rw [List.range_add, List.filter_append, List.filter_eq_self.mpr, List.filter_eq_nil_iff.mpr,
    List.append_nil]
  · intro k hk
    rw [List.mem_map] at hk
    obtain ⟨j, -, rfl⟩ := hk
    simp [hiff]
  · intro k hk
    simpa [hiff] using hk

/-- Entries all of whose items are filtered out can be left out before. -/
theorem filter_flatMap_filter {α β : Type} {f : α → List β} {p : β → Bool} {q : α → Bool}
    (h : ∀ a, q a = false → ∀ b ∈ f a, p b = false) (as : List α) :
    ((as.filter q).flatMap f).filter p = (as.flatMap f).filter p := by
  induction as with
  | nil => rfl
  | cons a as ih =>
    rw [List.flatMap_cons, List.filter_append, ← ih, List.filter_cons]
    cases hq : q a with
    | true => rw [if_pos rfl, List.flatMap_cons, List.filter_append]
    | false =>
      have hnone : (f a).filter p = [] := by
        rw [List.filter_eq_nil_iff]
        intro b hb
        rw [h a hq b hb]
        exact Bool.false_ne_true
      rw [hnone, List.nil_append, if_neg Bool.false_ne_true]

/-! ### What the effects leave -/

namespace Store

/-- Nothing but taking a sample touches the samples. -/
theorem applyAll_samples (store : Store) (es : List (Nat × Effect)) :
    (store.applyAll (es.map Prod.snd)).samples =
      store.samples.appendAll ((Effect.timed Effect.sample? es).map Prod.snd) := by
  induction es generalizing store with
  | nil => rfl
  | cons e es ih =>
    obtain ⟨time, effect⟩ := e
    rw [Effect.timed_cons, List.map_append]
    refine (ih (store.apply effect)).trans ?_
    cases effect <;> rfl

/-- Each sample counts once. -/
theorem applyAll_count (store : Store) (es : List (Nat × Effect)) :
    (store.applyAll (es.map Prod.snd)).metrics.samples =
      store.metrics.samples + (Effect.timed Effect.sample? es).length := by
  induction es generalizing store with
  | nil => rfl
  | cons e es ih =>
    obtain ⟨time, effect⟩ := e
    have hone : (store.apply effect).metrics.samples =
        store.metrics.samples + (effect.sample?.map (time, ·)).toList.length := by
      cases effect with
      | failed source fault => cases source <;> rfl
      | called | sampled | ended => rfl
    rw [Effect.timed_cons, List.length_append, ← Nat.add_assoc, ← hone]
    exact ih (store.apply effect)

/-- Nothing but the end of a tick touches the observed times. -/
theorem applyAll_latency (store : Store) (es : List (Nat × Effect)) :
    (store.applyAll (es.map Prod.snd)).metrics.latency =
      ((Effect.timed Effect.ending? es).map fun e => (Time.Span.ofMillis e.2.1).seconds).foldl
        .observe store.metrics.latency := by
  induction es generalizing store with
  | nil => rfl
  | cons e es ih =>
    rw [Effect.timed_cons, List.map_append, List.foldl_append]
    refine (ih (store.apply e.2)).trans ?_
    obtain ⟨time, effect⟩ := e
    congr 1
    cases effect with
    | failed source fault => cases source <;> rfl
    | called | sampled | ended => rfl

end Store

/-- Each time that is observed counts once. -/
theorem Metrics.Histogram.total_foldl_observe (h : Metrics.Histogram) (times : List Binary) :
    (times.foldl .observe h).total = h.total + times.length := by
  induction times generalizing h with
  | nil => rfl
  | cons time times ih =>
    rw [List.foldl_cons, ih, List.length_cons]
    show h.total + 1 + _ = _
    omega

namespace Sampler

/-! ### When ticks begin and end -/

section Times

variable (config : Config) (startMs : Nat) (readings : Nat → Readings)

/-- When a tick of a run begins: the first one with the run, every later one an interval after the
one before it began, or when that one is over if it takes longer. -/
def beganMs : Nat → Nat
  | 0 => startMs
  | k + 1 => beganMs k + max config.intervalMs ((readings k).spentMs config.readTimeoutMs)

/-- When a tick of a run is over. -/
def endedMs (k : Nat) : Nat :=
  beganMs config startMs readings k + (readings k).spentMs config.readTimeoutMs

/-- After a tick comes a pause for the rest of the interval, if there is one. -/
theorem beganMs_succ (k : Nat) :
    beganMs config startMs readings (k + 1) =
      endedMs config startMs readings k +
        (config.intervalMs - (readings k).spentMs config.readTimeoutMs) := by
  show _ + max _ _ = _ + _ + _
  omega

theorem beganMs_le_endedMs (k : Nat) :
    beganMs config startMs readings k ≤ endedMs config startMs readings k := Nat.le_add_right _ _

/-- A tick is over before the next one begins. -/
theorem endedMs_le_beganMs_succ (k : Nat) :
    endedMs config startMs readings k ≤ beganMs config startMs readings (k + 1) := by
  rw [beganMs_succ]
  exact Nat.le_add_right _ _

theorem beganMs_mono : Monotone (beganMs config startMs readings) :=
  monotone_nat_of_le_succ fun k =>
    Nat.le_trans (beganMs_le_endedMs config startMs readings k)
      (endedMs_le_beganMs_succ config startMs readings k)

theorem endedMs_mono : Monotone (endedMs config startMs readings) :=
  monotone_nat_of_le_succ fun k =>
    Nat.le_trans (endedMs_le_beganMs_succ config startMs readings k)
      (beganMs_le_endedMs config startMs readings (k + 1))

variable {config}

/-- With an interval of a millisecond or more a tick begins so many milliseconds after the run as
there are ticks before it, or later. -/
theorem add_le_beganMs (hinterval : 0 < config.intervalMs) (k : Nat) :
    startMs + k ≤ beganMs config startMs readings k := by
  induction k with
  | zero => exact Nat.le_refl _
  | succ k ih =>
    have hmax := Nat.le_max_left config.intervalMs ((readings k).spentMs config.readTimeoutMs)
    show _ ≤ _ + max _ _
    omega

end Times

/-! ### The ticks of a run -/

section Run

variable (s : Sampler) (clock : Clock) (startMs : Nat) (readings : Nat → Readings)

/-- The sampler before a tick of a run. -/
def samplerAt : Nat → Sampler
  | 0 => s
  | k + 1 =>
    ((samplerAt k).tick clock (beganMs s.config startMs readings k) (readings k)).sampler

/-- A tick of a run. -/
def tickAt (k : Nat) : Tick :=
  (s.samplerAt clock startMs readings k).tick clock (beganMs s.config startMs readings k)
    (readings k)

/-- What a tick of a run is noted with when it is over. -/
def endingAt (k : Nat) : Nat × Bool :=
  ((readings k).spentMs s.config.readTimeoutMs,
    decide (s.config.intervalMs ≤ (readings k).spentMs s.config.readTimeoutMs))

/-- The reads of a tick of a run, and when each of them begins. -/
def callsAt (k : Nat) : List (Nat × Source) :=
  let began := beganMs s.config startMs readings k
  let usage := (readings k).usage.spentMs s.config.readTimeoutMs
  let disk := (readings k).disk.spentMs s.config.readTimeoutMs
  [(began, .usage), (began + usage, .disk), (began + usage + disk, .vmstat)]

/-- What a tick of a run does, the note of its time included. -/
def effectsAt (k : Nat) : List (Nat × Effect) :=
  (s.tickAt clock startMs readings k).effects ++
    [(endedMs s.config startMs readings k,
      .ended (s.endingAt readings k).1 (s.endingAt readings k).2)]

theorem samplerAt_config (k : Nat) : (s.samplerAt clock startMs readings k).config = s.config := by
  induction k with
  | zero => rfl
  | succ k ih => rw [samplerAt, tick_config, ih]

theorem tickAt_doneMs (k : Nat) :
    (s.tickAt clock startMs readings k).doneMs = endedMs s.config startMs readings k := by
  unfold tickAt endedMs
  rw [tick_doneMs, samplerAt_config]

/-- What a tick of a run does lies between its beginning and its end. -/
theorem time_effectsAt (k : Nat) :
    ∀ e ∈ s.effectsAt clock startMs readings k,
      beganMs s.config startMs readings k ≤ e.1 ∧ e.1 ≤ endedMs s.config startMs readings k := by
  intro e he
  unfold effectsAt tickAt at he
  rw [List.mem_append, List.mem_singleton] at he
  rcases he with he | rfl
  · have hin := time_tick_effects _ _ _ _ e he
    rwa [samplerAt_config] at hin
  · exact ⟨beganMs_le_endedMs _ _ _ k, Nat.le_refl _⟩

/-- One tick of a run, and the run from the next one on. -/
theorem runEffects_succ (untilMs fuel k : Nat)
    (h : beganMs s.config startMs readings k ≤ untilMs) :
    runEffects clock untilMs readings (fuel + 1) (s.samplerAt clock startMs readings k) k
        (beganMs s.config startMs readings k) =
      s.effectsAt clock startMs readings k ++
        runEffects clock untilMs readings fuel (s.samplerAt clock startMs readings (k + 1)) (k + 1)
          (beganMs s.config startMs readings (k + 1)) := by
  have hdone := tickAt_doneMs s clock startMs readings k
  have helapsed : endedMs s.config startMs readings k - beganMs s.config startMs readings k =
      (readings k).spentMs s.config.readTimeoutMs := Nat.add_sub_cancel_left _ _
  unfold tickAt at hdone
  unfold effectsAt endingAt tickAt
  rw [runEffects, if_neg (Nat.not_lt.mpr h)]
  simp only [hdone, helapsed, samplerAt_config, List.append_assoc, List.singleton_append]
  rfl

/-- A run that is followed up to a time does what its ticks do up to that time. -/
theorem filter_runEffects (untilMs fuel k : Nat) :
    (runEffects clock untilMs readings fuel (s.samplerAt clock startMs readings k) k
        (beganMs s.config startMs readings k)).filter (fun e => e.1 ≤ untilMs) =
      ((List.range' k fuel).flatMap (s.effectsAt clock startMs readings)).filter
        (fun e => e.1 ≤ untilMs) := by
  induction fuel generalizing k with
  | zero => rfl
  | succ fuel ih =>
    by_cases h : beganMs s.config startMs readings k ≤ untilMs
    · rw [runEffects_succ _ _ _ _ _ _ _ h, List.range'_succ, List.flatMap_cons, List.filter_append,
        List.filter_append, ih]
    · -- No tick from here on does anything before it begins, and this one begins too late.
      rw [runEffects, if_pos (Nat.lt_of_not_le h), List.filter_nil, eq_comm,
        List.filter_eq_nil_iff]
      intro e he
      rw [List.mem_flatMap] at he
      obtain ⟨j, hj, he⟩ := he
      have hkj : k ≤ j := (List.mem_range'_1.mp hj).1
      have hbegan := beganMs_mono s.config startMs readings hkj
      have htime := (time_effectsAt s clock startMs readings j e he).1
      simp only [decide_eq_true_eq]
      omega

/-- What a run does up to a time, tick by tick. -/
theorem run_eq (untilMs : Nat) :
    s.run clock startMs untilMs readings =
      ((List.range (untilMs - startMs + 1)).flatMap (s.effectsAt clock startMs readings)).filter
        (fun e => e.1 ≤ untilMs) := by
  rw [List.range_eq_range']
  exact filter_runEffects s clock startMs readings untilMs _ 0

/-! ### What can be counted -/

theorem timed_call_effectsAt (k : Nat) :
    Effect.timed Effect.call? (s.effectsAt clock startMs readings k) =
      s.callsAt startMs readings k := by
  unfold effectsAt tickAt callsAt
  rw [Effect.timed_append, timed_call_tick, samplerAt_config]
  exact List.append_nil _

theorem timed_sample_effectsAt (k : Nat) :
    Effect.timed Effect.sample? (s.effectsAt clock startMs readings k) =
      [(endedMs s.config startMs readings k, (s.tickAt clock startMs readings k).sample)] := by
  rw [← tickAt_doneMs s clock]
  unfold effectsAt tickAt
  rw [Effect.timed_append, timed_sample_tick]
  exact List.append_nil _

theorem timed_ending_effectsAt (k : Nat) :
    Effect.timed Effect.ending? (s.effectsAt clock startMs readings k) =
      [(endedMs s.config startMs readings k, s.endingAt readings k)] := by
  unfold effectsAt tickAt
  rw [Effect.timed_append, timed_ending_tick]
  rfl

variable {s} (hinterval : 0 < s.config.intervalMs)
include hinterval

/-- The ticks that begin by a time are the first ones, as many as there are. -/
theorem filter_beganMs (untilMs : Nat) :
    (List.range (untilMs - startMs + 1)).filter
        (fun k => beganMs s.config startMs readings k ≤ untilMs) =
      List.range (Set.ncard {k | beganMs s.config startMs readings k ≤ untilMs}) := by
  refine filter_range_eq (fun j k hjk hk => ?_) fun k hk => ?_
  · exact Nat.le_trans (beganMs_mono s.config startMs readings hjk) hk
  · have hbegan := add_le_beganMs startMs readings hinterval k
    omega

/-- The ticks that are over by a time are the first ones, as many as there are. -/
theorem filter_endedMs (untilMs : Nat) :
    (List.range (untilMs - startMs + 1)).filter
        (fun k => endedMs s.config startMs readings k ≤ untilMs) =
      List.range (Set.ncard {k | endedMs s.config startMs readings k ≤ untilMs}) := by
  refine filter_range_eq (fun j k hjk hk => ?_) fun k hk => ?_
  · exact Nat.le_trans (endedMs_mono s.config startMs readings hjk) hk
  · have hbegan := add_le_beganMs startMs readings hinterval k
    have hended := beganMs_le_endedMs s.config startMs readings k
    omega

/-- What every tick has once, at its end, a run has once for each tick that is over. -/
theorem timed_run {α : Type} {part : Effect → Option α} {value : Nat → α}
    (hpart : ∀ k, Effect.timed part (s.effectsAt clock startMs readings k) =
      [(endedMs s.config startMs readings k, value k)]) (untilMs : Nat) :
    Effect.timed part (s.run clock startMs untilMs readings) =
      (List.range (Set.ncard {k | endedMs s.config startMs readings k ≤ untilMs})).map fun k =>
        (endedMs s.config startMs readings k, value k) := by
  rw [run_eq, Effect.timed_filter, Effect.timed_flatMap, ← filter_endedMs startMs readings hinterval]
  simp only [hpart, ← List.map_eq_flatMap, List.filter_map]
  rfl

/-- A run does what the ticks do that have begun, as far as they are. -/
theorem run_eq_begun (untilMs : Nat) :
    s.run clock startMs untilMs readings =
      ((List.range (Set.ncard {k | beganMs s.config startMs readings k ≤ untilMs})).flatMap
        (s.effectsAt clock startMs readings)).filter fun e => e.1 ≤ untilMs := by
  rw [run_eq, ← filter_beganMs startMs readings hinterval, filter_flatMap_filter]
  intro k hk e he
  have htime := (time_effectsAt s clock startMs readings k e he).1
  simp only [decide_eq_false_iff_not] at hk ⊢
  omega

/-- The reads of a run are those of the ticks that have begun, as far as they have begun. -/
theorem timed_call_run (untilMs : Nat) :
    Effect.timed Effect.call? (s.run clock startMs untilMs readings) =
      ((List.range (Set.ncard {k | beganMs s.config startMs readings k ≤ untilMs})).flatMap
        (s.callsAt startMs readings)).filter fun e => e.1 ≤ untilMs := by
  rw [run_eq_begun clock startMs readings hinterval, Effect.timed_filter, Effect.timed_flatMap]
  simp only [timed_call_effectsAt]

end Run

/-- **Ticks follow each other at the pace of the interval, and none is left out or begins before the
one before it is over.** The first tick begins with the run. Each one takes as long as its three
reads, a read taking at most its limit and that long if it never comes back; the next one begins
exactly an interval after it began, or when it is over if it takes longer. What a run with an interval
of at least a millisecond has done by any time is what these ticks have done by then: the reads have
begun one after the other in each tick that has begun, and each tick that is over has taken one
sample and noted its time once, at its end. So the samples counted and kept and the times observed
since the run began are as many as the ticks that are over. -/
theorem run_keeps_pace (s : Sampler) (hinterval : 0 < s.config.intervalMs) (clock : Clock)
    (startMs : Nat) (readings : Nat → Readings) :
    let began := beganMs s.config startMs readings
    let ended := endedMs s.config startMs readings
    let spent := fun k => (readings k).spentMs s.config.readTimeoutMs
    (began 0 = startMs ∧ ∀ k, ended k = began k + spent k ∧ ended k ≤ began (k + 1) ∧
      began (k + 1) = began k + max s.config.intervalMs (spent k)) ∧
    ∀ (untilMs : Nat) (store : Store),
      let effects := s.run clock startMs untilMs readings
      let after := store.applyAll (effects.map Prod.snd)
      let n := Set.ncard {k | ended k ≤ untilMs}
      let sample := fun k => (s.tickAt clock startMs readings k).sample
      Effect.timed Effect.call? effects =
          ((List.range (Set.ncard {k | began k ≤ untilMs})).flatMap
            (s.callsAt startMs readings)).filter (fun e => e.1 ≤ untilMs) ∧
        Effect.timed Effect.sample? effects = (List.range n).map (fun k => (ended k, sample k)) ∧
        Effect.timed Effect.ending? effects = (List.range n).map (fun k =>
          (ended k, spent k, decide (s.config.intervalMs ≤ spent k))) ∧
        after.samples = store.samples.appendAll ((List.range n).map sample) ∧
        after.metrics.samples = store.metrics.samples + n ∧
        after.metrics.latency = ((List.range n).map fun k =>
          (Time.Span.ofMillis (spent k)).seconds).foldl .observe store.metrics.latency ∧
        after.metrics.latency.total = store.metrics.latency.total + n := by
  intro began ended spent
  refine ⟨⟨rfl, fun k => ⟨rfl, endedMs_le_beganMs_succ _ _ _ k, rfl⟩⟩, ?_⟩
  intro untilMs store effects after n sample
  have hcalls := timed_call_run clock startMs readings hinterval untilMs
  have hsample : Effect.timed Effect.sample? effects = _ :=
    timed_run clock startMs readings hinterval (timed_sample_effectsAt s clock startMs readings)
      untilMs
  have hending : Effect.timed Effect.ending? effects = _ :=
    timed_run clock startMs readings hinterval (timed_ending_effectsAt s clock startMs readings)
      untilMs
  have hlatency : after.metrics.latency = ((List.range n).map fun k =>
      (Time.Span.ofMillis (spent k)).seconds).foldl .observe store.metrics.latency := by
    rw [store.applyAll_latency, hending, List.map_map]
    rfl
  refine ⟨hcalls, hsample, hending, ?_, ?_, hlatency, ?_⟩
  · rw [store.applyAll_samples, hsample, List.map_map]
    rfl
  · rw [store.applyAll_count, hsample, List.length_map, List.length_range]
  · rw [hlatency, Metrics.Histogram.total_foldl_observe, List.length_map, List.length_range]

/-- Reads that are slow in the second tick, hang in the third one and take exactly an interval in the
fourth one. -/
def mixedReadings (k : Nat) : Readings :=
  let delayMs := match k with
    | 1 => some 1500
    | 2 => none
    | 3 => some 1000
    | _ => some 0
  ⟨⟨delayMs, .ok .zero⟩, .ready .zero, .ready []⟩

/-- Three of these ticks are over after five seconds, the last of them after its limit of two
seconds; the next one began with its end. -/
theorem run_keeps_pace_mixed :
    let config : Config := ⟨1000, 2000⟩
    0 < config.intervalMs ∧
      Set.ncard {k | endedMs config 0 mixedReadings k ≤ 5000} = 3 ∧
      endedMs config 0 mixedReadings 2 = 4500 ∧ beganMs config 0 mixedReadings 3 = 4500 ∧
      Effect.timed Effect.ending?
          ((start config "a").run (fun _ => default) 0 5000 mixedReadings) =
        [(0, 0, false), (2500, 1500, true), (4500, 2000, true)] := by
  have hpace := run_keeps_pace (start ⟨1000, 2000⟩ "a") (by decide) (fun _ => default) 0
    mixedReadings
  obtain ⟨-, -, hending, -, hcount, -⟩ := hpace.2 5000 (.empty 1)
  have hthree : ((Store.empty 1).applyAll (((start ⟨1000, 2000⟩ "a").run (fun _ => default) 0 5000
      mixedReadings).map Prod.snd)).metrics.samples = 3 := by decide +kernel
  have hn : Set.ncard {k | endedMs ⟨1000, 2000⟩ 0 mixedReadings k ≤ 5000} = 3 :=
    (Nat.zero_add _).symm.trans (hcount.symm.trans hthree)
  refine ⟨by decide, hn, rfl, rfl, hending.trans ?_⟩
  show (List.range (Set.ncard {k | endedMs ⟨1000, 2000⟩ 0 mixedReadings k ≤ 5000})).map _ = _
  rw [hn]
  rfl

end Sampler

end NodeTelemetry
