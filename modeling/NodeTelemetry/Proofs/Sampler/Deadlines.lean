import Mathlib.Data.ENat.Lattice
import NodeTelemetry.Proofs.Sampler.Accounting

/-!
# One tick within its limits

A read may take any time, even forever, and a tick waits for none of its reads longer than the limit.
With the time of a read in `ℕ∞` (`Reading.delay`) the time that a tick spends on it is the smaller
one of this time and the limit (`Reading.coe_spentMs`), whatever becomes of the read. So no case of
values, faults, delays and reads that hang is left out, and none has to be told apart from the others
to say when the next read begins.

A read counts as failed in two ways only (`Reading.FailsBy`). That the two are all is
`Reading.fails_iff`.
-/

namespace NodeTelemetry

/-! ### One read -/

namespace Reading

variable {α : Type} (r : Reading α) (limitMs : Nat)

/-- How long a read takes if nothing stops it. One that never comes back takes forever. -/
def delay : ℕ∞ := r.delayMs.elim ⊤ Nat.cast

/-- The two ways in which a read fails within a limit. -/
inductive FailsBy : Prop where
  /-- It is back in time, with a fault. -/
  | fault (e : ReadFault) (inTime : r.delay ≤ limitMs) (outcome : r.outcome = .error e)
  /-- It is not back in time. -/
  | late (h : (limitMs : ℕ∞) < r.delay)

/-- A read takes its time, but no longer than the limit. -/
theorem coe_spentMs : (r.spentMs limitMs : ℕ∞) = min r.delay limitMs := by
  unfold spentMs delay
  cases r.delayMs with
  | none => exact (min_eq_right le_top).symm
  | some d => exact Monotone.map_min Nat.mono_cast

theorem spentMs_le : r.spentMs limitMs ≤ limitMs := by
  rw [← Nat.cast_le (α := ℕ∞), coe_spentMs]
  exact min_le_right _ _

/-- What a read gives that is back in time. -/
theorem within_of_le (h : r.delay ≤ limitMs) : r.within limitMs = r.outcome := by
  unfold within delay at *
  cases hdelay : r.delayMs with
  | none =>
    rw [hdelay] at h
    exact absurd h (not_le_of_gt (ENat.natCast_lt_top limitMs))
  | some d =>
    rw [hdelay] at h
    exact if_pos (Nat.cast_le.mp h)

/-- What a read gives that is not back in time. -/
theorem within_of_lt (h : (limitMs : ℕ∞) < r.delay) :
    r.within limitMs = .error (.timedOut limitMs) := by
  unfold within delay at *
  cases hdelay : r.delayMs with
  | none => rfl
  | some d =>
    rw [hdelay] at h
    exact if_neg (Nat.not_le_of_lt (Nat.cast_lt.mp h))

/-- A read fails if and only if it fails in one of the two ways. -/
theorem fails_iff : r.fails limitMs = true ↔ r.FailsBy limitMs := by
  unfold fails value?
  rcases le_or_gt r.delay limitMs with h | h
  · rw [within_of_le r limitMs h]
    cases houtcome : r.outcome with
    | error e => exact iff_of_true rfl (.fault e h houtcome)
    | ok a =>
      refine iff_of_false Bool.false_ne_true ?_
      rintro (⟨e, -, hfault⟩ | hlate)
      · rw [houtcome] at hfault
        cases hfault
      · exact absurd h (not_le_of_gt hlate)
  · rw [within_of_lt r limitMs h]
    exact iff_of_true rfl (.late h)

/-- A read that fails is noted once, for its source only. -/
theorem countP_failures (source other : Source) (startMs : Nat) :
    ((r.failures source limitMs startMs).map Prod.snd).countP (·.source = other) =
      if r.fails limitMs ∧ source = other then 1 else 0 := by
  unfold failures fails value?
  cases r.within limitMs with
  | ok a => rw [if_neg (by simp [Except.toOption])]; rfl
  | error fault => simp [Except.toOption, List.countP_cons]

end Reading

/-! ### The three reads -/

namespace Readings

/-- How long the read of a source takes if nothing stops it. -/
def delay (r : Readings) : Source → ℕ∞
  | .usage => r.usage.delay
  | .disk => r.disk.delay
  | .vmstat => r.vmstat.delay

/-- The read of a source fails within a limit. -/
def FailsBy (r : Readings) (limitMs : Nat) : Source → Prop
  | .usage => r.usage.FailsBy limitMs
  | .disk => r.disk.FailsBy limitMs
  | .vmstat => r.vmstat.FailsBy limitMs

/-- The reads of a tick that are noted as failed for a source: one if its read fails, and else
none. -/
theorem countP_failures (r : Readings) (limitMs startMs : Nat) (source : Source) :
    (r.FailsBy limitMs source →
      ((r.failures limitMs startMs).map Prod.snd).countP (·.source = source) = 1) ∧
    (¬r.FailsBy limitMs source →
      ((r.failures limitMs startMs).map Prod.snd).countP (·.source = source) = 0) := by
  unfold failures
  simp only [List.map_append, List.countP_append, Reading.countP_failures]
  cases source <;> simp +contextual [FailsBy, ← Reading.fails_iff]

end Readings

/-! ### One tick -/

namespace Sampler

/-- **A tick keeps to its limits, whatever its source does.** Whatever a sampler remembers and however
its three reads turn out, let each wait be the time of its read, forever if it never comes back, but
no longer than the limit. Then

* the tick is over after the three waits, so after three times the limit at most;
* it makes each read once, load and memory first, then the block devices, then the paging counters,
  each when the wait for the one before is over;
* it counts one failed read for a source whose read came back in time with a fault or was not back in
  time, and none for any other source;
* it takes one sample, at its end, and this is the sample that it gives: the history gets it and
  nothing else, and it is counted. -/
theorem tick_keeps_limits (s : Sampler) (clock : Clock) (startMs : Nat) (r : Readings)
    (store : Store) :
    let limitMs := s.config.readTimeoutMs
    let t := s.tick clock startMs r
    let after := store.applyAll (t.effects.map Prod.snd)
    let wait := fun source => min (r.delay source) limitMs
    ((t.doneMs : ℕ∞) = startMs + wait .usage + wait .disk + wait .vmstat ∧
      t.doneMs ≤ startMs + 3 * limitMs) ∧
    (Effect.timed Effect.call? t.effects).map (fun c => ((c.1 : ℕ∞), c.2)) =
      [((startMs : ℕ∞), .usage), (startMs + wait .usage, .disk),
        (startMs + wait .usage + wait .disk, .vmstat)] ∧
    (∀ source,
      (r.FailsBy limitMs source →
        after.metrics.readErrors source = store.metrics.readErrors source + 1) ∧
      (¬r.FailsBy limitMs source →
        after.metrics.readErrors source = store.metrics.readErrors source)) ∧
    Effect.timed Effect.sample? t.effects = [(t.doneMs, t.sample)] ∧
    after.samples = store.samples.append t.sample ∧
    after.metrics.samples = store.metrics.samples + 1 := by
  intro limitMs t after wait
  have hdone : t.doneMs = startMs + r.spentMs limitMs := tick_doneMs s clock startMs r
  have husage : (r.usage.spentMs limitMs : ℕ∞) = wait .usage := r.usage.coe_spentMs limitMs
  have hdisk : (r.disk.spentMs limitMs : ℕ∞) = wait .disk := r.disk.coe_spentMs limitMs
  have hvmstat : (r.vmstat.spentMs limitMs : ℕ∞) = wait .vmstat := r.vmstat.coe_spentMs limitMs
  have hsample : Effect.timed Effect.sample? t.effects = [(t.doneMs, t.sample)] :=
    timed_sample_tick s clock startMs r
  have haccounts := Store.accounts_applyAll s.node store t.effects
  rw [hsample, timed_failure_tick] at haccounts
  refine ⟨⟨?_, ?_⟩, ?_, fun source => ?_, hsample, haccounts.kept, haccounts.counted⟩
  · rw [hdone, Readings.spentMs, ← husage, ← hdisk, ← hvmstat, ← Nat.add_assoc, ← Nat.add_assoc]
    push_cast
    rfl
  · have husageLe := r.usage.spentMs_le limitMs
    have hdiskLe := r.disk.spentMs_le limitMs
    have hvmstatLe := r.vmstat.spentMs_le limitMs
    rw [hdone, Readings.spentMs]
    omega
  · rw [timed_call_tick, ← husage, ← hdisk]
    simp only [List.map_cons, List.map_nil, Nat.cast_add]
    rfl
  · obtain ⟨hfails, hgood⟩ := r.countP_failures limitMs startMs source
    refine ⟨fun h => ?_, fun h => ?_⟩
    · rw [← hfails h]
      exact haccounts.errors source
    · exact (haccounts.errors source).trans (congrArg _ (hgood h))

/-- A sampler with a limit of two milliseconds reads load and memory in exactly two, its block devices
never come back, and its counters come back with a fault after one: the tick is over after five. With
no time at all for its reads it makes them all at once, and only what is there at once counts. -/
theorem tick_keeps_limits_mixed :
    let r : Readings := ⟨⟨some 2, .ok .zero⟩, ⟨none, .ok .zero⟩, ⟨some 1, .error (.other ["a"])⟩⟩
    let counted := fun limitMs source => ((Store.empty 1).applyAll
      (((start ⟨1, limitMs⟩ "a").tick (fun _ => default) 0 r).effects.map
        Prod.snd)).metrics.readErrors source
    (¬r.FailsBy 2 .usage ∧ r.FailsBy 2 .disk ∧ r.FailsBy 2 .vmstat ∧ r.FailsBy 0 .usage) ∧
      (((start ⟨1, 2⟩ "a").tick (fun _ => default) 0 r).doneMs : ℕ∞) = 5 ∧
      counted 2 .usage = 0 ∧ counted 2 .disk = 1 ∧ counted 2 .vmstat = 1 ∧
      (((start ⟨1, 0⟩ "a").tick (fun _ => default) 0 r).doneMs : ℕ∞) = 0 ∧
      counted 0 .usage = 1 := by
  intro r counted
  have husage : ¬r.FailsBy 2 .usage := fun h =>
    Bool.false_ne_true ((r.usage.fails_iff 2).mpr h)
  have hdisk : r.FailsBy 2 .disk := (r.disk.fails_iff 2).mp rfl
  have hvmstat : r.FailsBy 2 .vmstat := (r.vmstat.fails_iff 2).mp rfl
  have hnone : r.FailsBy 0 .usage := (r.usage.fails_iff 0).mp rfl
  obtain ⟨⟨hdone, -⟩, -, hcounts, -⟩ :=
    tick_keeps_limits (start ⟨1, 2⟩ "a") (fun _ => default) 0 r (.empty 1)
  obtain ⟨⟨hdoneNone, -⟩, -, hcountsNone, -⟩ :=
    tick_keeps_limits (start ⟨1, 0⟩ "a") (fun _ => default) 0 r (.empty 1)
  exact ⟨⟨husage, hdisk, hvmstat, hnone⟩, hdone.trans (by decide), (hcounts .usage).2 husage,
    (hcounts .disk).1 hdisk, (hcounts .vmstat).1 hvmstat, hdoneNone.trans (by decide),
    (hcountsNone .usage).1 hnone⟩

end Sampler

end NodeTelemetry
