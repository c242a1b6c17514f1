import NodeTelemetry.Proofs.Sampler.Ticks

/-!
# What each sample shows

A sampler carries two things from tick to tick: the last totals of the block devices and the last
paging counters with their time. This module says what every sample of a run shows in terms of the
reads alone, however far back the read lies that a field comes from.

## The model

A `Turn` is a wait and the reads of the tick after it; `Sampler.ticks` takes the ticks of a list of
turns. The second account of the same run does not know the sampler: `Turn.finishes` adds up when
each tick is over, `lastDisk` is the last value of the block devices in a list of turns, and
`snapshots` lists the paging counters that were read and when.

The invariant `Remembers` joins the two: after some turns, what the sampler remembers is what the
reads of these turns say. One tick keeps it (`Remembers.tick`), hence every run does
(`remembers_after`), and the fields of a sample follow from what is remembered before its tick
(`sample_of_reads`). That a failing read touches no fields but its own can then be read off.
-/

namespace NodeTelemetry

/-- A wait, and the reads of the tick after it. -/
structure Turn where
  /-- How long nothing happens, in milliseconds. -/
  waitMs : Nat
  /-- The reads of the tick. -/
  readings : Readings

namespace Turn

/-- The load, memory and swap space read in a turn, if that read did not fail. -/
def usage? (limitMs : Nat) (t : Turn) : Option NodeUsage := t.readings.usage.value? limitMs

/-- The totals of the block devices read in a turn, if that read did not fail. -/
def disk? (limitMs : Nat) (t : Turn) : Option DiskTotals := t.readings.disk.value? limitMs

/-- The paging counters read in a turn, if that read did not fail. -/
def vmstat? (limitMs : Nat) (t : Turn) : Option Vmstat := t.readings.vmstat.value? limitMs

/-- When the turn after a time is over. -/
def finish (limitMs nowMs : Nat) (t : Turn) : Nat :=
  nowMs + t.waitMs + t.readings.spentMs limitMs

/-- When all turns after a time are over. -/
def finishAll (limitMs nowMs : Nat) (turns : List Turn) : Nat :=
  turns.foldl (finish limitMs) nowMs

/-- The totals of the block devices that were read last; zero if there are none. -/
def lastDisk (limitMs : Nat) (turns : List Turn) : DiskTotals :=
  (((turns.map (disk? limitMs)).filterMap id).getLast?).getD .zero

/-- The paging counters that were read, each with the time at which its read was over. -/
def snapshots (limitMs : Nat) : (nowMs : Nat) → List Turn → List (Vmstat × Nat)
  | _, [] => []
  | nowMs, t :: ts =>
    let doneMs := t.finish limitMs nowMs
    ((t.vmstat? limitMs).map fun v => (v, doneMs)).toList ++ snapshots limitMs doneMs ts

/-- Turns give their paging counters one after the other. -/
theorem snapshots_append (limitMs nowMs : Nat) (before after : List Turn) :
    snapshots limitMs nowMs (before ++ after) =
      snapshots limitMs nowMs before ++
        snapshots limitMs (finishAll limitMs nowMs before) after := by
  induction before generalizing nowMs with
  | nil => rfl
  | cons t ts ih =>
    simp only [List.cons_append, snapshots, ih, List.append_assoc]
    rfl

/-- Time does not go back. -/
theorem le_finishAll (limitMs nowMs : Nat) (turns : List Turn) :
    nowMs ≤ finishAll limitMs nowMs turns := by
  induction turns generalizing nowMs with
  | nil => exact Nat.le_refl _
  | cons t ts ih =>
    have h : nowMs ≤ t.finish limitMs nowMs := by unfold finish; omega
    exact Nat.le_trans h (ih _)

/-- Every read of some turns is over when the turns are. -/
theorem snapshots_le_finishAll (limitMs nowMs : Nat) (turns : List Turn) :
    ∀ p ∈ snapshots limitMs nowMs turns, p.2 ≤ finishAll limitMs nowMs turns := by
  induction turns generalizing nowMs with
  | nil => simp [snapshots]
  | cons t ts ih =>
    intro p hp
    simp only [snapshots, List.mem_append] at hp
    rcases hp with hp | hp
    · rw [Option.mem_toList, Option.map_eq_some_iff] at hp
      obtain ⟨v, -, rfl⟩ := hp
      exact le_finishAll limitMs _ ts
    · exact ih _ p hp

end Turn

namespace Sampler

open Turn

/-- The ticks of a sampler, turn after turn, from a time on. -/
def ticks (s : Sampler) (clock : Clock) : (nowMs : Nat) → List Turn → List Tick
  | _, [] => []
  | nowMs, t :: ts =>
    let tick := s.tick clock (nowMs + t.waitMs) t.readings
    tick :: tick.sampler.ticks clock tick.doneMs ts

/-- The sampler after some turns. -/
def after (s : Sampler) (clock : Clock) : (nowMs : Nat) → List Turn → Sampler
  | _, [] => s
  | nowMs, t :: ts =>
    let tick := s.tick clock (nowMs + t.waitMs) t.readings
    tick.sampler.after clock tick.doneMs ts

theorem after_cons (s : Sampler) (clock : Clock) (nowMs : Nat) (t : Turn) (ts : List Turn) :
    s.after clock nowMs (t :: ts) =
      (s.tick clock (nowMs + t.waitMs) t.readings).sampler.after clock
        (s.tick clock (nowMs + t.waitMs) t.readings).doneMs ts := rfl

/-- What the sampler remembers after some turns that began at a time is what their reads say. -/
structure Remembers (config : Config) (beganMs : Nat) (turns : List Turn) (s : Sampler) : Prop where
  /-- The sampler is set up as it was. -/
  config_eq : s.config = config
  /-- The last totals of the block devices. -/
  lastDisk_eq : s.lastDisk = Turn.lastDisk config.readTimeoutMs turns
  /-- The last paging counters, and when they were read. -/
  previous_eq : s.previous = (snapshots config.readTimeoutMs beganMs turns).getLast?

variable {config : Config} {beganMs : Nat} {before : List Turn} {s : Sampler} (clock : Clock)

/-- A fresh sampler remembers nothing. -/
theorem remembers_start (config : Config) (node : String) (beganMs : Nat) :
    Remembers config beganMs [] (start config node) := ⟨rfl, rfl, rfl⟩

/-- A tick keeps what is remembered in step with the reads. -/
theorem Remembers.tick (h : Remembers config beganMs before s) (t : Turn) :
    Remembers config beganMs (before ++ [t])
      (s.tick clock (finishAll config.readTimeoutMs beganMs before + t.waitMs)
        t.readings).sampler := by
  obtain ⟨hc, hd, hp⟩ := h
  refine ⟨hc, ?_, ?_⟩
  · rw [tick_lastDisk, hc, hd]
    unfold Turn.lastDisk
    rw [List.map_append, List.filterMap_append, List.getLast?_append]
    simp only [List.map_cons, List.map_nil, List.filterMap_cons, List.filterMap_nil, disk?, id]
    cases t.readings.disk.value? config.readTimeoutMs <;> rfl
  · rw [tick_previous, hc, hp, snapshots_append, List.getLast?_append]
    simp only [snapshots, vmstat?, finish, List.append_nil]
    cases t.readings.vmstat.value? config.readTimeoutMs <;> rfl

/-- So does every run of ticks. -/
theorem remembers_after (h : Remembers config beganMs before s) (turns : List Turn) :
    Remembers config beganMs (before ++ turns)
      (s.after clock (finishAll config.readTimeoutMs beganMs before) turns) := by
  induction turns generalizing before s with
  | nil =>
    rw [List.append_nil]
    exact h
  | cons t ts ih =>
    have hstep := ih (h.tick clock t)
    rw [List.append_assoc] at hstep
    rw [after_cons, tick_doneMs, h.config_eq]
    unfold finishAll at hstep ⊢
    rw [List.foldl_append] at hstep
    exact hstep

/-- The tick of a turn is taken by the sampler after the turns before, when they are over and the
wait is. -/
theorem ticks_getElem? (s : Sampler) (nowMs : Nat) (turns : List Turn) (n : Nat)
    (hn : n < turns.length) :
    (s.ticks clock nowMs turns)[n]? =
      some ((s.after clock nowMs (turns.take n)).tick clock
        (finishAll s.config.readTimeoutMs nowMs (turns.take n) + turns[n].waitMs)
        turns[n].readings) := by
  induction turns generalizing s nowMs n with
  | nil => exact absurd hn (Nat.not_lt_zero n)
  | cons t ts ih =>
    cases n with
    | zero => rfl
    | succ n =>
      have hn' : n < ts.length := Nat.lt_of_succ_lt_succ hn
      simp only [ticks, List.getElem?_cons_succ, ih _ _ n hn', List.take_succ_cons, after,
        List.getElem_cons_succ, tick_config]
      rw [tick_doneMs]
      rfl

/-- The rates of the last of some turns: from the last paging counters read before it to those that
it read itself, if it did. -/
def ratesOf (limitMs beganMs : Nat) (earlier : List Turn) (t : Turn) : Rates :=
  ratesSince (snapshots limitMs beganMs earlier).getLast? (t.vmstat? limitMs)
    (t.finish limitMs (finishAll limitMs beganMs earlier))

/-- Two lists of turns agree on what a source gives for tick number `n`: on the reads that its fields
come from, and for the paging counters also on when these reads were over. -/
def SameReads (limitMs beganMs n : Nat) (turns turns' : List Turn) : Source → Prop
  | .usage => turns[n]?.map (usage? limitMs) = turns'[n]?.map (usage? limitMs)
  | .disk =>
    (turns.take (n + 1)).map (disk? limitMs) = (turns'.take (n + 1)).map (disk? limitMs)
  | .vmstat =>
    (turns.take (n + 1)).map (vmstat? limitMs) = (turns'.take (n + 1)).map (vmstat? limitMs) ∧
      ∀ k ≤ n, finishAll limitMs beganMs (turns.take (k + 1)) =
        finishAll limitMs beganMs (turns'.take (k + 1))

/-- Two samples show the same in the fields of a source. -/
def SameFields (u u' : Usage) : Source → Prop
  | .usage => u.occupancy = u'.occupancy
  | .disk => u.diskTotals = u'.diskTotals
  | .vmstat => u.rates = u'.rates

/-- What the sample of tick number `n` shows, in terms of the reads. -/
theorem sample_of_reads (config : Config) (node : String) (beganMs : Nat) (turns : List Turn)
    (n : Nat) (hn : n < turns.length) :
    ∃ t, ((start config node).ticks clock beganMs turns)[n]? = some t ∧
      t.doneMs = turns[n].finish config.readTimeoutMs
        (finishAll config.readTimeoutMs beganMs (turns.take n)) ∧
      t.sample.usage.occupancy =
        ((turns[n].usage? config.readTimeoutMs).map Occupancy.ofReading).getD .zero ∧
      t.sample.usage.diskTotals = Turn.lastDisk config.readTimeoutMs (turns.take (n + 1)) ∧
      t.sample.usage.rates =
        ratesOf config.readTimeoutMs beganMs (turns.take n) turns[n] := by
  have h : Remembers config beganMs (turns.take n)
      ((start config node).after clock beganMs (turns.take n)) :=
    remembers_after clock (remembers_start config node beganMs) (turns.take n)
  refine ⟨_, ticks_getElem? clock (start config node) beganMs turns n hn, ?_, ?_, ?_, ?_⟩
  · rw [tick_doneMs, h.config_eq]
    rfl
  · rw [tick_occupancy, h.config_eq]
    rfl
  · have hnext := (h.tick clock turns[n]).lastDisk_eq
    rw [List.take_append_getElem hn] at hnext
    rw [tick_diskTotals]
    exact hnext
  · rw [tick_rates, h.config_eq, h.previous_eq]
    rfl

/-- The rates of a turn, if it read its counters and counters had been read before: those between
the two, over the time that lies between the ends of the two reads. -/
theorem ratesOf_of_some {limitMs : Nat} {earlier : List Turn} {t : Turn} {now snapshot : Vmstat}
    {takenMs : Nat} (hnow : t.vmstat? limitMs = some now)
    (hlast : (snapshots limitMs beganMs earlier).getLast? = some (snapshot, takenMs)) :
    takenMs ≤ t.finish limitMs (finishAll limitMs beganMs earlier) ∧
      ratesOf limitMs beganMs earlier t = Rates.between snapshot now
        (.ofMillis (t.finish limitMs (finishAll limitMs beganMs earlier) - takenMs)) := by
  constructor
  · have hle := snapshots_le_finishAll limitMs beganMs earlier _ (List.mem_of_getLast? hlast)
    have hfinish : finishAll limitMs beganMs earlier ≤
        t.finish limitMs (finishAll limitMs beganMs earlier) := by
      unfold finish
      omega
    exact Nat.le_trans hle hfinish
  · unfold ratesOf
    rw [hnow, hlast]
    rfl

/-- Without counters of its own or earlier ones a turn has no rates. -/
theorem ratesOf_of_none {limitMs : Nat} {earlier : List Turn} {t : Turn}
    (h : t.vmstat? limitMs = none ∨ snapshots limitMs beganMs earlier = []) :
    ratesOf limitMs beganMs earlier t = .zero := by
  unfold ratesOf
  rcases h with h | h
  · rw [h]
    cases (snapshots limitMs beganMs earlier).getLast? <;> rfl
  · rw [h]
    rfl

/-- What the turn number `k` adds to the snapshots. -/
theorem snapshots_take_succ (limitMs beganMs : Nat) (turns : List Turn) (k : Nat) :
    snapshots limitMs beganMs (turns.take (k + 1)) =
      snapshots limitMs beganMs (turns.take k) ++
        ((turns[k]?.map (vmstat? limitMs)).join.map fun v =>
          (v, finishAll limitMs beganMs (turns.take (k + 1)))).toList := by
  rw [List.take_add_one, snapshots_append]
  congr 1
  cases turns[k]? with
  | none => rfl
  | some t =>
    unfold finishAll
    rw [List.foldl_append]
    exact List.append_nil _

theorem sameReads_getElem? {limitMs n : Nat} {turns turns' : List Turn}
    (h : SameReads limitMs beganMs n turns turns' .vmstat) (k : Nat) (hk : k ≤ n) :
    turns[k]?.map (vmstat? limitMs) = turns'[k]?.map (vmstat? limitMs) := by
  have hget := congrArg (fun reads => reads[k]?) h.1
  simpa only [List.getElem?_map, List.getElem?_take, if_pos (Nat.lt_succ_of_le hk)] using hget

/-- The snapshots of some turns follow from what their reads of the paging counters give and from
when these are over. -/
theorem snapshots_congr {limitMs n : Nat} {turns turns' : List Turn}
    (h : SameReads limitMs beganMs n turns turns' .vmstat) {k : Nat} (hk : k ≤ n + 1) :
    snapshots limitMs beganMs (turns.take k) = snapshots limitMs beganMs (turns'.take k) := by
  induction k with
  | zero => rfl
  | succ k ih =>
    have hk' : k ≤ n := Nat.le_of_succ_le_succ hk
    rw [snapshots_take_succ, snapshots_take_succ, ih (Nat.le_of_succ_le hk),
      sameReads_getElem? h k hk', h.2 k hk']

/-- Each turn has its tick. -/
theorem length_ticks (s : Sampler) (clock : Clock) (nowMs : Nat) (turns : List Turn) :
    (s.ticks clock nowMs turns).length = turns.length := by
  induction turns generalizing s nowMs with
  | nil => rfl
  | cons t ts ih => simp only [ticks, List.length_cons, ih]

/-- The sample of a tick of a run, in terms of the reads. -/
theorem sample_of_tick {config : Config} {node : String} {clock : Clock} {turns : List Turn}
    {n : Nat} {t : Tick} (ht : ((start config node).ticks clock beganMs turns)[n]? = some t) :
    t.sample.usage.occupancy =
        (((turns[n]?.map (usage? config.readTimeoutMs)).join).map Occupancy.ofReading).getD .zero ∧
      t.sample.usage.diskTotals = Turn.lastDisk config.readTimeoutMs (turns.take (n + 1)) ∧
      t.sample.usage.rates =
        ratesSince (snapshots config.readTimeoutMs beganMs (turns.take n)).getLast?
          (turns[n]?.map (vmstat? config.readTimeoutMs)).join
          (finishAll config.readTimeoutMs beganMs (turns.take (n + 1))) := by
  have hn : n < turns.length := by
    rw [← length_ticks (start config node) clock beganMs turns]
    exact (List.getElem?_eq_some_iff.mp ht).1
  obtain ⟨t', ht', -, hu, hd, hr⟩ := sample_of_reads clock config node beganMs turns n hn
  rw [ht, Option.some.injEq] at ht'
  subst ht'
  rw [List.getElem?_eq_getElem hn, ← List.take_append_getElem hn]
  unfold finishAll
  rw [List.foldl_append]
  exact ⟨hu, (List.take_append_getElem hn) ▸ hd, hr⟩

/-- The fields that come from a source follow from the reads of this source, and the rates also from
when these were over. -/
theorem sameFields_of_sameReads {config : Config} {node node' : String} {clock clock' : Clock}
    {turns turns' : List Turn} {n : Nat} {t t' : Tick}
    (ht : ((start config node).ticks clock beganMs turns)[n]? = some t)
    (ht' : ((start config node').ticks clock' beganMs turns')[n]? = some t') {source : Source}
    (h : SameReads config.readTimeoutMs beganMs n turns turns' source) :
    SameFields t.sample.usage t'.sample.usage source := by
  obtain ⟨hu, hd, hr⟩ := sample_of_tick ht
  obtain ⟨hu', hd', hr'⟩ := sample_of_tick ht'
  cases source with
  | usage =>
    show t.sample.usage.occupancy = t'.sample.usage.occupancy
    rw [hu, hu', show turns[n]?.map _ = turns'[n]?.map _ from h]
  | disk =>
    show t.sample.usage.diskTotals = t'.sample.usage.diskTotals
    unfold Turn.lastDisk at hd hd'
    rw [hd, hd', show (turns.take (n + 1)).map _ = (turns'.take (n + 1)).map _ from h]
  | vmstat =>
    show t.sample.usage.rates = t'.sample.usage.rates
    have hread : turns[n]?.map (vmstat? config.readTimeoutMs) =
        turns'[n]?.map (vmstat? config.readTimeoutMs) := sameReads_getElem? h n (Nat.le_refl n)
    rw [hr, hr', hread, snapshots_congr h (Nat.le_succ n), h.2 n (Nat.le_refl n)]

/-- **Every sample follows from the reads alone.** In a run of ticks with any waits between them, the
sample of tick number `n` shows the load, memory and swap space that its own read gave, or zeros; the
last totals of the block devices read up to then, or zeros; and the rates from the last paging
counters read before it to its own, over the time between the ends of these two reads, or zeros if
one of the two is missing. Of another run that agrees on the reads of a source the fields of that
source are the same, whatever became of the other reads: these reach the rates through the time that
they take and nothing else. -/
theorem samples_follow_reads (config : Config) (node : String) (beganMs : Nat) (turns : List Turn)
    (n : Nat) (hn : n < turns.length) :
    let limitMs := config.readTimeoutMs
    let endMs := turns[n].finish limitMs (finishAll limitMs beganMs (turns.take n))
    let earlier := snapshots limitMs beganMs (turns.take n)
    ∃ t, ((start config node).ticks clock beganMs turns)[n]? = some t ∧ t.doneMs = endMs ∧
      t.sample.usage.occupancy = ((turns[n].usage? limitMs).map Occupancy.ofReading).getD .zero ∧
      t.sample.usage.diskTotals = Turn.lastDisk limitMs (turns.take (n + 1)) ∧
      (∀ now snapshot takenMs, turns[n].vmstat? limitMs = some now →
        earlier.getLast? = some (snapshot, takenMs) →
        takenMs ≤ endMs ∧
          t.sample.usage.rates = Rates.between snapshot now (.ofMillis (endMs - takenMs))) ∧
      (turns[n].vmstat? limitMs = none ∨ earlier = [] → t.sample.usage.rates = .zero) ∧
      ∀ node' clock' turns' t' source,
        ((start config node').ticks clock' beganMs turns')[n]? = some t' →
        SameReads limitMs beganMs n turns turns' source →
        SameFields t.sample.usage t'.sample.usage source := by
  intro limitMs endMs earlier
  obtain ⟨t, ht, hdone, hu, hd, hr⟩ := sample_of_reads clock config node beganMs turns n hn
  refine ⟨t, ht, hdone, hu, hd, ?_, ?_, ?_⟩
  · intro now snapshot takenMs hnow hlast
    rw [hr]
    exact ratesOf_of_some hnow hlast
  · intro h
    rw [hr]
    exact ratesOf_of_none h
  · intro node' clock' turns' t' source ht' h
    exact sameFields_of_sameReads ht ht' h

/-- A run with a gap: the second tick reads no paging counters and no block devices, the third one
fails at load and block devices. -/
def gapTurns : List Turn :=
  [⟨0, .ready .zero, .ready ⟨512, 1024⟩, .ready [("pgfault", 100)]⟩,
    ⟨950, .ready .zero, ⟨some 0, .error .brokenOff⟩, ⟨none, .ok []⟩⟩,
    ⟨1000, ⟨some 20, .error .memoryUnknown⟩, ⟨some 0, .error .brokenOff⟩,
      .ready [("pgfault", 400)]⟩]

/-- The same run, its load read after all in the third tick. -/
def mendedTurns : List Turn :=
  gapTurns.take 2 ++
    [⟨1000, ⟨some 20, .ok .zero⟩, ⟨some 0, .error .brokenOff⟩, .ready [("pgfault", 400)]⟩]

/-- Across the gap the rates of the third tick span two seconds and the totals are those of the
first tick; a read that fails in place of one that succeeds leaves both as they are. -/
theorem samples_follow_reads_gap :
    2 < gapTurns.length ∧ gapTurns[2].vmstat? 50 = some [("pgfault", 400)] ∧
      (snapshots 50 0 (gapTurns.take 2)).getLast? = some ([("pgfault", 100)], 0) ∧
      SameReads 50 0 2 gapTurns mendedTurns .vmstat ∧
      ∃ t t', ((start ⟨1000, 50⟩ "a").ticks (fun _ => default) 0 gapTurns)[2]? = some t ∧
        ((start ⟨1000, 50⟩ "a").ticks (fun _ => default) 0 mendedTurns)[2]? = some t' ∧
        t.sample.usage.diskTotals = ⟨512, 1024⟩ ∧
        t.sample.usage.rates =
          Rates.between [("pgfault", 100)] [("pgfault", 400)] (.ofMillis 2020) ∧
        t.sample.usage.rates = t'.sample.usage.rates := by
  have hsame : SameReads 50 0 2 gapTurns mendedTurns .vmstat := ⟨rfl, by decide⟩
  obtain ⟨t, ht, -, -, hd, hr, -, hframe⟩ :=
    samples_follow_reads (fun _ => default) ⟨1000, 50⟩ "a" 0 gapTurns 2 (by decide)
  obtain ⟨t', ht'⟩ : ∃ t', ((start ⟨1000, 50⟩ "a").ticks (fun _ => default) 0 mendedTurns)[2]? =
    some t' := ⟨_, rfl⟩
  refine ⟨by decide, rfl, rfl, hsame, t, t', ht, ht', hd, ?_, ?_⟩
  · exact (hr _ _ _ rfl rfl).2
  · exact hframe "a" _ _ t' .vmstat ht' hsame

end Sampler

end NodeTelemetry
