import NodeTelemetry.Proofs.Keyed
import NodeTelemetry.Proofs.Sampler.Samples

/-!
# The health that a sampler reports

The sampler tells the registry of health what became of its reads, and it does not stand alone there:
other components report under their names, and nothing keeps them from reporting under the sampler's.
So the registry may say something else of the sampler than the sampler remembers.

A run is a list of steps, each an effect of the ticks or an operation of another party, in any order
(`Health.Step`); an operation may fall between two effects of one tick. What is said of the sampler
after a tick follows from the reads of this tick and of the one before (`health_after_tick`). If nobody
else reports under its name, then one invariant of all steps (`status_run`) joins the registry to what
the sampler remembers.
-/

namespace NodeTelemetry

/-! ### Operations -/

namespace Health

/-- What a party can do to the registry. -/
inductive Operation where
  /-- It adds a component. -/
  | register (name : String) (now : Int)
  /-- It reports good health. -/
  | setHealthy (name : String) (now : Int)
  /-- It reports partial failure. -/
  | setDegraded (name message : String) (now : Int)
  /-- It reports failure. -/
  | setUnhealthy (name message : String) (now : Int)
  /-- It gives a report of any kind. -/
  | update (name : String) (report : Report)
  /-- It says whether the listeners are up. -/
  | setReady (ready : Bool)

namespace Operation

/-- The registry after an operation. -/
def apply (r : Registry) : Operation → Registry
  | register name now => r.register name now
  | setHealthy name now => r.setHealthy name now
  | setDegraded name message now => r.setDegraded name message now
  | setUnhealthy name message now => r.setUnhealthy name message now
  | update name report => r.update name report
  | setReady ready => r.setReady ready

/-- The component that an operation reports on. -/
def name? : Operation → Option String
  | register name _ | setHealthy name _ | setDegraded name _ _ | setUnhealthy name _ _
  | update name _ => some name
  | setReady _ => none

end Operation

theorem Registry.find?_update_of_ne {name other : String} (h : other ≠ name) (r : Registry)
    (report : Report) :
    Keyed.find? other (r.update name report).components = Keyed.find? other r.components :=
  Keyed.find?_insert_of_ne h report r.components

/-- An operation leaves all other components alone. -/
theorem Operation.find?_apply {name : String} {o : Operation} (h : o.name? ≠ some name)
    (r : Registry) :
    Keyed.find? name (o.apply r).components = Keyed.find? name r.components := by
  cases o with
  | setReady ready => rfl
  | register other now | setHealthy other now | setDegraded other message now
  | setUnhealthy other message now | update other report =>
    exact Registry.find?_update_of_ne (fun he => h (congrArg some he.symm)) r _

/-- What can happen to the registry. -/
inductive Step where
  /-- The sampler does something. -/
  | effect (e : Effect)
  /-- Another party does something. -/
  | operation (o : Operation)

namespace Step

/-- The effect of a step, if it is the sampler's. -/
def effect? : Step → Option Effect
  | effect e => some e
  | operation _ => none

/-- What the sampler tells of its reads in a step, if it does. -/
def report? (d : Step) : Option (Sample × List Source × Bool) := d.effect?.bind Effect.report?

theorem eq_of_report? {d : Step} {sample : Sample} {failures : List Source} {recovered : Bool}
    (h : d.report? = some (sample, failures, recovered)) :
    d = .effect (.sampled sample failures recovered) := by
  cases d with
  | operation o => cases h
  | effect e =>
    cases e with
    | sampled _ _ _ =>
      cases h
      rfl
    | called | failed | ended => cases h

end Step

end Health

open Health

/-! ### The registry in a run -/

namespace Store

/-- What is kept after a step. -/
def step (s : Store) : Step → Store
  | .effect e => s.apply e
  | .operation o => { s with health := o.apply s.health }

/-- What is kept after some steps. -/
def run (s : Store) (steps : List Step) : Store := steps.foldl step s

theorem run_append (s : Store) (xs ys : List Step) : s.run (xs ++ ys) = (s.run xs).run ys :=
  List.foldl_append

theorem noteHealth_of_failures {failures : List Source} (h : failures ≠ []) (r : Registry)
    (now : Int) (recovered : Bool) :
    noteHealth r now failures recovered =
      r.setDegraded samplerName (degradedMessage failures) now := by
  simp [noteHealth, h]

/-- What the sampler reports is about itself only. -/
theorem noteHealth_frame (r : Registry) (now : Int) (failures : List Source) (recovered : Bool) :
    (noteHealth r now failures recovered).listening = r.listening ∧
      ∀ name ≠ samplerName,
        Keyed.find? name (noteHealth r now failures recovered).components =
          Keyed.find? name r.components := by
  unfold noteHealth
  split
  · exact ⟨rfl, fun name hname => Registry.find?_update_of_ne hname r _⟩
  · split
    · exact ⟨rfl, fun name hname => Registry.find?_update_of_ne hname r _⟩
    · exact ⟨rfl, fun _ _ => rfl⟩

/-- The registry changes with what the sampler tells of its reads, and with nothing else that it
does. -/
theorem health_apply (s : Store) (e : Effect) :
    (s.apply e).health =
      match e.report? with
      | none => s.health
      | some (sample, failures, recovered) =>
        noteHealth s.health sample.timestamp.secs failures recovered := by
  cases e <;> rfl

/-- No effect of the sampler reaches another component or the word that the listeners are up. -/
theorem health_apply_frame (s : Store) (e : Effect) :
    (s.apply e).health.listening = s.health.listening ∧
      ∀ name ≠ samplerName,
        Keyed.find? name (s.apply e).health.components =
          Keyed.find? name s.health.components := by
  rw [health_apply]
  cases e.report? with
  | none => exact ⟨rfl, fun _ _ => rfl⟩
  | some report => exact noteHealth_frame s.health _ _ _

end Store

/-! ### What the ticks tell -/

namespace Turn

/-- The sources whose reads fail in a turn. -/
def failed (limitMs : Nat) (t : Turn) : List Source := t.readings.failed limitMs

/-- The last of some turns had failures. -/
def LastFailed (limitMs : Nat) (turns : List Turn) : Prop :=
  ∃ t, turns.getLast? = some t ∧ t.failed limitMs ≠ []

theorem lastFailed_cons (limitMs : Nat) (t : Turn) (ts : List Turn) :
    LastFailed limitMs (t :: ts) ↔ ts = [] ∧ t.failed limitMs ≠ [] ∨ LastFailed limitMs ts := by
  cases ts with
  | nil => simp [LastFailed]
  | cons u us => simp [LastFailed, List.getLast?_cons_cons]

end Turn

namespace Sampler

/-- What the ticks of some turns do. -/
def effects (s : Sampler) (clock : Clock) (nowMs : Nat) (turns : List Turn) : List Effect :=
  (s.ticks clock nowMs turns).flatMap fun t => t.effects.map Prod.snd

/-- The first tick of some turns tells which of its reads have failed, and then the others tell. -/
theorem reports_cons (s : Sampler) (clock : Clock) (nowMs : Nat) (t : Turn) (ts : List Turn) :
    (s.effects clock nowMs (t :: ts)).filterMap Effect.report? =
      ((s.tick clock (nowMs + t.waitMs) t.readings).sample, t.failed s.config.readTimeoutMs,
          (t.failed s.config.readTimeoutMs).isEmpty && s.degraded) ::
        ((s.tick clock (nowMs + t.waitMs) t.readings).sampler.effects clock
          (s.tick clock (nowMs + t.waitMs) t.readings).doneMs ts).filterMap Effect.report? := by
  have htick := congrArg (List.map Prod.snd) (timed_report_tick s clock (nowMs + t.waitMs) t.readings)
  rw [Effect.map_snd_timed] at htick
  simp only [effects, ticks, List.flatMap_cons, List.filterMap_append, htick]
  rfl

/-- The tick of a turn tells which reads of the turn have failed, and of recovery if they are none and
the tick before had some. -/
theorem reports_getElem? (s : Sampler) (clock : Clock) (nowMs : Nat) (turns : List Turn) {k : Nat}
    {t : Turn} (ht : turns[k]? = some t) :
    ∃ tick, (s.ticks clock nowMs turns)[k]? = some tick ∧
      ((s.effects clock nowMs turns).filterMap Effect.report?)[k]? =
        some (tick.sample, t.failed s.config.readTimeoutMs,
          (t.failed s.config.readTimeoutMs).isEmpty &&
            (s.after clock nowMs (turns.take k)).degraded) := by
  induction turns generalizing s nowMs k with
  | nil => cases ht
  | cons u us ih =>
    rw [reports_cons]
    cases k with
    | zero =>
      obtain rfl := Option.some.inj ht
      exact ⟨_, rfl, rfl⟩
    | succ k => exact ih _ _ ht

/-- A sampler remembers whether its last tick had failures. -/
theorem degraded_after (s : Sampler) (clock : Clock) (nowMs : Nat) (turns : List Turn) :
    (s.after clock nowMs turns).degraded ↔
      turns = [] ∧ s.degraded ∨ Turn.LastFailed s.config.readTimeoutMs turns := by
  induction turns generalizing s nowMs with
  | nil => simp [after, Turn.LastFailed]
  | cons t ts ih =>
    rw [after_cons, ih, tick_degraded, tick_config, Turn.lastFailed_cons]
    simp [Turn.failed]

/-- The tick of a turn tells which reads of the turn have failed, and of recovery if they are none and
those of the turn before were some. -/
theorem report_of_turn (config : Config) (node : String) (clock : Clock) (beganMs : Nat)
    {turns : List Turn} {k : Nat} {t : Turn} (ht : turns[k]? = some t) :
    ∃ tick recovered, ((start config node).ticks clock beganMs turns)[k]? = some tick ∧
      (((start config node).effects clock beganMs turns).filterMap Effect.report?)[k]? =
        some (tick.sample, t.failed config.readTimeoutMs, recovered) ∧
      (recovered ↔ t.failed config.readTimeoutMs = [] ∧
        Turn.LastFailed config.readTimeoutMs (turns.take k)) := by
  obtain ⟨tick, htick, hreport⟩ := reports_getElem? (start config node) clock beganMs turns ht
  refine ⟨tick, _, htick, hreport, ?_⟩
  rw [Bool.and_eq_true, List.isEmpty_iff, degraded_after]
  simp [start]

/-! ### The registry and the sampler -/

/-- Each report tells of recovery if it names no source and the one before it named some. -/
def Consistent (failed : Bool) : List (Sample × List Source × Bool) → Prop
  | [] => True
  | (_, failures, recovered) :: rest =>
    recovered = (failures.isEmpty && failed) ∧ Consistent (!failures.isEmpty) rest

/-- Whether the last of some reports named sources. -/
def failedAfter (failed : Bool) (reports : List (Sample × List Source × Bool)) : Bool :=
  reports.foldl (fun _ report => !report.2.1.isEmpty) failed

theorem Consistent.of_append {failed : Bool} {xs ys : List (Sample × List Source × Bool)}
    (h : Consistent failed (xs ++ ys)) : Consistent failed xs := by
  induction xs generalizing failed with
  | nil => trivial
  | cons x xs ih => exact ⟨h.1, ih h.2⟩

/-- The ticks of a sampler report so. -/
theorem consistent_effects (s : Sampler) (clock : Clock) (nowMs : Nat) (turns : List Turn) :
    Consistent s.degraded ((s.effects clock nowMs turns).filterMap Effect.report?) := by
  induction turns generalizing s nowMs with
  | nil => trivial
  | cons t ts ih =>
    rw [reports_cons]
    refine ⟨rfl, ?_⟩
    have hrest := ih (s.tick clock (nowMs + t.waitMs) t.readings).sampler
      (s.tick clock (nowMs + t.waitMs) t.readings).doneMs
    rw [tick_degraded] at hrest
    exact hrest

/-- The status of a sampler whose last tick had failures, or had none. -/
def statusOf (failed : Bool) : Status := if failed then .degraded else .healthy

/-- **The registry says of the sampler what its last tick was like** if nobody else reports under its
name. -/
theorem status_run {s : Store} {steps : List Step} {failed : Bool}
    (hothers : ∀ o, .operation o ∈ steps → o.name? ≠ some samplerName)
    (hreports : Consistent failed (steps.filterMap Step.report?))
    (hstatus : s.health.status? samplerName = some (statusOf failed)) :
    (s.run steps).health.status? samplerName =
      some (statusOf (failedAfter failed (steps.filterMap Step.report?))) := by
  induction steps generalizing s failed with
  | nil => exact hstatus
  | cons d ds ih =>
    have hothers' : ∀ o, .operation o ∈ ds → o.name? ≠ some samplerName :=
      fun o ho => hothers o (List.mem_cons_of_mem _ ho)
    cases hreport : d.report? with
    | none =>
      rw [List.filterMap_cons_none hreport] at hreports ⊢
      refine ih hothers' hreports ?_
      cases d with
      | effect e =>
        show (s.apply e).health.status? samplerName = _
        rw [Store.health_apply, show e.report? = none from hreport]
        exact hstatus
      | operation o =>
        have hfind := Operation.find?_apply (hothers o List.mem_cons_self) s.health
        show Option.map _ (Keyed.find? samplerName (o.apply s.health).components) = _
        rw [hfind]
        exact hstatus
    | some report =>
      obtain ⟨sample, failures, recovered⟩ := report
      rw [List.filterMap_cons_some hreport] at hreports ⊢
      obtain ⟨hrecovered, hrest⟩ := hreports
      refine ih hothers' hrest ?_
      cases d with
      | operation o => cases hreport
      | effect e =>
        show (s.apply e).health.status? samplerName = _
        rw [Store.health_apply, show e.report? = _ from hreport]
        cases failures with
        | cons source sources =>
          exact congrArg (Option.map _) (Keyed.find?_insert_self samplerName _ _)
        | nil =>
          cases failed with
          | true =>
            rw [hrecovered]
            exact congrArg (Option.map _) (Keyed.find?_insert_self samplerName _ _)
          | false =>
            rw [hrecovered]
            exact hstatus

/-- Where a step reports, the steps before it have made the reports before. -/
theorem exists_step_of_report {steps : List Step} {k : Nat}
    {report : Sample × List Source × Bool}
    (h : (steps.filterMap Step.report?)[k]? = some report) :
    ∃ before after, steps = before ++ .effect (.sampled report.1 report.2.1 report.2.2) :: after ∧
      (before.filterMap Step.report?).length = k := by
  induction steps generalizing k with
  | nil => cases h
  | cons d ds ih =>
    cases hreport : d.report? with
    | none =>
      rw [List.filterMap_cons_none hreport] at h
      obtain ⟨before, after, rfl, hlength⟩ := ih h
      exact ⟨d :: before, after, rfl, by rwa [List.filterMap_cons_none hreport]⟩
    | some other =>
      rw [List.filterMap_cons_some hreport] at h
      cases k with
      | zero =>
        obtain rfl := Option.some.inj h
        exact ⟨[], ds, by rw [Step.eq_of_report? hreport]; rfl, rfl⟩
      | succ k =>
        obtain ⟨before, after, rfl, hlength⟩ := ih h
        refine ⟨d :: before, after, rfl, ?_⟩
        rw [List.filterMap_cons_some hreport, List.length_cons, hlength]

/-- **The health of the sampler follows its ticks**, whatever other parties do in between. Let the
effects of the ticks of some turns happen in their order, and between them any operations. Then

* no effect of a tick changes what is known of other components or of the listeners, and none but the
  last one changes the registry at all;
* a tick with failures leaves the sampler degraded, with a message that names the sources that failed,
  in the order in which they are read;
* a tick with none leaves it healthy without a message if the tick before had some, and otherwise
  leaves the registry as it was;
* if the sampler was healthy at first and nobody else reports under its name, then it is degraded
  after the ticks with failures and healthy after the others. -/
theorem health_follows_ticks (config : Config) (node : String) (clock : Clock) (beganMs : Nat)
    (turns : List Turn) (s : Store) (steps : List Step)
    (hsteps : steps.filterMap Step.effect? = (start config node).effects clock beganMs turns) :
    let limitMs := config.readTimeoutMs
    (∀ before e after, steps = before ++ .effect e :: after →
      let h := (s.run before).health
      let h' := (s.run (before ++ [.effect e])).health
      h'.listening = h.listening ∧
      (∀ name ≠ samplerName,
        Keyed.find? name h'.components = Keyed.find? name h.components) ∧
      (e.report? = none → h' = h)) ∧
    ∀ k t tick, turns[k]? = some t →
      ((start config node).ticks clock beganMs turns)[k]? = some tick →
      ∃ before recovered after,
        steps = before ++ .effect (.sampled tick.sample (t.failed limitMs) recovered) :: after ∧
        (before.filterMap Step.report?).length = k ∧
        let h := (s.run before).health
        let h' := (s.run (before ++
          [.effect (.sampled tick.sample (t.failed limitMs) recovered)])).health
        (t.failed limitMs ≠ [] → Keyed.find? samplerName h'.components =
          some ⟨.degraded,
            some ("Unreadable counters: " ++
              ", ".intercalate ((t.failed limitMs).map Source.label)),
            tick.sample.timestamp.secs⟩) ∧
        (t.failed limitMs = [] → Turn.LastFailed limitMs (turns.take k) →
          Keyed.find? samplerName h'.components =
            some ⟨.healthy, none, tick.sample.timestamp.secs⟩) ∧
        (t.failed limitMs = [] → ¬Turn.LastFailed limitMs (turns.take k) → h' = h) ∧
        ((∀ o, .operation o ∈ steps → o.name? ≠ some samplerName) →
          s.health.status? samplerName = some .healthy →
          h'.status? samplerName =
            some (if t.failed limitMs = [] then .healthy else .degraded)) := by
  intro limitMs
  constructor
  · rintro before e after rfl h h'
    have hnext : h' = ((s.run before).apply e).health := by
      show (s.run (before ++ [.effect e])).health = _
      rw [Store.run_append]
      rfl
    obtain ⟨hlistening, hothers⟩ := Store.health_apply_frame (s.run before) e
    rw [hnext]
    refine ⟨hlistening, hothers, fun hnone => ?_⟩
    rw [Store.health_apply, hnone]
  · intro k t tick ht htick
    obtain ⟨tick', recovered, htick', hreport, hrecovered⟩ :=
      report_of_turn config node clock beganMs ht
    obtain rfl : tick = tick' := Option.some.inj (htick.symm.trans htick')
    have hreports : steps.filterMap Step.report? =
        ((start config node).effects clock beganMs turns).filterMap Effect.report? := by
      rw [← hsteps, List.filterMap_filterMap]
      rfl
    rw [← hreports] at hreport
    obtain ⟨before, after, rfl, hlength⟩ := exists_step_of_report hreport
    refine ⟨before, recovered, after, rfl, hlength, ?_⟩
    intro h h'
    have hnext : h' =
        Store.noteHealth h tick.sample.timestamp.secs (t.failed limitMs) recovered := by
      show (s.run (before ++ [.effect _])).health = _
      rw [Store.run_append]
      rfl
    refine ⟨fun hfailed => ?_, fun hnone hlast => ?_, fun hnone hlast => ?_,
      fun hothers hhealthy => ?_⟩
    · rw [hnext, Store.noteHealth_of_failures hfailed]
      exact Keyed.find?_insert_self samplerName _ _
    · rw [hnext, hnone, hrecovered.mpr ⟨hnone, hlast⟩]
      exact Keyed.find?_insert_self samplerName _ _
    · have hsilent : recovered = false :=
        Bool.eq_false_iff.mpr fun hr => hlast (hrecovered.mp hr).2
      rw [hnext, hnone, hsilent]
      rfl
    · have hconsistent := consistent_effects (start config node) clock beganMs turns
      rw [← hreports, List.append_cons, List.filterMap_append] at hconsistent
      have hothers' : ∀ o, .operation o ∈ before ++
          [.effect (.sampled tick.sample (t.failed limitMs) recovered)] →
          o.name? ≠ some samplerName := by
        intro o ho
        rw [List.append_cons] at hothers
        exact hothers o (List.mem_append_left _ ho)
      have hstatus := status_run hothers' hconsistent.of_append hhealthy
      rw [show h'.status? samplerName = _ from hstatus, List.filterMap_append, failedAfter,
        List.foldl_append]
      cases hfailed : t.failed limitMs <;> rfl

/-- Two turns, the first of which gets no paging counters. -/
def recoveringTurns : List Turn :=
  [⟨0, .ready .zero, .ready .zero, ⟨none, .ok []⟩⟩, ⟨900, .ready .zero, .ready .zero, .ready []⟩]

/-- The ticks of these turns, and other parties in the middle of the first one and after it. -/
def recoveringSteps : List Step :=
  let effects := (start .default "node").effects (fun _ => default) 0 recoveringTurns
  (effects.take 2).map .effect ++ .operation (.setUnhealthy queryName "down" 7) ::
    (effects.drop 2).map .effect ++ [.operation (.setReady true)]

/-- A sampler that misses its paging counters once. -/
theorem health_follows_ticks_recovering :
    recoveringSteps.filterMap Step.effect? =
        (start .default "node").effects (fun _ => default) 0 recoveringTurns ∧
      ∃ before sample recovered after,
        recoveringSteps = before ++ .effect (.sampled sample [.vmstat] recovered) :: after ∧
        (Keyed.find? samplerName (((Store.empty 1).run (before ++
          [.effect (.sampled sample [.vmstat] recovered)])).health.components)) =
            some ⟨.degraded, some "Unreadable counters: vmstat", sample.timestamp.secs⟩ := by
  have hsteps : recoveringSteps.filterMap Step.effect? =
      (start .default "node").effects (fun _ => default) 0 recoveringTurns := rfl
  obtain ⟨-, hticks⟩ := health_follows_ticks .default "node" (fun _ => default) 0 recoveringTurns
    (.empty 1) recoveringSteps hsteps
  obtain ⟨before, recovered, after, hsplit, -, hfailed, -⟩ := hticks 0 _ _ rfl rfl
  exact ⟨hsteps, before, _, recovered, after, hsplit, hfailed (by decide)⟩

end Sampler

end NodeTelemetry
