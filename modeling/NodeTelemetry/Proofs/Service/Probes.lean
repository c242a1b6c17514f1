import NodeTelemetry.Proofs.Health
import NodeTelemetry.Proofs.Service.Run

/-!
# What the probes answer

Two paths of the query surface tell how the collector does. `/healthz` answers `503` if a component
is unhealthy, `/readyz` answers `503` also as long as the listeners are not up.

In a run the registry changes by operations only: those of the parties and the ones that the sampler
makes when it has taken a sample (`Doing.operation?`). Everything else that happens to the service
leaves it alone (`health_step`), so the registry of a run is the one that its operations make
(`health_doAll`), and what the probes answer follows from the last reports.
-/

namespace NodeTelemetry

open Health (Operation Registry Report Status Reported lastReport lastReady)

/-! ### Operations of the sampler -/

/-- The operation that the sampler makes in an effect, if it makes one. -/
def Effect.operation? : Effect → Option Operation
  | sampled sample failures recovered =>
    if !failures.isEmpty then
      some (.setDegraded Health.samplerName (Store.degradedMessage failures) sample.timestamp.secs)
    else if recovered then some (.setHealthy Health.samplerName sample.timestamp.secs)
    else none
  | _ => none

theorem Store.health_apply_operation (s : Store) (e : Effect) :
    (s.apply e).health = e.operation?.elim s.health (·.apply s.health) := by
  cases e with
  | called | failed | ended => rfl
  | sampled sample failures recovered =>
    show noteHealth _ _ _ _ = _
    unfold noteHealth Effect.operation?
    cases failures with
    | cons source sources => rfl
    | nil => cases recovered <;> rfl

namespace Service

/-! ### Runs -/

/-- What happens to a service whose registry changes by operations only. -/
inductive Doing where
  /-- A party operates on the registry. -/
  | operation (o : Operation)
  /-- Something else happens. -/
  | action (a : Action) (other : ∀ r, a ≠ .health r)

/-- The service after one thing has happened. -/
def perform (s : Service) : Doing → Service
  | .operation o => s.step (.health (o.apply s.store.health))
  | .action a _ => s.step a

/-- The service after some things have happened. -/
def performAll (s : Service) (ds : List Doing) : Service := ds.foldl perform s

/-- The operation that is made, if one is. -/
def Doing.operation? : Doing → Option Operation
  | operation o => some o
  | action (.effect e) _ => e.operation?
  | action _ _ => none

/-- An action writes to the registry what the sampler does, unless it changes it directly. -/
theorem health_write (s : Store) {a : Action} (h : ∀ r, a ≠ .health r) :
    (a.write s).health = (Doing.action a h).operation?.elim s.health (·.apply s.health) := by
  cases a with
  | health r => exact absurd rfl (h r)
  | effect e => exact s.health_apply_operation e
  | request now surface r opening =>
    by_cases hpost : IsPost surface r ∧ r.body.length ≤ bodyLimit
    · show Store.health (if _ then _ else _) = s.health
      rw [if_pos hpost]
      cases postedEvent now r.body <;> rfl
    · exact congrArg Store.health (if_neg hpost)
  | sample | advance | receive | disconnect | wait | pump | take => rfl

/-- **What one thing that happens does to the registry**: the operation that is made, or nothing. -/
theorem health_perform (s : Service) (d : Doing) :
    (s.perform d).store.health = d.operation?.elim s.store.health (·.apply s.store.health) := by
  cases d with
  | operation o => rfl
  | action a h =>
    obtain ⟨streams, events, hstore⟩ := store_step s a
    show (s.step a).store.health = _
    rw [hstore]
    exact health_write s.store h

/-- The registry of a run is what its operations make of it. -/
theorem health_performAll (s : Service) (ds : List Doing) :
    (s.performAll ds).store.health = s.store.health.after (ds.filterMap Doing.operation?) := by
  induction ds generalizing s with
  | nil => rfl
  | cons d ds ih =>
    have hstep := health_perform s d
    show ((s.perform d).performAll ds).store.health = _
    rw [ih, hstep, filterMap_cons_toList]
    cases d.operation? with
    | none => rfl
    | some o => rfl

/-! ### Probes -/

/-- A request for a path with a method that is taken. -/
def Probes (path : String) (r : Request) : Prop := r.path = path ∧ r.method ∈ ["GET", "HEAD"]

instance (path : String) (r : Request) : Decidable (Probes path r) :=
  inferInstanceAs (Decidable (_ ∧ _))

theorem status_withoutBody (o : Outcome) :
    o.withoutBody.response.status = o.response.status := by
  unfold Outcome.withoutBody
  cases o.response.body <;> rfl

/-- A probe is answered with the status of what its path stands for, with a body or without one. -/
theorem status_of_probes {path : String} {r : Request} (h : Probes path r) {endpoint : Endpoint}
    (hendpoint : endpoint? .query path = some endpoint)
    (hmethods : endpoint.methods = ["GET", "HEAD"]) (s : Service) (now : Time.Instant) :
    (s.respond now .query r).response.status = (s.serve now r endpoint).response.status := by
  obtain ⟨hpath, hmethod⟩ := h
  have hmethod' : ¬r.method ∉ endpoint.methods := by
    rw [hmethods]
    exact not_not_intro hmethod
  unfold respond
  rw [hpath, hendpoint]
  simp only [if_neg hmethod']
  split
  · exact status_withoutBody _
  · rfl

theorem status_healthz {r : Request} (h : Probes "/healthz" r) (s : Service) (now : Time.Instant) :
    (s.respond now .query r).response.status =
      if s.store.health.status = .unhealthy then 503 else 200 := by
  have hendpoint : endpoint? .query "/healthz" = some .healthz := rfl
  exact status_of_probes h hendpoint rfl s now

theorem status_readyz {r : Request} (h : Probes "/readyz" r) (s : Service) (now : Time.Instant) :
    (s.respond now .query r).response.status =
      if s.store.health.listening ∧ s.store.health.status ≠ .unhealthy then 200 else 503 := by
  have hendpoint : endpoint? .query "/readyz" = some .readyz := rfl
  rw [status_of_probes h hendpoint rfl s now]
  show (if s.store.health.readiness.ready then 200 else 503) = _
  unfold Registry.readiness
  cases s.store.health.listening with
  | false => rfl
  | true => by_cases hstatus : s.store.health.status = .unhealthy <;> simp [hstatus]

/-- **The probes answer by the last reports.** Take a service without reports. After anything has
happened to it, and whatever operations were made on its registry by any party, the sampler
included,

* a component has the status of its last report, and none if there was none;
* the status of the whole is the worst of these and healthy if there are none, whatever order the
  reports are visited in;
* `/healthz` answers `503` if a component was last reported to be unhealthy, and otherwise `200`;
* `/readyz` answers `200` if the listeners were last said to be up and no component was last
  reported to be unhealthy, and otherwise `503`;
* so if `/readyz` answers `200`, `/healthz` does. -/
theorem probes_follow_last_reports (s : Service) (hempty : s.store.health = .empty)
    (ds : List Doing) :
    let os := ds.filterMap Doing.operation?
    let t := s.performAll ds
    let registry := t.store.health
    (∀ name, registry.status? name = (lastReport name os).map (·.status)) ∧
    Status.IsWorst (Reported os) registry.status ∧
    (∀ visited : List (String × Report), visited.Perm registry.components →
      Status.worst (visited.map (·.2.status)) = registry.status) ∧
    (∀ now r, Probes "/healthz" r →
      let status := (t.respond now .query r).response.status
      (status = 503 ↔ Reported os .unhealthy) ∧ (status = 200 ↔ ¬Reported os .unhealthy)) ∧
    (∀ now r, Probes "/readyz" r →
      let status := (t.respond now .query r).response.status
      let ready := lastReady os = some true ∧ ¬Reported os .unhealthy
      (status = 200 ↔ ready) ∧ (status = 503 ↔ ¬ready)) ∧
    ∀ now now' r r', Probes "/readyz" r → Probes "/healthz" r' →
      (t.respond now .query r).response.status = 200 →
      (t.respond now' .query r').response.status = 200 := by
  intro os t registry
  have hregistry : registry = Registry.empty.after os := by
    rw [← hempty]
    exact health_performAll s ds
  have hunhealthy : t.store.health.status = .unhealthy ↔ Reported os .unhealthy := by
    rw [show t.store.health = _ from hregistry]
    exact Registry.status_eq_unhealthy os
  have hlistening : t.store.health.listening = true ↔ lastReady os = some true := by
    rw [show t.store.health = _ from hregistry, Registry.listening_after]
    cases lastReady os with
    | none => simp [Registry.empty]
    | some ready => simp
  refine ⟨?_, ?_, fun visited => registry.worst_of_perm, fun now r hr => ?_, fun now r hr => ?_,
    fun now now' r r' hr hr' hready => ?_⟩
  · rw [hregistry]
    exact fun name => Registry.status?_after name os
  · rw [hregistry]
    exact Registry.isWorst_status os
  · rw [status_healthz hr t now, ← hunhealthy]
    by_cases h : t.store.health.status = .unhealthy <;> simp [h]
  · rw [status_readyz hr t now, ← hunhealthy, ← hlistening]
    by_cases h : t.store.health.listening = true ∧ t.store.health.status ≠ .unhealthy
    · simp [h]
    · rw [if_neg h]
      exact ⟨iff_of_false (by decide) h, iff_of_true rfl h⟩
  · rw [status_readyz hr t now] at hready
    rw [status_healthz hr' t now']
    by_cases h : t.store.health.listening = true ∧ t.store.health.status ≠ .unhealthy
    · exact if_neg h.2
    · rw [if_neg h] at hready
      cases hready

/-- The listeners are up, and of three components one is degraded and one is down. -/
def troubledDoings : List Doing :=
  [.operation (.setReady true), .operation (.register Health.queryName 1),
    .operation (.setDegraded Health.samplerName "slow" 2),
    .action (.request ⟨0, 0⟩ .query ⟨"GET", "/metrics", []⟩ .left) nofun,
    .operation (.setUnhealthy Health.ingestName "down" 3)]

/-- The component that was down reports good health. -/
def recoveredDoings : List Doing :=
  troubledDoings ++ [.operation (.setHealthy Health.ingestName 4)]

theorem probes_follow_last_reports_recovered :
    let s := start "node" (.empty 1) 1000
    let t := s.performAll troubledDoings
    let u := s.performAll recoveredDoings
    let healthz : Request := ⟨"GET", "/healthz", []⟩
    let readyz : Request := ⟨"HEAD", "/readyz", []⟩
    s.store.health = .empty ∧ Probes "/healthz" healthz ∧ Probes "/readyz" readyz ∧
      t.store.health.components.reverse.Perm t.store.health.components ∧
      Status.worst (t.store.health.components.reverse.map (·.2.status)) = t.store.health.status ∧
      (t.respond ⟨0, 0⟩ .query healthz).response.status = 503 ∧
      (u.respond ⟨0, 0⟩ .query readyz).response.status = 200 ∧
      (u.respond ⟨0, 0⟩ .query healthz).response.status = 200 := by
  intro s t u healthz readyz
  have hhealthz : Probes "/healthz" healthz := by decide
  have hreadyz : Probes "/readyz" readyz := by decide
  obtain ⟨-, -, hvisited, htroubled, -, -⟩ := probes_follow_last_reports s rfl troubledDoings
  obtain ⟨-, -, -, -, hready, himplies⟩ := probes_follow_last_reports s rfl recoveredDoings
  have hdown : Reported (troubledDoings.filterMap Doing.operation?) .unhealthy :=
    ⟨Health.ingestName, ⟨.unhealthy, some "down", 3⟩, by decide, rfl⟩
  have hnone : ¬Reported (recoveredDoings.filterMap Doing.operation?) .unhealthy :=
    mt (Registry.status_eq_unhealthy _).mpr (by decide)
  have hready := (hready ⟨0, 0⟩ readyz hreadyz).1.mpr ⟨by decide, hnone⟩
  exact ⟨rfl, hhealthz, hreadyz, List.reverse_perm _, hvisited _ (List.reverse_perm _),
    (htroubled ⟨0, 0⟩ healthz hhealthz).1.mpr hdown, hready,
    himplies ⟨0, 0⟩ ⟨0, 0⟩ readyz healthz hreadyz hhealthz hready⟩

end Service

end NodeTelemetry
