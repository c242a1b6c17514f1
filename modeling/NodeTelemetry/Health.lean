import NodeTelemetry.Json.Typed

/-!
# Health of the collector's components

Each component reports its own status under its name; the last report stands. The status of the
whole is the worst of them. The collector is ready once it has been told that its listeners are up,
unless a component is unhealthy.
-/

namespace NodeTelemetry.Health

/-- The status of a component. -/
inductive Status where
  /-- It works. -/
  | healthy
  /-- It works in part. -/
  | degraded
  /-- It does not work. -/
  | unhealthy
  deriving DecidableEq, Repr, Inhabited

/-- The name of a status. -/
def Status.name : Status → String
  | healthy => "healthy"
  | degraded => "degraded"
  | unhealthy => "unhealthy"

/-- All status by name. -/
def Status.named : List (String × Status) :=
  [("healthy", .healthy), ("degraded", .degraded), ("unhealthy", .unhealthy)]

/-- The worse of two status. -/
def Status.worse : Status → Status → Status
  | unhealthy, _ | _, unhealthy => unhealthy
  | degraded, _ | _, degraded => degraded
  | healthy, healthy => healthy

/-- The worst of a list of status; healthy if there are none. -/
def Status.worst (ss : List Status) : Status := ss.foldl Status.worse .healthy

/-- What a component last reported. -/
structure Report where
  /-- Its status. -/
  status : Status
  /-- What is wrong. -/
  message : Option String
  /-- When it reported, in seconds since 1970. -/
  checked : Int
  deriving DecidableEq, Repr, Inhabited

/-- The health of the whole. -/
structure Summary where
  /-- The worst status. -/
  status : Status
  /-- The reports by component. -/
  components : Keyed Report
  deriving Repr

/-- Whether the collector is ready. -/
structure Readiness where
  /-- Whether it is. -/
  ready : Bool
  /-- Why it is not. -/
  reason : Option String
  deriving DecidableEq, Repr

/-- The components' last reports. -/
structure Registry where
  /-- The reports by component. -/
  components : Keyed Report
  /-- Whether the listeners are up. -/
  listening : Bool
  deriving Repr

/-- The component that takes samples. -/
def samplerName : String := "sampler"

/-- The component that answers queries. -/
def queryName : String := "query"

/-- The component that takes events. -/
def ingestName : String := "ingest"

namespace Registry

/-- The registry before any report. -/
def empty : Registry := ⟨[], false⟩

/-- Takes a report. -/
def update (r : Registry) (name : String) (report : Report) : Registry :=
  { r with components := Keyed.insert name report r.components }

/-- Takes a report of good health at a time. -/
def setHealthy (r : Registry) (name : String) (now : Int) : Registry :=
  r.update name ⟨.healthy, none, now⟩

/-- Adds a component in good health. -/
def register (r : Registry) (name : String) (now : Int) : Registry := r.setHealthy name now

/-- Takes a report of partial failure at a time. -/
def setDegraded (r : Registry) (name message : String) (now : Int) : Registry :=
  r.update name ⟨.degraded, some message, now⟩

/-- Takes a report of failure at a time. -/
def setUnhealthy (r : Registry) (name message : String) (now : Int) : Registry :=
  r.update name ⟨.unhealthy, some message, now⟩

/-- Says whether the listeners are up. -/
def setReady (r : Registry) (ready : Bool) : Registry := { r with listening := ready }

/-- The status of a component. -/
def status? (r : Registry) (name : String) : Option Status :=
  (Keyed.find? name r.components).map (·.status)

/-- The status of the whole. -/
def status (r : Registry) : Status := .worst (r.components.map (·.2.status))

/-- The health of the whole. -/
def summary (r : Registry) : Summary := ⟨r.status, r.components⟩

/-- Whether the collector is ready. -/
def readiness (r : Registry) : Readiness :=
  if !r.listening then ⟨false, some "Collector not yet listening"⟩
  else if r.status = .unhealthy then ⟨false, some "Critical component unhealthy"⟩
  else ⟨true, none⟩

end Registry

/-! ### Wire forms -/

open Json

/-- The members for a text that may be absent. -/
def optionalText (name : String) : Option String → List (String × Json)
  | none => []
  | some s => [(name, .str s)]

/-- A field for a text that may be absent. -/
def optionalTextField {σ : Type} (name : String) (set : Option String → σ → σ) : RecordField σ where
  name := name
  read := fun fuel _ gs => do
    let (s, rest) ← Reader.optional (Reader.text fuel) gs
    return (set s, rest)
  optional := true

/-- A status as a JSON value. -/
def Status.toJson (s : Status) : Json := .str s.name

/-- Reads a status. -/
def Status.read (fuel depth : Nat) : Reader Status := Reader.oneOf Status.named fuel depth

/-- The wire form of reports. -/
def Report.schema : Schema Report where
  name := "ComponentHealth"
  blank := default
  fields := [
    { name := "status"
      read := fun fuel depth gs => do
        let (s, rest) ← Status.read fuel depth gs
        return (fun r => { r with status := s }, rest)
      optional := false },
    optionalTextField "message" (fun m r => { r with message := m }),
    { name := "last_check_timestamp"
      read := fun _ _ gs => do
        let (i, rest) ← Reader.integer gs
        return (fun r => { r with checked := i }, rest)
      optional := false }]

/-- The members of a report, in the order of the fields. -/
def Report.members (r : Report) : List (String × Json) :=
  ("status", r.status.toJson) :: optionalText "message" r.message ++
    [("last_check_timestamp", .int r.checked)]

/-- A report as a JSON value, its members in the order of the fields. -/
def Report.toJson (r : Report) : Json := .obj r.members

/-- The wire form of readiness. -/
def Readiness.schema : Schema Readiness where
  name := "ReadinessResponse"
  blank := ⟨false, none⟩
  fields := [
    { name := "ready"
      read := fun _ _ gs => do
        let (b, rest) ← Reader.boolean gs
        return (fun r => { r with ready := b }, rest)
      optional := false },
    optionalTextField "reason" (fun m r => { r with reason := m })]

/-- Readiness as a JSON value, its members in the order of the fields. -/
def Readiness.toJson (r : Readiness) : Json :=
  .obj (("ready", .bool r.ready) :: optionalText "reason" r.reason)

/-- The wire form of a summary. -/
def Summary.schema : Schema Summary where
  name := "HealthResponse"
  blank := ⟨.healthy, []⟩
  fields := [
    { name := "status"
      read := fun fuel depth gs => do
        let (s, rest) ← Status.read fuel depth gs
        return (fun r => { r with status := s }, rest)
      optional := false },
    { name := "components"
      read := fun fuel depth gs => do
        let (ms, rest) ← Reader.keyedOf fuel (Report.schema.read fuel) depth gs
        return (fun r => { r with components := ms }, rest)
      optional := false }]

/-- A summary as a JSON value, all members in the order of their names. -/
def Summary.toJson (s : Summary) : Json :=
  .obj [
    ("components", .obj (s.components.map fun p => (p.1, .ofMembers p.2.members))),
    ("status", s.status.toJson)]

end NodeTelemetry.Health
