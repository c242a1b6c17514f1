import NodeTelemetry.Collector.Config
import NodeTelemetry.Sampler.Host
import NodeTelemetry.Service.Basic

/-!
# Starting and stopping the collector

The collector reads its configuration, listens on the ports of its two surfaces, takes a first
sample, serves requests, and stops when it is interrupted. Whatever keeps it from serving ends it
with a failure:

* the configuration is not valid;
* a port cannot be had;
* a listener fails. The other surface has started by then, and no sample has been taken.

The machine on which it starts is given as plain data.
-/

namespace NodeTelemetry.Collector

open Service (Surface)

/-- The version of the collector. -/
def version : String := "0.1.0"

/-- What a collector meets when it starts. -/
structure Machine where
  /-- The environment. -/
  env : Environment
  /-- The files. -/
  files : Files
  /-- The ports in use. -/
  busyPorts : List Nat
  /-- The port that the system chooses next. -/
  freePort : Nat
  /-- The error, by its number, of a listener on a port. -/
  listenerFault : Nat → Option Nat

/-- Why a collector stops serving. -/
inductive Failure where
  /-- It cannot be configured. -/
  | config (error : ConfigError)
  /-- A port cannot be had. -/
  | port (number error : Nat)
  /-- A surface has failed. -/
  | surface (which : Surface) (error : Nat)

/-- The address of a port on all interfaces. -/
def address (port : Nat) : String := "0.0.0.0:" ++ toString port

/-- The layers of a failure, the outermost first. -/
def Failure.layers : Failure → List String
  | config e => e.layers
  | port n e => ["Failed to bind " ++ address n, systemErrorText e]
  | surface _ e => [systemErrorText e]

/-! ### Log lines -/

/-- The collector starts. -/
def startingLine : Log.Line := ⟨.collector, .info, "Starting node-collector", []⟩

/-- The collector is configured. -/
def configuredLine (c : Config) : Log.Line :=
  ⟨.collector, .info, "Collector configured",
    [("node_name", .str c.nodeName), ("interval_ms", .int c.intervalMs),
      ("capacity", .int c.capacity)]⟩

/-- A surface starts on a port. -/
def surfaceLine (s : Surface) (port : Nat) : Log.Line :=
  ⟨.listener, .info, "Starting API server",
    [("surface", .str s.name), ("addr", .str (address port))]⟩

/-- A surface has failed. -/
def exitedLine (s : Surface) (error : Nat) : Log.Line :=
  ⟨.collector, .error, "API server exited",
    [("surface", .str s.name), ("error", .str (systemErrorText error))]⟩

/-- The lines of a collector on a node that is interrupted. -/
def interruptedLines (node : String) : List Log.Line :=
  [Log.stopped node "SIGINT received", ⟨.collector, .info, "Shutting down", []⟩]

/-! ### Listening -/

/-- The error of a port in use, by its number. -/
def portInUse : Nat := 98

/-- Takes a port, or for zero one that the system chooses. -/
def Machine.listen (m : Machine) (port : Nat) : Except Failure (Nat × Machine) :=
  if port = 0 then
    .ok (m.freePort, { m with freePort := m.freePort + 1, busyPorts := m.freePort :: m.busyPorts })
  else if port ∈ m.busyPorts then .error (.port port portInUse)
  else .ok (port, { m with busyPorts := port :: m.busyPorts })

/-! ### Launching -/

/-- What comes of a start. -/
structure Launch where
  /-- The ports taken: of the query surface, then of the ingest surface. -/
  ports : List Nat
  /-- What was logged. -/
  logs : List Log.Line
  /-- The service, if it runs. -/
  outcome : Except Failure Service

/-- What a configured collector keeps at first: nothing but the components' good health. -/
def firstStore (c : Config) (now : Int) : Store :=
  let health := [Health.samplerName, Health.queryName, Health.ingestName].foldl
    (fun h name => Health.Registry.register h name now) .empty
  { Store.empty c.capacity with health := health }

/-- The sampler of a configured collector. -/
def firstSampler (c : Config) : Sampler :=
  .start (Sampler.Config.default.withInterval c.intervalMs) c.nodeName

/-- The log lines of a collector that has taken its ports. -/
def startedLines (c : Config) (surfaces : List (Surface × Nat)) : List Log.Line :=
  surfaces.map (fun s => surfaceLine s.1 s.2) ++
    [Log.started c.nodeName version c.queryPort c.ingestPort]

/-- Starts the surfaces on the ports taken, and the sampler. -/
def serve (m : Machine) (c : Config) (clock : Clock) (query ingest : Nat) : Launch :=
  let logs := [startingLine, configuredLine c]
  let surfaces := [(Surface.query, query), (Surface.ingest, ingest)]
  match surfaces.findSome? (fun s => (m.listenerFault s.2).map (fun e => (s.1, e))) with
  | some (which, error) =>
    let others := surfaces.filter (fun s => (m.listenerFault s.2).isNone)
    ⟨[query, ingest],
      logs ++ startedLines c others ++
        [exitedLine which error, Log.stopped c.nodeName "API server exited"],
      .error (.surface which error)⟩
  | none =>
    let sampler := firstSampler c
    let (_, readings) := m.files.readings c.root .fresh 0
    let effects := (sampler.run clock 0 0 (fun _ => readings)).map (·.2)
    let store := (firstStore c (clock 0).secs).applyAll effects
    let store := { store with health := store.health.setReady true }
    ⟨[query, ingest],
      logs ++ Log.samplerStarted c.intervalMs c.capacity ::
        effects.flatMap (Effect.logs c.nodeName) ++ startedLines c surfaces,
      .ok (.start c.nodeName store c.intervalMs)⟩

/-- Starts a collector on a machine. -/
def launch (m : Machine) (clock : Clock) : Launch :=
  match Config.ofEnvironment m.env with
  | .error e => ⟨[], [startingLine], .error (.config e)⟩
  | .ok c =>
    let logs := [startingLine, configuredLine c]
    match m.listen c.queryPort with
    | .error f => ⟨[], logs, .error f⟩
    | .ok (query, m) =>
      match m.listen c.ingestPort with
      | .error f => ⟨[query], logs, .error f⟩
      | .ok (ingest, m) => serve m c clock query ingest

end NodeTelemetry.Collector
