import NodeTelemetry.Json.Basic

/-!
# Log lines

The collector logs what it does as lines of a level, a message and named fields; each comes from a
part of the program, which a reader of logs can ask for by name. A line here is plain data; what the
collector logs is part of what its operations return.
-/

namespace NodeTelemetry.Log

/-- How much a line matters. -/
inductive Level where
  /-- For those who look for faults in the collector. -/
  | trace
  /-- For those who look into the collector. -/
  | debug
  /-- What happens in good health. -/
  | info
  /-- What went wrong in part. -/
  | warn
  /-- What went wrong. -/
  | error
  deriving DecidableEq, Repr

/-- The name of a level. -/
def Level.name : Level → String
  | trace => "TRACE"
  | debug => "DEBUG"
  | info => "INFO"
  | warn => "WARN"
  | error => "ERROR"

/-- The rank of a level, the most talkative first. -/
def Level.rank : Level → Nat
  | trace => 0
  | debug => 1
  | info => 2
  | warn => 3
  | error => 4

/-- The part of the program that logs a line. -/
inductive Part where
  /-- What starts and stops the collector. -/
  | collector
  /-- What listens for the collector's surfaces. -/
  | listener
  /-- What takes samples. -/
  | sampler
  /-- What reports the collector's doings. -/
  | reports
  /-- What takes events. -/
  | ingest
  /-- What sends streams. -/
  | stream
  deriving DecidableEq, Repr

/-- The name by which directives know a part. Names begin with those of the parts around them. -/
def Part.name : Part → String
  | collector => "node_collector"
  | listener => "node_collector::api"
  | sampler => "agent_lib::collector::sampler"
  | reports => "agent_lib::observability"
  | ingest => "agent_lib::api::ingest"
  | stream => "agent_lib::api::stream"

/-- A log line. -/
structure Line where
  /-- Where it comes from. -/
  part : Part
  /-- How much it matters. -/
  level : Level
  /-- What happened. -/
  message : String
  /-- The details. -/
  fields : List (String × Json)

/-- A log line as a JSON value. -/
def Line.toJson (l : Line) : Json :=
  .ofMembers (l.fields ++ [("level", .str l.level.name), ("message", .str l.message)])

/-- The layers of an error as one text, the outermost first. -/
def chain (layers : List String) : String := ": ".intercalate layers

/-- A line of the collector on a node about one kind of happening. -/
def node (level : Level) (message event node : String) (fields : List (String × Json)) : Line :=
  ⟨.reports, level, message, [("event", .str event), ("node", .str node)] ++ fields⟩

/-- The collector has started. -/
def started (name version : String) (queryPort ingestPort : Nat) : Line :=
  node .info "Node collector started" "collector_started" name
    [("version", .str version), ("query_port", .int queryPort), ("ingest_port", .int ingestPort)]

/-- The collector stops. -/
def stopped (name reason : String) : Line :=
  node .info "Node collector shutting down" "collector_shutdown" name [("reason", .str reason)]

/-- An event was accepted. -/
def ingested (name kind : String) : Line :=
  node .info "Rx event" "event_ingested" name [("event_type", .str kind)]

/-- Counters could not be read. -/
def readFailed (name source : String) (layers : List String) : Line :=
  node .warn "Counter read failed, degrading field" "counter_read_failed" name
    [("source", .str source), ("error", .str (chain layers))]

/-- The sampler starts. -/
def samplerStarted (intervalMs capacity : Nat) : Line :=
  ⟨.sampler, .info, "Starting node sampler",
    [("interval_ms", .int intervalMs), ("capacity", .int capacity)]⟩

/-- All counters can be read again. -/
def readable : Line := ⟨.sampler, .info, "All node counters readable again", []⟩

/-- A sample took at least the whole interval. -/
def overrun (elapsedMs : Nat) : Line :=
  ⟨.sampler, .debug, "Sampling overran interval, starting next tick immediately",
    [("elapsed_ms", .int elapsedMs)]⟩

/-- An event was refused. -/
def rejected (error : String) : Line :=
  ⟨.ingest, .debug, "Rejected event", [("error", .str error)]⟩

/-- A client of a stream has gone. -/
def streamClosed : Line := ⟨.stream, .debug, "Stream client disconnected", []⟩

end NodeTelemetry.Log
