import NodeTelemetry.Log
import NodeTelemetry.Service.Message
import NodeTelemetry.Service.Subscription
import NodeTelemetry.Store

/-!
# The collector's service

The service answers requests from what the collector keeps.

* On the query surface, `/ping` says that it lives, `/history` gives a history, `/stream` subscribes
  to one, `/healthz` and `/readyz` tell of health and readiness, and `/metrics` shows the metrics.
* On the ingest surface, `/events` takes an event.

A path is matched as it is written. The query paths take `GET`, and `HEAD` for the same response
with no body; `/events` takes `POST`. Only an accepted event changes a history.

A subscription stays with the service under the name of its connection (`Service.connect`) until the
client leaves (`Service.disconnect`). `Service.advance` lets time pass.
-/

namespace NodeTelemetry

/-- The service. -/
structure Service where
  /-- The name of the node. -/
  node : String
  /-- What the collector keeps. -/
  store : Store
  /-- The period of new subscriptions. -/
  streamPeriodMs : Nat
  /-- The subscriptions by connection. -/
  streams : Keyed (Subscription Json)
  /-- The time, in milliseconds. -/
  nowMs : Nat

namespace Service

/-- The period of subscriptions unless another one is asked for. -/
def defaultPeriodMs : Nat := 1000

/-- A service at its start. -/
def start (node : String) (store : Store) (streamPeriodMs : Nat) : Service :=
  ⟨node, store, streamPeriodMs, [], 0⟩

/-- The body of a response. -/
inductive Payload where
  /-- A text. -/
  | text (s : String)
  /-- Frames that are sent as long as the client takes them. -/
  | frames (subscription : Subscription Json)

/-- What comes of a request. -/
structure Outcome where
  /-- The service after it. -/
  service : Service
  /-- The response. -/
  response : Response Payload
  /-- What is logged. -/
  logs : List Log.Line

/-- An outcome that changes nothing. -/
def answer (s : Service) (r : Response String) : Outcome := ⟨s, r.withBody (.text r.body), []⟩

/-! ### Paths -/

/-- What a path stands for. -/
inductive Endpoint where
  /-- A sign of life. -/
  | ping
  /-- A history. -/
  | history
  /-- A subscription. -/
  | stream
  /-- Health. -/
  | healthz
  /-- Readiness. -/
  | readyz
  /-- The metrics. -/
  | metrics
  /-- The place for events. -/
  | events
  deriving DecidableEq, Repr

/-- The paths of a surface. -/
def endpoints : Surface → List (String × Endpoint)
  | .query =>
    [("/ping", .ping), ("/history", .history), ("/stream", .stream), ("/healthz", .healthz),
      ("/readyz", .readyz), ("/metrics", .metrics)]
  | .ingest => [("/events", .events)]

/-- What a path of a surface stands for. -/
def endpoint? (surface : Surface) (path : String) : Option Endpoint :=
  ((endpoints surface).find? (fun e => e.1 == path)).map (·.2)

/-- The methods that an endpoint takes. -/
def Endpoint.methods : Endpoint → List String
  | .events => ["POST"]
  | _ => ["GET", "HEAD"]

/-! ### Queries -/

/-- Why a query is refused. -/
inductive QueryError where
  /-- The scope is given twice. -/
  | repeatedScope
  /-- The scope names no history. -/
  | unknownScope (error : ScopeError)
  deriving DecidableEq, Repr

/-- The name of the member that holds the scope. -/
def scopeName : String := "scope"

/-- The scope that a request asks for. -/
def requestedScope (r : Request) : Except QueryError Scope :=
  match r.queryMembers.filter (fun m => m.1 == scopeName) with
  | [] => (Scope.ofQuery none).mapError .unknownScope
  | [m] => (Scope.ofQuery (some m.2)).mapError .unknownScope
  | _ => .error .repeatedScope

/-- The response to a query that is refused. -/
def QueryError.response : QueryError → Response String
  | .repeatedScope =>
    .text 400 ("Failed to deserialize query string: duplicate field `" ++ scopeName ++ "`")
  | .unknownScope e => .refusal e.message

/-- Gives a history. -/
def history (s : Service) (r : Request) : Outcome :=
  match requestedScope r with
  | .error e => s.answer e.response
  | .ok scope => s.answer (.json 200 (.arr (s.store.entries scope)))

/-- Lets a metric change. -/
def updateMetrics (s : Service) (f : Metrics → Metrics) : Service :=
  { s with store := { s.store with metrics := f s.store.metrics } }

/-- Opens a subscription. Without a period its sender fails before the first tick, so that no frame
ever comes and nothing stays open. -/
def subscribe (s : Service) (r : Request) : Outcome :=
  match requestedScope r with
  | .error e => s.answer e.response
  | .ok scope =>
    if h : 0 < s.streamPeriodMs then
      ⟨s.updateMetrics Metrics.openStream,
        .stream (.frames (.start scope s.streamPeriodMs h)), []⟩
    else ⟨s, .stream (.text ""), []⟩

/-- Tells of health. -/
def healthReport (s : Service) : Outcome :=
  let summary := s.store.health.summary
  s.answer (.json (if summary.status = .unhealthy then 503 else 200) summary.toJson)

/-- Tells of readiness. -/
def readinessReport (s : Service) : Outcome :=
  let readiness := s.store.health.readiness
  s.answer (.json (if readiness.ready then 200 else 503) readiness.toJson)

/-- Shows the metrics, after counting the events kept. -/
def metricsReport (s : Service) : Outcome :=
  let s := s.updateMetrics fun m => m.setItems s.store.events.length .events
  s.answer (.text 200 s.store.metrics.exposition)

/-! ### Events -/

/-- Why an event is refused. -/
inductive PostError where
  /-- The body is no JSON text. -/
  | malformed (error : Json.ReadError)
  /-- The value is no event. -/
  | invalid (error : EventError)

/-- The wording of a refusal. -/
def PostError.message : PostError → String
  | malformed e => "bad json: " ++ e.message
  | invalid e => e.message

/-- The event in a body that arrives at a time. -/
def postedEvent (now : Time.Instant) (body : List UInt8) : Except PostError Event :=
  match Json.read (Utf8.decode body) with
  | .error e => .error (.malformed e)
  | .ok v => (Event.ofValue now v).mapError .invalid

/-- The longest body in bytes. -/
def bodyLimit : Nat := 2097152

/-- Takes an event. -/
def post (s : Service) (now : Time.Instant) (body : List UInt8) : Outcome :=
  if bodyLimit < body.length then
    s.answer (.text 413 "Failed to buffer the request body: length limit exceeded")
  else
    match postedEvent now body with
    | .error e =>
      { s.answer (.refusal e.message) with
        service := { s with store := s.store.countRejected }
        logs := [Log.rejected e.message] }
    | .ok event =>
      { s.answer (.bare 204) with
        service := { s with store := s.store.keepEvent event }
        logs := [Log.ingested s.node event.kindLabel] }

/-! ### Requests -/

/-- The outcome of a request to an endpoint. -/
def serve (s : Service) (now : Time.Instant) (r : Request) : Endpoint → Outcome
  | .ping => s.answer (.text 200 "ok")
  | .history => s.history r
  | .stream => s.subscribe r
  | .healthz => s.healthReport
  | .readyz => s.readinessReport
  | .metrics => s.metricsReport
  | .events => s.post now r.body

/-- The client of a subscription leaves. -/
def closeStream (s : Service) : Service := s.updateMetrics Metrics.closeStream

/-- The outcome without the body. A subscription ends at once. -/
def Outcome.withoutBody (o : Outcome) : Outcome :=
  match o.response.body with
  | .text _ => { o with response := o.response.withBody (.text "") }
  | .frames _ =>
    { service := o.service.closeStream
      response := o.response.withBody (.text "")
      logs := o.logs ++ [Log.streamClosed] }

/-- The outcome of a request on a surface at a time of day. -/
def respond (s : Service) (now : Time.Instant) (surface : Surface) (r : Request) : Outcome :=
  match endpoint? surface r.path with
  | none => s.answer (.bare 404)
  | some endpoint =>
    if r.method ∉ endpoint.methods then s.answer (.wrongMethod endpoint.methods)
    else if r.method = "HEAD" then (s.serve now r endpoint).withoutBody
    else s.serve now r endpoint

/-! ### Subscriptions -/

/-- How many subscriptions there are. -/
def activeStreams (s : Service) : Nat := s.streams.length

/-- The client of a connection leaves. -/
def disconnect (s : Service) (name : String) : Service × List Log.Line :=
  match Keyed.find? name s.streams with
  | none => (s, [])
  | some _ => ({ s.closeStream with streams := Keyed.erase name s.streams }, [Log.streamClosed])

/-- A subscription that was opened stays under the name of its connection, and its sender begins with
its first tick. A former client under that name leaves. -/
def connect (s : Service) (name : String) (stream : Subscription Json) :
    Service × List Log.Line :=
  let (s, logs) := s.disconnect name
  let stream := stream.run s.nowMs s.nowMs (s.store.newest? stream.scope)
  ({ s with streams := Keyed.insert name stream s.streams }, logs)

/-- Lets time pass, during which each subscription takes its ticks. -/
def advance (s : Service) (ms : Nat) : Service :=
  let untilMs := s.nowMs + ms
  { s with
    nowMs := untilMs
    streams := s.streams.map fun c =>
      (c.1, c.2.run s.nowMs untilMs (s.store.newest? c.2.scope)) }

/-- The bytes of a frame: the newest entry on a line of data, and an empty line. -/
def frameText (entry : Json) : String := "data: " ++ entry.compact ++ "\n\n"

/-- The client of a connection takes at most `limit` frames. -/
def receive (s : Service) (name : String) (limit : Nat) : List String × Service :=
  match Keyed.find? name s.streams with
  | none => ([], s)
  | some stream =>
    let (frames, stream) := stream.receive s.nowMs (s.store.newest? stream.scope) limit
    (frames.map frameText, { s with streams := Keyed.insert name stream s.streams })

end Service

end NodeTelemetry
