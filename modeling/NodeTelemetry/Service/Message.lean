import NodeTelemetry.Json.Writer
import NodeTelemetry.Service.Form

/-!
# Requests and responses

The collector answers on two surfaces: one for queries and one for events. A request names what it
wants by a method and a target. The target is a path and, after a `?`, a query; before them it may
say by a scheme and an authority on which server they are. A response has a status, some headers and
a body.
-/

namespace NodeTelemetry.Service

/-- One of the two surfaces. -/
inductive Surface where
  /-- Where clients ask. -/
  | query
  /-- Where producers post events. -/
  | ingest
  deriving DecidableEq, Repr

/-- The name of a surface. -/
def Surface.name : Surface → String
  | query => "query"
  | ingest => "ingest"

/-- A request. -/
structure Request where
  /-- The method. -/
  method : String
  /-- Where the request goes: a path with its query, with or without the server, or a server
  alone. -/
  target : String
  /-- The body. -/
  body : List UInt8

namespace Request

/-- Whether a text begins with the mark between a scheme and an authority. -/
def startsAuthority : List Char → Bool
  | ':' :: '/' :: '/' :: _ => true
  | _ => false

/-- What follows the scheme and the mark after it, if there are any. -/
def afterScheme? : List Char → Option (List Char)
  | [] => none
  | c :: cs => if startsAuthority (c :: cs) then some (cs.drop 2) else afterScheme? cs

/-- Whether a character ends an authority. -/
def endsAuthority (c : Char) : Bool := c == '/' || c == '?' || c == '#'

/-- The path and the query as they are written, the server and a fragment left out. A server with a
scheme has at least the path `/`, a server alone has none. -/
def resource (r : Request) : List Char :=
  let cs := r.target.toList
  let written := cs.takeWhile (· != '#')
  match cs with
  | ['*'] | '/' :: _ => written
  | _ =>
    match afterScheme? written with
    | none => []
    | some rest =>
      match rest.dropWhile (!endsAuthority ·) with
      | '/' :: path => '/' :: path
      | rest => '/' :: rest

/-- The path, as it is written. -/
def path (r : Request) : String := String.ofList (r.resource.takeWhile (· != '?'))

/-- The members of the query. -/
def queryMembers (r : Request) : List (String × String) :=
  formMembers ((r.resource.dropWhile (· != '?')).drop 1)

end Request

/-- A response with a body of type `β`. -/
structure Response (β : Type) where
  /-- The status. -/
  status : Nat
  /-- The headers. -/
  headers : List (String × String)
  /-- The body. -/
  body : β

namespace Response

/-- The header that says what a body is. -/
def contentType (kind : String) : String × String := ("content-type", kind)

/-- A response with nothing but a status. -/
def bare (status : Nat) : Response String := ⟨status, [], ""⟩

/-- A response with a text. -/
def text (status : Nat) (body : String) : Response String :=
  ⟨status, [contentType "text/plain; charset=utf-8"], body⟩

/-- A response with a JSON value. -/
def json (status : Nat) (body : Json) : Response String :=
  ⟨status, [contentType "application/json"], body.compact⟩

/-- A response that says what was wrong with the request. -/
def refusal (message : String) : Response String := json 400 (.obj [("error", .str message)])

/-- A response to a method that a path does not take. -/
def wrongMethod (allowed : List String) : Response String :=
  ⟨405, [("allow", ",".intercalate allowed)], ""⟩

/-- A response whose body is a stream of events. -/
def stream {β : Type} (body : β) : Response β :=
  ⟨200, [contentType "text/event-stream", ("cache-control", "no-cache")], body⟩

/-- The response with another body. -/
def withBody {β γ : Type} (r : Response β) (body : γ) : Response γ := ⟨r.status, r.headers, body⟩

end Response

end NodeTelemetry.Service
