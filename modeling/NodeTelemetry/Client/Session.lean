import NodeTelemetry.Client.Address
import NodeTelemetry.Client.Frames
import NodeTelemetry.Client.Invocation
import NodeTelemetry.Client.Listing
import NodeTelemetry.Client.Reply

/-!
# Sessions of the client

A session is one exchange: an invocation gives a request (`Invocation.request`), and the reply to it
gives what is printed, perhaps with a failure at the end (`Invocation.report`). What was printed
before the failure stays.
-/

namespace NodeTelemetry.Client

/-- A request to a surface. -/
structure Request where
  /-- The server and its directory. -/
  server : Address
  /-- The method. -/
  method : String
  /-- The path and the query. -/
  target : String
  /-- The body, a JSON value, if there is one. -/
  body : Option Json

/-- What goes wrong in a session. -/
inductive Failure where
  /-- The address of the surface is none. -/
  | address (error : AddressError)
  /-- The address has no directory. -/
  | noDirectory
  /-- The request cannot be sent. -/
  | notSent
  /-- The surface refuses the request. -/
  | refused (status : Nat) (message : String)
  /-- The reply breaks off, and its text was wanted. -/
  | textLost
  /-- The reply breaks off, and the list in it was wanted. -/
  | listLost
  /-- The reply cannot be read. -/
  | unreadable (error : Json.ReadError)
  /-- A frame cannot be read. -/
  | malformedFrame (scope : Scope) (error : Json.ReadError)
  /-- The stream breaks off. -/
  | interrupted

/-- What lies below the failure of a reply that breaks off: each layer ends with the next one. -/
def lostLayers : List String :=
  let inPieces := "unexpected EOF during chunk size line"
  let inBody := "error reading a body from connection: " ++ inPieces
  ["request or response body error: " ++ inBody, inBody, inPieces]

/-- The layers of a failure, the outermost first. -/
def Failure.layers : Failure → List String
  | address e => ["Invalid collector URL", e.message]
  | noDirectory => ["Invalid path", "relative URL with a cannot-be-a-base base"]
  | notSent => ["Failed to send request"]
  | refused status message => ["API error (" ++ statusText status ++ "): " ++ message]
  | textLost => "Failed to read response" :: lostLayers
  | listLost => "Failed to parse response" :: lostLayers
  | unreadable e =>
    ["Failed to parse response", "error decoding response body: " ++ e.message, e.message]
  | malformedFrame .stats e => ["Malformed stats frame", e.message]
  | malformedFrame .events e => ["Malformed event frame", e.message]
  | interrupted => ["Stream interrupted"]

/-- What a session prints, and how it ends. -/
structure Report where
  /-- The lines. -/
  lines : List String
  /-- The failure, if it ends with one. -/
  failure : Option Failure

/-- The printed text. -/
def Report.output (r : Report) : String := String.join (r.lines.map (· ++ "\n"))

/-! ### Requests -/

/-- A request for a resource at an address. -/
def requestAt (address method resource query : String) (body : Option Json) :
    Except Failure Request :=
  match Address.read address with
  | .error e => .error (.address e)
  | .ok server =>
    match server.resource resource with
    | none => .error .noDirectory
    | some path => .ok ⟨server, method, path ++ query, body⟩

/-- The query that names a history. -/
def scopeQuery (scope : Scope) : String := "?scope=" ++ scope.label

/-- The request of an invocation. -/
def Invocation.request (i : Invocation) : Except Failure Request :=
  match i.command with
  | .ping => requestAt i.query "GET" "ping" "" none
  | .history scope _ => requestAt i.query "GET" "history" (scopeQuery scope) none
  | .stream scope _ => requestAt i.query "GET" "stream" (scopeQuery scope) none
  | .emit kind fields => requestAt i.ingest "POST" "events" "" (some (eventBody kind fields))

/-! ### Reports -/

/-- The newest entries of a list, all or so many. -/
def newest {α : Type} (limit : Option Nat) (as : List α) : List α :=
  match limit with
  | none => as
  | some n => as.drop (as.length - n)

/-- Reads a whole reply as a list. -/
def readList {α : Type} (item : (fuel depth : Nat) → Json.Reader α) (r : Reply) :
    Except Failure (List α) :=
  match r.bytes? with
  | none => .error .listLost
  | some bytes =>
    (Json.readWhole (fun fuel => Json.Reader.listOf fuel (item fuel) Json.maxDepth)
      (Utf8.decode bytes)).mapError .unreadable

/-- Shows a history: a table, or the list as it is. -/
def showHistory (p : Palette) (format : Format) (scope : Scope) (limit : Option Nat) (r : Reply) :
    Except Failure String :=
  match scope with
  | .stats => do
    let samples := newest limit (← readList ReceivedSample.schema.read r)
    return match format with
      | .table =>
        tableText p SampleRow.headings (samples.map fun s => (SampleRow.ofSample p s).cells)
      | .json => (Json.arr (samples.map ReceivedSample.toJson)).pretty
  | .events => do
    let events := newest limit (← readList Json.Reader.value r)
    return match format with
      | .table =>
        tableText p EventRow.headings (events.map fun e => (EventRow.ofValue p e).cells)
      | .json => (Json.arr events).pretty

/-- Shows a frame on a line. -/
def showFrame (p : Palette) (format : Format) (scope : Scope) (data : String) :
    Except Failure String :=
  let text := Glyph.ofString data
  match format, scope with
  | .json, _ => .ok data
  | .table, .stats =>
    match ReceivedSample.schema.readText text with
    | .ok s => .ok (SampleRow.ofSample p s).line
    | .error e => .error (.malformedFrame .stats e)
  | .table, .events =>
    match Json.read text with
    | .ok v => .ok (EventRow.ofValue p v).line
    | .error e => .error (.malformedFrame .events e)

/-- The frames of a stream that arrives in pieces. -/
def framesOf (pieces : List (List UInt8)) : List String :=
  (pieces.foldl
    (fun (acc : FrameDecoder × List (List String)) piece =>
      let (d, frames) := acc.1.push piece
      (d, frames :: acc.2)) (.empty, [])).2.reverse.flatten

/-- Shows frames until enough are shown or one cannot be read. At least one is shown. `atEnd` is how
a stream ends that has no more frames. -/
def followFrames (render : String → Except Failure String) (atEnd : Option Failure) :
    List String → (count : Option Nat) → Report
  | [], _ => ⟨[], atEnd⟩
  | data :: rest, count =>
    match render data with
    | .error f => ⟨[], some f⟩
    | .ok line =>
      match count with
      | some 0 | some 1 => ⟨[line], none⟩
      | _ =>
        let r := followFrames render atEnd rest (count.map (· - 1))
        ⟨line :: r.lines, r.failure⟩

/-- Follows a stream. -/
def follow (p : Palette) (format : Format) (scope : Scope) (count : Option Nat) (r : Reply) :
    Report :=
  let atEnd := if r.breaksOff then some Failure.interrupted else none
  let report := followFrames (showFrame p format scope) atEnd (framesOf r.body) count
  match format with
  | .table =>
    { report with lines := noticeText p ("Following " ++ scope.label ++ " stream") :: report.lines }
  | .json => report

/-- A report of one line, or of a failure. -/
def Report.ofExcept : Except Failure String → Report
  | .ok line => ⟨[line], none⟩
  | .error f => ⟨[], some f⟩

/-- What an invocation prints for a reply. -/
def Invocation.report (i : Invocation) (p : Palette) (r : Reply) : Report :=
  if !r.isFinal then ⟨[], some .notSent⟩
  else if !r.isGood then ⟨[], some (.refused r.status r.complaint)⟩
  else
    match i.command with
    | .ping =>
      .ofExcept <|
        match r.text? with
        | none => .error .textLost
        | some s => .ok (successText p (String.ofList (Text.trim s.toList)))
    | .history scope limit => .ofExcept (showHistory p i.format scope limit r)
    | .stream scope count => follow p i.format scope count r
    | .emit kind _ => ⟨[successText p ("Event '" ++ kind ++ "' accepted")], none⟩

end NodeTelemetry.Client
