import NodeTelemetry.Client.Session

/-!
# Requests and replies as bytes

The form in which a request and its reply go over a connection that carries one exchange: lines that
end in a carriage return and a line feed, an empty line, and the body. The end of the connection
ends the body of a reply.
-/

namespace NodeTelemetry.Client

/-- The end of a line. -/
def lineEnd : String := "\r\n"

/-- The host and the port of an address as a request names them. -/
def Address.hostText (a : Address) : String :=
  a.host.getD "" ++ (match a.port with | some n => ":" ++ toString n | none => "")

/-- The bytes of a request. -/
def Request.bytes (r : Request) : List UInt8 :=
  let body := (r.body.map fun v => Utf8.ofString v.compact).getD []
  let about := if r.body.isSome then
      ["content-type: application/json", "content-length: " ++ toString body.length]
    else []
  let lines := [r.method ++ " " ++ r.target ++ " HTTP/1.0", "host: " ++ r.server.hostText] ++ about
  Utf8.ofString (String.join (lines.map (· ++ lineEnd)) ++ lineEnd) ++ body

/-- The lines up to the first empty one, and the bytes after it, if there is one. `line` is what has
been read of a line, the latest byte first. -/
def splitHead (line : List UInt8) : List UInt8 → Option (List String × List UInt8)
  | [] => none
  | 0x0D :: 0x0A :: rest =>
    if line.isEmpty then some ([], rest)
    else (splitHead [] rest).map fun h => (Utf8.lossy line.reverse :: h.1, h.2)
  | b :: rest => splitHead (b :: line) rest

/-- The status in the first line of a reply. -/
def readStatus (line : String) : Option Nat :=
  match Text.words line.toList with
  | version :: status :: _ => if version.take 5 = "HTTP/".toList then Text.word? status else none
  | _ => none

/-- The value of a header. -/
def header? (name : String) (lines : List String) : Option String :=
  lines.findSome? fun line =>
    match Text.splitOnce ':' line.toList with
    | some (key, value) =>
      if Text.asciiLower (String.ofList key) = name then
        some (String.ofList (Text.trim value))
      else none
    | none => none

/-- The reply in a list of bytes, if there is one. -/
def Reply.ofBytes (bytes : List UInt8) : Option Reply :=
  match splitHead [] bytes with
  | some (first :: lines, body) =>
    (readStatus first).map fun status => ⟨status, header? "content-type" lines, [body], false⟩
  | _ => none

end NodeTelemetry.Client
