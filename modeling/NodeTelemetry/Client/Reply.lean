import NodeTelemetry.Json.Typed
import NodeTelemetry.Text.Charset

/-!
# Replies of a surface

A reply has a status, perhaps a content type, and a body that arrives in pieces. A connection can
break before the body is complete. A status from 200 to 299 is good; with any other the body says
what is wrong, either as a record with a member `error` or as plain text.

A status below 200 only announces a reply that never comes, except that 101 ends the exchange; a
status of other than three digits is no status. A few status have no body, whatever follows them.
-/

namespace NodeTelemetry.Client

/-- A reply. -/
structure Reply where
  /-- The status. -/
  status : Nat
  /-- The content type, if it is given. -/
  contentType : Option String
  /-- The pieces of the body. -/
  pieces : List (List UInt8)
  /-- Whether the connection breaks after them. -/
  broken : Bool
  deriving DecidableEq, Repr

/-- The reasons of the known status. -/
def reasons : List (Nat × String) :=
  [(100, "Continue"), (101, "Switching Protocols"), (102, "Processing"), (200, "OK"),
    (201, "Created"), (202, "Accepted"), (203, "Non Authoritative Information"),
    (204, "No Content"), (205, "Reset Content"), (206, "Partial Content"), (207, "Multi-Status"),
    (208, "Already Reported"), (226, "IM Used"), (300, "Multiple Choices"),
    (301, "Moved Permanently"), (302, "Found"), (303, "See Other"), (304, "Not Modified"),
    (305, "Use Proxy"), (307, "Temporary Redirect"), (308, "Permanent Redirect"),
    (400, "Bad Request"), (401, "Unauthorized"), (402, "Payment Required"), (403, "Forbidden"),
    (404, "Not Found"), (405, "Method Not Allowed"), (406, "Not Acceptable"),
    (407, "Proxy Authentication Required"), (408, "Request Timeout"), (409, "Conflict"),
    (410, "Gone"), (411, "Length Required"), (412, "Precondition Failed"),
    (413, "Payload Too Large"), (414, "URI Too Long"), (415, "Unsupported Media Type"),
    (416, "Range Not Satisfiable"), (417, "Expectation Failed"), (418, "I'm a teapot"),
    (421, "Misdirected Request"), (422, "Unprocessable Entity"), (423, "Locked"),
    (424, "Failed Dependency"), (426, "Upgrade Required"), (428, "Precondition Required"),
    (429, "Too Many Requests"), (431, "Request Header Fields Too Large"),
    (451, "Unavailable For Legal Reasons"), (500, "Internal Server Error"),
    (501, "Not Implemented"), (502, "Bad Gateway"), (503, "Service Unavailable"),
    (504, "Gateway Timeout"), (505, "HTTP Version Not Supported"),
    (506, "Variant Also Negotiates"), (507, "Insufficient Storage"), (508, "Loop Detected"),
    (510, "Not Extended"), (511, "Network Authentication Required")]

/-- A status with its reason. -/
def statusText (status : Nat) : String :=
  toString status ++ " " ++
    (match reasons.find? (fun r => r.1 == status) with
    | some r => r.2
    | none => "<unknown status code>")

namespace Reply

/-- Whether the status is good. -/
def isGood (r : Reply) : Bool := 200 ≤ r.status && r.status < 300

/-- The status that ends the exchange and leaves the connection to something else. -/
def switching : Nat := 101

/-- Whether the status is that of a reply and not of an announcement. -/
def isFinal (r : Reply) : Bool := r.status = switching || (200 ≤ r.status && r.status < 1000)

/-- Whether a reply with this status has a body. -/
def hasBody (r : Reply) : Bool := r.status ≠ switching && r.status ≠ 204 && r.status ≠ 304

/-- The pieces of the body. -/
def body (r : Reply) : List (List UInt8) := if r.hasBody then r.pieces else []

/-- Whether the body breaks off. -/
def breaksOff (r : Reply) : Bool := r.hasBody && r.broken

/-- The bytes of the body, if it is complete. -/
def bytes? (r : Reply) : Option (List UInt8) := if r.breaksOff then none else some r.body.flatten

/-- The text of the body, if it is complete. -/
def text? (r : Reply) : Option String :=
  r.bytes?.map (Text.Charset.ofContentType r.contentType).decode

/-- The record that says what is wrong. -/
def wrongSchema : Json.Schema String where
  name := "ErrorResponse"
  blank := ""
  fields := [
    { name := "error"
      read := fun fuel _ gs => do
        let (s, rest) ← Json.Reader.text fuel gs
        return (fun _ => s, rest)
      optional := false }]

/-- What is wrong, as the body says it. -/
def complaint (r : Reply) : String :=
  let text := r.text?.getD ""
  match wrongSchema.readText (Glyph.ofString text) with
  | .ok s => s
  | .error _ => text

end Reply

end NodeTelemetry.Client
