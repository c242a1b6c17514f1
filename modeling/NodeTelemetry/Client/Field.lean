import NodeTelemetry.Json.Reader

/-!
# Members of an event given on the command line

A member is given as `key=value`. White space around the key does not count. The value is read as
JSON; what is no JSON is taken as a string.
-/

namespace NodeTelemetry.Client

/-- Why an argument gives no member. -/
inductive FieldError where
  /-- There is no `=`. -/
  | missingSeparator (raw : String)
  /-- There is nothing before the `=`. -/
  | emptyKey
  /-- The key is the one of the event's kind. -/
  | reservedKey (key : String)
  deriving DecidableEq, Repr

/-- The wording of a member's error. -/
def FieldError.message : FieldError → String
  | missingSeparator raw => "expected key=value, got '" ++ raw ++ "'"
  | emptyKey => "field key must not be empty"
  | reservedKey key => "'" ++ key ++ "' is set by the event type argument"

/-- The value that a text stands for. -/
def fieldValue (raw : String) : Json :=
  match Json.read (Glyph.ofString raw) with
  | .ok v => v
  | .error _ => .str raw

/-- The member that an argument gives. -/
def parseField (raw : String) : Except FieldError (String × Json) :=
  match Text.splitOnce '=' raw.toList with
  | none => .error (.missingSeparator raw)
  | some (key, value) =>
    let key := String.ofList (Text.trim key)
    if key = "" then .error .emptyKey
    else if key = "type" then .error (.reservedKey key)
    else .ok (key, fieldValue (String.ofList value))

/-- The event that a client posts. -/
def eventBody (kind : String) (fields : List (String × Json)) : Json :=
  .obj (Keyed.insert "type" (.str kind) (Keyed.ofList fields))

end NodeTelemetry.Client
