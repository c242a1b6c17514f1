import NodeTelemetry.Json.Typed

/-!
# Events posted to the collector

An event is an object that some producer posts: a kind under the name `type`, a time under the name
`ts`, and any other members. An event without a time is stamped with the time of its arrival.

Written back, an event is one flat object: kind and time first, then the other members in the order
of their names.
-/

namespace NodeTelemetry

/-- An event. -/
structure Event where
  /-- What kind of event it is, as its producer said. -/
  kind : Json
  /-- When it happened. -/
  time : Json
  /-- All other members. -/
  fields : Keyed Json
  deriving Inhabited

/-- Why a posted value is no event. -/
inductive EventError where
  /-- It is no object. -/
  | notAnObject
  /-- It has no kind. -/
  | missingType
  deriving DecidableEq, Repr

/-- The wording of an event's error. -/
def EventError.message : EventError → String
  | notAnObject => "event body must be a JSON object"
  | missingType => "invalid node event ingestion: missing type"

namespace Event

/-- The name of the member that holds the kind. -/
def kindName : String := "type"

/-- The name of the member that holds the time. -/
def timeName : String := "ts"

/-- The event that a posted value is, stamped with `now` if it says no time. -/
def ofValue (now : Time.Instant) : Json → Except EventError Event
  | .obj members =>
    match Keyed.find? kindName members with
    | none => .error .missingType
    | some kind =>
      let time := (Keyed.find? timeName members).getD (.str now.stamp)
      .ok ⟨kind, time, (Keyed.erase kindName members).erase timeName⟩
  | _ => .error .notAnObject

/-- The kind as a text: a string as it is, anything else as JSON. -/
def kindLabel (e : Event) : String := e.kind.label

/-- The value of one of the other members. -/
def field? (e : Event) (name : String) : Option Json := e.fields.find? name

/-- The flat object of an event, its members in the order in which they are written. -/
def toJson (e : Event) : Json := .obj ((kindName, e.kind) :: (timeName, e.time) :: e.fields)

/-- An event of which not all members have been read. -/
structure Draft where
  /-- The kind, if it was met. -/
  kind : Option Json
  /-- The time, if it was met. -/
  time : Option Json
  /-- The other members, the latest first. -/
  fields : List (String × Json)

namespace Draft

/-- The draft before the first member. -/
def empty : Draft := ⟨none, none, []⟩

/-- Whether a member was met of this name, if it may be given only once. -/
def has (draft : Draft) (name : String) : Bool :=
  (name = kindName && draft.kind.isSome) || (name = timeName && draft.time.isSome)

/-- Adds a member. -/
def add (draft : Draft) (name : String) (v : Json) : Draft :=
  if name = kindName then { draft with kind := some v }
  else if name = timeName then { draft with time := some v }
  else { draft with fields := (name, v) :: draft.fields }

/-- Adds members one after the other. -/
def addAll : Draft → List (String × Json) → Except Json.Cause Draft
  | draft, [] => .ok draft
  | draft, (name, v) :: rest =>
    if draft.has name then .error (.duplicateField name) else addAll (draft.add name v) rest

/-- The event, when all members have been read. -/
def finish (draft : Draft) : Except Json.Cause Event :=
  match draft.kind, draft.time with
  | some kind, some time => .ok ⟨kind, time, Keyed.ofList draft.fields.reverse⟩
  | none, _ => .error (.missingField kindName)
  | some _, none => .error (.missingField timeName)

end Draft

/-- How a message says that an event was wanted. -/
def wanted : String := "struct Event"

/-- The event that a value is which was written as one. -/
def ofWritten : Json → Except Json.Cause Event
  | .obj members => do (← Draft.empty.addAll members).finish
  | .null => .error (.wrongType .null wanted)
  | .bool b => .error (.wrongType (.bool b) wanted)
  | .int i => .error (.wrongType (.int i) wanted)
  | .real x => .error (.wrongType (.real x) wanted)
  | .str s => .error (.wrongType (.str s) wanted)
  | .arr _ => .error (.wrongType .sequence wanted)

open Json in
/-- Reads the members of a written event, in any order. -/
def readMembers (limit depth : Nat) : (fuel : Nat) → (first : Bool) → Draft → Reader Event
  | 0, _, _, gs => .error (faultAt gs .eofObject)
  | fuel + 1, first, draft, gs => do
    match ← Reader.nextKey limit first gs with
    | (none, gs) =>
      match draft.finish with
      | .ok e => return (e, gs.tail)
      | .error cause => throw (faultAt gs.tail cause)
    | (some name, gs) =>
      if draft.has name then
        throw (faultAt (Schema.afterBracket '\x7d' gs) (.duplicateField name))
      let ((), gs) ← Reader.colon gs
      let (v, gs) ← Reader.value limit depth gs
      readMembers limit depth fuel false (draft.add name v) gs

open Json in
/-- Reads a written event. -/
def read (fuel depth : Nat) : Reader Event := fun gs =>
  match Reader.skipBlanks gs with
  | [] => .error ⟨.eofValue, 0⟩
  | .scalar '\x7b' :: rest =>
    match depth with
    | 0 => .error (faultIn (.scalar '\x7b' :: rest) .recursionLimit)
    | depth + 1 => readMembers fuel depth fuel true .empty rest
  | rest => Reader.mismatch wanted rest

/-- Reads a whole text as a written event. -/
def readText (text : List Glyph) : Except Json.ReadError Event :=
  Json.readWhole (fun fuel => read fuel Json.maxDepth) text

end Event

end NodeTelemetry
