import NodeTelemetry.Client.Field
import NodeTelemetry.CommandLine.Grammar
import NodeTelemetry.Scope

/-!
# Invocations of the client

The client is invoked with a command: to see whether the collector lives, to show a history, to
follow one, or to post an event. Options before the command give the addresses of the two surfaces,
which can also come from the environment, and the format of the output.
-/

namespace NodeTelemetry.Client

open CommandLine

/-- The format of the output. -/
inductive Format where
  /-- Tables and lines. -/
  | table
  /-- JSON. -/
  | json
  deriving DecidableEq, Repr

/-- What the client is to do. -/
inductive Command where
  /-- Ask for a sign of life. -/
  | ping
  /-- Show the newest entries of a history, all or so many. -/
  | history (scope : Scope) (limit : Option Nat)
  /-- Follow a history, to the end or for so many frames. -/
  | stream (scope : Scope) (count : Option Nat)
  /-- Post an event. -/
  | emit (kind : String) (fields : List (String × Json))

/-- The addresses of the surfaces and the format. -/
structure Setup where
  /-- The address of the query surface, if it is given. -/
  query : Option String
  /-- The address of the ingest surface, if it is given. -/
  ingest : Option String
  /-- The format. -/
  format : Format
  deriving DecidableEq, Repr

/-- An invocation. -/
structure Invocation where
  /-- The address of the query surface. -/
  query : String
  /-- The address of the ingest surface. -/
  ingest : String
  /-- The format. -/
  format : Format
  /-- The command. -/
  command : Command

/-- What the client says of its version. -/
def versionText : String := "nodectl 0.1.0\n"

/-- The variable with the address of the query surface. -/
def queryVariable : String := "NODECTL_QUERY_URL"

/-- The variable with the address of the ingest surface. -/
def ingestVariable : String := "NODECTL_INGEST_URL"

/-- The address of the query surface if none is given. -/
def defaultQuery : String := "http://localhost:3100"

/-- The address of the ingest surface if none is given. -/
def defaultIngest : String := "http://localhost:3101"

/-! ### Values -/

/-- Reads one of several words. -/
def oneOf {α : Type} (words : List (String × α)) (value : String) : Except UsageError α :=
  match words.find? (fun w => w.1 == value) with
  | some w => .ok w.2
  | none => .error (.otherValue value)

/-- Reads a format. -/
def readFormat : String → Except UsageError Format := oneOf [("table", .table), ("json", .json)]

/-- Reads a scope. -/
def readScope : String → Except UsageError Scope :=
  oneOf [(Scope.stats.label, .stats), (Scope.events.label, .events)]

/-- Reads a natural number. -/
def readCount (value : String) : Except UsageError Nat :=
  (Text.readWord value.toList).mapError fun e => .badValue e.message

/-- Reads a member of an event. -/
def readField (value : String) : Except UsageError (String × Json) :=
  (parseField value).mapError fun e => .badValue e.message

/-! ### Levels -/

/-- The option that asks for help. -/
def helpSwitch {σ : Type} : Switch σ := ⟨"help", some 'h', .stop .help⟩

/-- The level of a command without arguments. -/
def pingLevel : Level Unit := ⟨[helpSwitch], none, []⟩

/-- The level of a command on a history, where an option gives a number. -/
def scopeLevel (number : String) (letter : Char) : Level (Scope × Option Nat) :=
  ⟨[⟨"scope", some 's', .once fun v r => return (← readScope v, r.2)⟩,
    ⟨number, some letter, .once fun v r => return (r.1, some (← readCount v))⟩, helpSwitch],
    none, []⟩

/-- The level of the command that posts an event. -/
def emitLevel : Level (Option String × List (String × Json)) :=
  ⟨[⟨"field", none, .many fun v r => return (r.1, r.2 ++ [← readField v])⟩, helpSwitch],
    some fun v r => (some v, r.2), []⟩

/-- The words that begin a command. -/
def commandWords : List String := ["ping", "history", "stream", "emit", "help"]

/-- The first level. -/
def setupLevel : Level Setup :=
  ⟨[⟨"query-url", none, .once fun v s => return { s with query := some v }⟩,
    ⟨"ingest-url", none, .once fun v s => return { s with ingest := some v }⟩,
    ⟨"format", some 'f', .once fun v s => return { s with format := ← readFormat v }⟩,
    helpSwitch, ⟨"version", some 'V', .stop .version⟩], none, commandWords⟩

/-- What comes of a call for help on commands. -/
def helpOn : List String → UsageError
  | [] => .help
  | [word] => if word ∈ commandWords then .help else .unknownCommand word
  | word :: next :: _ => .unknownCommand (if word ∈ commandWords then next else word)

/-- Reads a command that begins with a word. -/
def readCommand (word : String) (rest : List String) : Except UsageError Command := do
  match word with
  | "ping" =>
    let _ ← pingLevel.readLast rest ()
    return .ping
  | "history" =>
    let p ← (scopeLevel "limit" 'l').readLast rest (.events, none)
    return .history p.result.1 p.result.2
  | "stream" =>
    let p ← (scopeLevel "count" 'c').readLast rest (.events, none)
    return .stream p.result.1 p.result.2
  | "emit" =>
    let p ← emitLevel.readLast rest (none, [])
    match p.result.1 with
    | some kind => return .emit kind p.result.2
    | none => throw .missingArgument
  | _ => throw (helpOn rest)

/-- Reads a command line in an environment. The command's own faults count before those of an option
that is pending when the command begins. -/
def Invocation.read (env : List (String × String)) (words : List String) :
    Except UsageError Invocation := do
  let value? (name : String) := (env.find? (fun v => v.1 == name)).map (·.2)
  let (p, next) ← setupLevel.read words (.start ⟨none, none, .table⟩)
  match next with
  | some (word, rest) =>
    let command ← readCommand word rest
    let setup := (← p.settle).result
    return {
      query := (setup.query.or (value? queryVariable)).getD defaultQuery
      ingest := (setup.ingest.or (value? ingestVariable)).getD defaultIngest
      format := setup.format
      command := command }
  | none =>
    let p ← p.settle
    let silent := p.given.isEmpty && (value? queryVariable).isNone && (value? ingestVariable).isNone
    throw (if silent then .nothingGiven else .missingCommand)

end NodeTelemetry.Client
