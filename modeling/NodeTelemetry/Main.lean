import NodeTelemetry.Client.Message

/-!
# The client's command line

The program `nodectl` reads its arguments, makes one exchange with a surface and prints the report.

The exchange goes through the directory that the variable `NODECTL_CONNECTION` names: the program
writes the request into the pipe `request` there and reads the reply from the pipe `reply`. Who
holds the other ends of the pipes carries the bytes over the network. Without the directory nothing
can be sent.

The exit code is 0 if all went well, 1 after a failure and 2 if the arguments were wrong.
-/

namespace NodeTelemetry.Client

open CommandLine (UsageError)

/-- The variable with the directory of the connection. -/
def connectionVariable : String := "NODECTL_CONNECTION"

/-- The variables that are set, of those that count. -/
def readVariables (names : List String) : IO (List (String × String)) := do
  let values ← names.mapM fun name => do return (name, ← IO.getEnv name)
  return values.filterMap fun v => v.2.map fun value => (v.1, value)

/-- How the program is used. -/
def synopsis : String :=
  "Usage: nodectl [--query-url URL] [--ingest-url URL] [--format table|json] COMMAND\n\n" ++
    "Commands:\n  ping\n  history [--scope stats|events] [--limit N]\n" ++
    "  stream [--scope stats|events] [--count N]\n  emit KIND [--field KEY=VALUE]...\n"

/-- What is said of arguments that are wrong. -/
def usageFault : UsageError → String
  | .help | .nothingGiven => synopsis
  | .version => versionText
  | .missingCommand => "error: a command is missing\n\n" ++ synopsis
  | .unknownCommand w => "error: there is no command '" ++ w ++ "'\n\n" ++ synopsis
  | .unknownArgument w => "error: unexpected argument '" ++ w ++ "'\n\n" ++ synopsis
  | .missingArgument => "error: an argument is missing\n\n" ++ synopsis
  | .missingValue o => "error: a value is required for '--" ++ o ++ "'\n\n" ++ synopsis
  | .unwantedValue o => "error: '--" ++ o ++ "' takes no value\n\n" ++ synopsis
  | .repeated o => "error: '--" ++ o ++ "' cannot be given again\n\n" ++ synopsis
  | .otherValue v => "error: invalid value '" ++ v ++ "'\n\n" ++ synopsis
  | .badValue reason => "error: " ++ reason ++ "\n\n" ++ synopsis

/-- Says why arguments are not carried out. -/
def explain (e : UsageError) : IO UInt32 := do
  match e with
  | .help | .version =>
    IO.print (usageFault e)
    return 0
  | _ =>
    IO.eprint (usageFault e)
    return 2

/-- Says how a session failed. -/
def complain (f : Failure) : IO UInt32 := do
  IO.eprintln ("Error: " ++ f.layers.headD "")
  for cause in f.layers.tail do
    IO.eprintln ("  " ++ cause)
  return 1

/-- Makes the exchange, if the connection can be used. -/
def exchange (directory : Option String) (r : Request) : IO (Option Reply) := do
  match directory with
  | none => return none
  | some d =>
    try
      IO.FS.writeBinFile (d ++ "/request") (ByteArray.mk r.bytes.toArray)
      let bytes ← IO.FS.readBinFile (d ++ "/reply")
      return Reply.ofBytes bytes.toList
    catch _ => return none

/-- Carries out an invocation. -/
def carryOut (directory : Option String) (i : Invocation) : IO UInt32 := do
  match i.request with
  | .error f => complain f
  | .ok r =>
    match ← exchange directory r with
    | none => complain .notSent
    | some reply =>
      let report := i.report ⟨false⟩ reply
      IO.print report.output
      match report.failure with
      | none => return 0
      | some f => complain f

end NodeTelemetry.Client

open NodeTelemetry.Client in
/-- The program. -/
def main (args : List String) : IO UInt32 := do
  let env ← readVariables [queryVariable, ingestVariable]
  let directory ← IO.getEnv connectionVariable
  match Invocation.read env args with
  | .error e => explain e
  | .ok i => carryOut directory i
