import NodeTelemetry.Binary.Decimal
import NodeTelemetry.Binary.Layout
import NodeTelemetry.History
import NodeTelemetry.Keyed
import NodeTelemetry.Text.Blank
import NodeTelemetry.Text.Quoted

/-!
# Configuration of the collector

The collector is configured by variables of its environment. A variable whose name begins with
`COLLECTOR_`, in any case, sets the option named by the rest.

A value is first read as what it looks like: a truth value, an integer, a number, or else a text
(`Setting.ofText`). An option that wants a natural number takes any of them that it can turn into
one; an option that wants a text takes the written form of what was read, so `007` is the text `7`.

The name of an option can go on with steps, `.name` or `[index]`, that lead into it. Such a variable
makes the option a map or a sequence (`Step.reach`), which no option wants to be.

A configuration that was read is checked (`Config.check`): the interval and the capacity are not
zero, and the two surfaces have ports of their own.
-/

namespace NodeTelemetry.Collector

/-- Variables with their values. -/
abbrev Environment := List (String × String)

/-- The value of a variable. -/
def Environment.value? (env : Environment) (name : String) : Option String :=
  (env.find? (fun v => v.1 == name)).map (·.2)

/-- What a value looks like. -/
inductive Setting where
  /-- A truth value. -/
  | bool (b : Bool)
  /-- An integer of 64 bits. -/
  | int (i : Int)
  /-- A number. -/
  | real (x : Binary)
  /-- A text. -/
  | text (s : String)
  /-- Values by name. -/
  | map
  /-- Values in order. -/
  | sequence
  deriving Repr

/-- The integer of 64 bits that a text writes, if it writes one. -/
def integer? (s : String) : Option Int :=
  let (negative, ds) := match s.toList with
    | '-' :: ds => (true, ds)
    | '+' :: ds => (false, ds)
    | ds => (false, ds)
  if ds.isEmpty ∨ !ds.all Char.isDigit then none
  else
    let n : Int := Text.ofDigits ds
    let i := if negative then -n else n
    if -(Text.maxInteger + 1) ≤ i ∧ i ≤ Text.maxInteger then some i else none

namespace Setting

/-- Reads a value as what it looks like. -/
def ofText (s : String) : Setting :=
  match Text.asciiLower s with
  | "true" => bool true
  | "false" => bool false
  | _ =>
    match integer? s with
    | some i => int i
    | none =>
      match Binary.read? .double s.toList with
      | some x => real x
      | none => text s

end Setting

/-- Why the collector cannot be configured. -/
inductive ConfigError where
  /-- A natural number is wanted, and the integer is negative. -/
  | negative (key : String) (i : Int)
  /-- A natural number is wanted, and the text is none. -/
  | notNatural (key s : String)
  /-- The value is made of others, where a simple one is wanted. -/
  | notSimple (key found wanted : String)
  /-- The number of a port is too large. -/
  | noPort (key : String) (n : Nat)
  /-- The time between samples is zero. -/
  | zeroInterval
  /-- The histories could keep nothing. -/
  | zeroCapacity
  /-- Both surfaces have the same port. -/
  | samePort (n : Nat)
  deriving DecidableEq, Repr

/-- What is said first of a value that does not fit its option. -/
def misfit : String := "Invalid collector configuration"

/-- The layers of an error, the outermost first. -/
def ConfigError.layers : ConfigError → List String
  | negative key i =>
    [misfit,
      "invalid type: 64-bit integer `" ++ String.ofList (Text.signed i) ++
        "`, expected an unsigned 64 bit or less integer for key `" ++ key ++ "` in the environment"]
  | notNatural key s =>
    [misfit,
      "invalid type: string " ++ Text.quoted s ++ ", expected an integer for key `" ++ key ++
        "` in the environment"]
  | notSimple key found wanted =>
    [misfit, "invalid type: " ++ found ++ ", expected " ++ wanted ++ " for key `" ++ key ++ "`"]
  | noPort key n =>
    [misfit,
      "invalid type: 64-bit unsigned integer `" ++ toString n ++
        "`, expected an unsigned 16 bit integer for key `" ++ key ++ "`"]
  | zeroInterval => ["sample_interval_ms must be greater than zero"]
  | zeroCapacity => ["history_capacity must be greater than zero"]
  | samePort n => ["query_port and ingest_port must differ (both " ++ toString n ++ ")"]

namespace Setting

/-- The natural number that an option gets from a value. A truth value counts as 0 or 1, also in
the words that switches use, and a number is rounded. -/
def toNatural (key : String) : Setting → Except ConfigError Nat
  | bool b => .ok b.toNat
  | int i => if i < 0 then .error (.negative key i) else .ok i.toNat
  | real x => .ok (x.toNatSaturating Text.maxWord)
  | text s =>
    match Text.asciiLower s with
    | "on" | "yes" => .ok 1
    | "off" | "no" => .ok 0
    | _ => .error (.notNatural key s)
  | map => .error (.notSimple key "map" "an integer")
  | sequence => .error (.notSimple key "sequence" "an integer")

/-- The text that an option gets from a value: its written form. -/
def toText (key : String) : Setting → Except ConfigError String
  | bool b => .ok (toString b)
  | int i => .ok (String.ofList (Text.signed i))
  | real x => .ok (String.ofList (Binary.plain.render .double x))
  | text s => .ok s
  | map => .error (.notSimple key "map" "a string")
  | sequence => .error (.notSimple key "sequence" "a string")

/-- The largest number of a port. -/
def maxPort : Nat := 65535

/-- The port that an option gets from a value. -/
def toPort (key : String) (v : Setting) : Except ConfigError Nat := do
  let n ← v.toNatural key
  if maxPort < n then .error (.noPort key n) else .ok n

end Setting

/-- The configuration of the collector. -/
structure Config where
  /-- The name of the node. -/
  nodeName : String
  /-- The port of the query surface; zero leaves the choice to the system. -/
  queryPort : Nat
  /-- The port of the ingest surface; zero leaves the choice to the system. -/
  ingestPort : Nat
  /-- The time between samples. -/
  intervalMs : Nat
  /-- How many entries each history keeps. -/
  capacity : Nat
  /-- The directory with the kernel's tables. -/
  root : String
  deriving DecidableEq, Repr

namespace Config

/-- What the names of the variables begin with, in lower case. -/
def variableStart : List Char := "collector_".toList

/-- The name of a variable in lower case. Of the letters outside the basic Latin range, only the
Kelvin sign has a basic one. -/
def lowerName (name : String) : List Char :=
  name.toList.map fun c => if c = '\u212a' then 'k' else c.toLower

/-- What follows the common start of a variable's name, if the name has that start. -/
def afterStart? (name : String) : Option (List Char) :=
  let cs := lowerName name
  if cs.take variableStart.length = variableStart then some (cs.drop variableStart.length) else none

/-- Whether a character can be part of a name in a path. -/
def isNameChar (c : Char) : Bool := c.isAlphanum || c == ' ' || c == '_' || c == '-'

/-- A step into an option. -/
inductive Step where
  /-- To the value of a name. -/
  | name
  /-- To the value at an index. -/
  | index
  deriving DecidableEq, Repr

/-- What an option is that has values to step to. -/
def Step.reach : Step → Setting
  | name => .map
  | index => .sequence

/-- Whether a text is an index: an integer of 64 bits with blanks around it. -/
def isIndex (cs : List Char) : Bool :=
  let isSpace (c : Char) : Bool := c == ' ' || c == '\t'
  let digits := (((cs.dropWhile isSpace).reverse).dropWhile isSpace).reverse
  digits.head? != some '+' && (integer? (String.ofList digits)).isSome

/-- Reads the steps after the name of an option, if there is nothing but steps. Each takes a
character at least. -/
def steps? : (fuel : Nat) → List Char → Option (List Step)
  | _, [] => some []
  | 0, _ :: _ => none
  | fuel + 1, '.' :: cs =>
    if (cs.takeWhile isNameChar).isEmpty then none
    else (steps? fuel (cs.dropWhile isNameChar)).map (.name :: ·)
  | fuel + 1, '[' :: cs =>
    match Text.splitOnce ']' cs with
    | some (index, rest) => if isIndex index then (steps? fuel rest).map (.index :: ·) else none
    | none => none
  | _ + 1, _ :: _ => none

/-- The option that a variable sets, and the value that it gives. A name that is no option with
steps is the name of an option as a whole. -/
def entry? (name value : String) : Option (String × Setting) := do
  let cs ← afterStart? name
  let option := cs.takeWhile isNameChar
  match steps? cs.length (cs.dropWhile isNameChar) with
  | some (step :: _) =>
    if option.isEmpty then return (String.ofList cs, .ofText value)
    else return (String.ofList option, step.reach)
  | _ => return (String.ofList cs, .ofText value)

/-- The options that an environment sets. Of two variables for one option the later one counts. -/
def options (env : Environment) : Keyed Setting :=
  Keyed.ofList (env.filterMap fun v => entry? v.1 v.2)

/-- The configuration without options. The name of the node comes from the variable `NODE_NAME`. -/
def default (env : Environment) : Config :=
  ⟨(env.value? "NODE_NAME").getD "unknown", 3100, 3101, 1000, defaultCapacity, "/proc"⟩

/-- Sets an option. Options of other names do not count. -/
def set (c : Config) (key : String) (v : Setting) : Except ConfigError Config :=
  match key with
  | "node_name" => return { c with nodeName := ← v.toText key }
  | "query_port" => return { c with queryPort := ← v.toPort key }
  | "ingest_port" => return { c with ingestPort := ← v.toPort key }
  | "sample_interval_ms" => return { c with intervalMs := ← v.toNatural key }
  | "history_capacity" => return { c with capacity := ← v.toNatural key }
  | "proc_root" => return { c with root := ← v.toText key }
  | _ => .ok c

/-- Checks a configuration. -/
def check (c : Config) : Except ConfigError Config :=
  if c.intervalMs = 0 then .error .zeroInterval
  else if c.capacity = 0 then .error .zeroCapacity
  else if c.queryPort ≠ 0 ∧ c.queryPort = c.ingestPort then .error (.samePort c.queryPort)
  else .ok c

/-- The configuration that an environment gives. -/
def ofEnvironment (env : Environment) : Except ConfigError Config := do
  let c ← (options env).foldlM (fun c o => c.set o.1 o.2) (default env)
  c.check

end Config

end NodeTelemetry.Collector
