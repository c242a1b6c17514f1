import NodeTelemetry.Text.Blank

/-!
# Reading a command line

The arguments of a command line are read level by level. A level has options, at most one argument
of its own, and words that begin the next level.

* An option is written `--name value`, `--name=value`, `-n value`, `-nvalue` or `-n=value`. A word
  that begins with `-` is never the value of the option before it, and neither is `--`.
* After `--` every word is an argument of the level.
* A word that begins the next level does so unless an option waits for its value.

An option is *settled*, that is its value is read, when the next option or argument comes, so of
several faults the one that is met first counts. What ends reading, such as a call for help, does so
when it is met.
-/

namespace NodeTelemetry.CommandLine

/-- Why a command line is not carried out. -/
inductive UsageError where
  /-- Help was asked for. -/
  | help
  /-- The version was asked for. -/
  | version
  /-- Nothing was given at all. -/
  | nothingGiven
  /-- The command is missing. -/
  | missingCommand
  /-- A word is no command. -/
  | unknownCommand (word : String)
  /-- A word is no option, or an argument too many. -/
  | unknownArgument (word : String)
  /-- An argument is missing. -/
  | missingArgument
  /-- An option has no value. -/
  | missingValue (option : String)
  /-- An option is given a value that it does not take. -/
  | unwantedValue (option : String)
  /-- An option is given again. -/
  | repeated (option : String)
  /-- A value is not among those that an option takes. -/
  | otherValue (value : String)
  /-- A value cannot be read. -/
  | badValue (reason : String)
  deriving DecidableEq, Repr

/-- How a value changes what has been read. -/
abbrev Setter (σ : Type) := String → σ → Except UsageError σ

/-- What an option does. -/
inductive Action (σ : Type) where
  /-- It ends reading. -/
  | stop (e : UsageError)
  /-- It takes a value, and can be given once. -/
  | once (set : Setter σ)
  /-- It takes a value, and can be given again and again. -/
  | many (set : Setter σ)

/-- An option. -/
structure Switch (σ : Type) where
  /-- Its name after `--`. -/
  long : String
  /-- Its letter after `-`. -/
  short : Option Char
  /-- What it does. -/
  action : Action σ

/-- A level of a command line. -/
structure Level (σ : Type) where
  /-- The options. -/
  switches : List (Switch σ)
  /-- The argument, if there is one. -/
  argument : Option (String → σ → σ)
  /-- The words that begin the next level. -/
  commands : List String

/-- What has been read of a level. -/
structure Progress (σ : Type) where
  /-- The result of the settled options. -/
  result : σ
  /-- The names of the settled options. -/
  given : List String
  /-- The option that is not settled, with its value if that has come. -/
  pending : Option (Switch σ × Option String)
  /-- Whether the argument has come. -/
  argued : Bool
  /-- Whether `--` has come. -/
  trailing : Bool

namespace Progress

variable {σ : Type}

/-- Nothing has been read. -/
def start (result : σ) : Progress σ := ⟨result, [], none, false, false⟩

/-- Whether the next word is the value of the pending option. -/
def awaits (p : Progress σ) : Bool :=
  match p.pending with
  | some (_, none) => !p.trailing
  | _ => false

/-- Reads the value of an option. -/
def take (p : Progress σ) (o : Switch σ) (value : String) : Except UsageError (Progress σ) :=
  match o.action with
  | .stop e => .error e
  | .once set =>
    if o.long ∈ p.given then .error (.repeated o.long)
    else return { p with result := ← set value p.result, given := o.long :: p.given }
  | .many set => return { p with result := ← set value p.result, given := o.long :: p.given }

/-- Settles the pending option. -/
def settle (p : Progress σ) : Except UsageError (Progress σ) :=
  match p.pending with
  | none => .ok p
  | some (o, none) => .error (.missingValue o.long)
  | some (o, some value) => { p with pending := none }.take o value

/-- Meets an option, with its value if that is part of the word. -/
def meet (p : Progress σ) (o : Switch σ) (value : Option String) :
    Except UsageError (Progress σ) := do
  match o.action, value with
  | .stop _, some _ => throw (.unwantedValue o.long)
  | .stop e, none =>
    let _ ← p.settle
    throw e
  | _, some v => (← p.settle).take o v
  | _, none => return { ← p.settle with pending := some (o, none) }

end Progress

namespace Level

variable {σ : Type}

/-- The name and the value in a word after its `--`. -/
def splitLong (cs : List Char) : String × Option String :=
  match Text.splitOnce '=' cs with
  | some (name, value) => (String.ofList name, some (String.ofList value))
  | none => (String.ofList cs, none)

/-- The value in a word after the letter of its option. -/
def attached : List Char → Option String
  | [] => none
  | '=' :: value => some (String.ofList value)
  | value => some (String.ofList value)

/-- Reads a word as an argument. -/
def readArgument (l : Level σ) (p : Progress σ) (word : String) :
    Except UsageError (Progress σ) := do
  match l.argument, p.argued with
  | some set, false =>
    let p ← p.settle
    return { p with result := set word p.result, argued := true }
  | _, _ =>
    if l.commands.isEmpty ∨ p.trailing ∧ word ∈ l.commands then throw (.unknownArgument word)
    else throw (.unknownCommand word)

/-- Reads a word that begins no next level. -/
def readWord (l : Level σ) (p : Progress σ) (word : String) : Except UsageError (Progress σ) :=
  if p.trailing then l.readArgument p word
  else
    match word.toList with
    | ['-', '-'] => .ok { p with trailing := true }
    | '-' :: '-' :: cs =>
      let (name, value) := splitLong cs
      match l.switches.find? (fun o => o.long == name) with
      | some o => p.meet o value
      | none => .error (.unknownArgument word)
    | '-' :: c :: cs =>
      match l.switches.find? (fun o => o.short == some c) with
      | some o =>
        match o.action with
        | .stop _ => p.meet o none
        | _ => p.meet o (attached cs)
      | none => .error (.unknownArgument word)
    | _ =>
      match p.pending with
      | some (o, none) => .ok { p with pending := some (o, some word) }
      | _ => l.readArgument p word

/-- Reads the words of a level: what has been read, and the next level's word with all words after
it. The pending option is not settled. -/
def read (l : Level σ) : List String → Progress σ →
    Except UsageError (Progress σ × Option (String × List String))
  | [], p => .ok (p, none)
  | word :: rest, p =>
    if !p.trailing && !p.awaits && l.commands.contains word then .ok (p, some (word, rest))
    else do
      let p ← l.readWord p word
      l.read rest p

/-- Reads a level that has no next one. -/
def readLast (l : Level σ) (words : List String) (start : σ) : Except UsageError (Progress σ) := do
  let (p, _) ← l.read words (.start start)
  p.settle

end Level

end NodeTelemetry.CommandLine
