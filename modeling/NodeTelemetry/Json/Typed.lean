import NodeTelemetry.Json.Reader

/-!
# Reading values of a known kind

Readers for values whose kind is known beforehand. Such a reader refuses a value of another kind
with a message that names both; to name it, the reader reads it first, unless it is an array or an
object.

A record is an object with known fields. It may also be written as the array of its fields in
order. Members with other names are skipped by a reader that only looks at brackets, strings and
words: it knows no limit of depth and no range of numbers.
-/

namespace NodeTelemetry.Json

namespace Reader

/-- Refuses the value that comes next, naming what was wanted. -/
def mismatch {α : Type} (wanted : String) : Reader α := fun gs =>
  let refuse (found : Found) (rest : List Glyph) : Except Fault (α × List Glyph) :=
    .error (faultAt rest (.wrongType found wanted))
  match gs with
  | .scalar 'n' :: rest => do let ((), rest) ← word ['u', 'l', 'l'] rest; refuse .null rest
  | .scalar 't' :: rest => do let ((), rest) ← word ['r', 'u', 'e'] rest; refuse (.bool true) rest
  | .scalar 'f' :: rest => do
    let ((), rest) ← word ['a', 'l', 's', 'e'] rest
    refuse (.bool false) rest
  | .scalar '"' :: rest => do
    let (s, rest) ← string (fuelFor rest) rest
    refuse (.str s) rest
  | .scalar '[' :: _ => refuse .sequence gs
  | .scalar '\x7b' :: _ => refuse .map gs
  | g :: _ =>
    if g = .scalar '-' ∨ (digit? g).isSome then do
      match ← number gs with
      | (.int i, rest) => refuse (.int i) rest
      | (.real x, rest) => refuse (.real x) rest
      | (_, rest) => refuse .null rest
    else .error (faultIn gs .expectedValue)
  | [] => .error (faultIn gs .expectedValue)

/-- Whether a number comes next. -/
def startsNumber : List Glyph → Bool
  | [] => false
  | g :: _ => g = .scalar '-' ∨ (digit? g).isSome

/-- Reads a number and converts it; `convert` may refuse it. -/
def numberAs {α : Type} (wanted : String) (convert : Json → Except Cause α) : Reader α := fun gs =>
  let gs := skipBlanks gs
  match gs with
  | [] => .error ⟨.eofValue, 0⟩
  | _ =>
    if startsNumber gs then do
      let (v, rest) ← number gs
      match convert v with
      | .ok a => .ok (a, rest)
      | .error c => .error (faultAt rest c)
    else mismatch wanted gs

/-- Reads a word of 64 bits. -/
def natural : Reader UInt64 :=
  numberAs "u64" fun
    | .int i => if i < 0 then .error (.wrongValue (.int i) "u64") else .ok (UInt64.ofNat i.toNat)
    | .real x => .error (.wrongType (.real x) "u64")
    | _ => .error .expectedValue

/-- Reads an integer of 64 bits. -/
def integer : Reader Int :=
  numberAs "i64" fun
    | .int i => if Text.maxInteger < i then .error (.wrongValue (.int i) "i64") else .ok i
    | .real x => .error (.wrongType (.real x) "i64")
    | _ => .error .expectedValue

/-- Reads a binary number; an integer is rounded to one. -/
def real : Reader Binary :=
  numberAs "f64" fun
    | .int i => .ok (Binary.ofInt .double i)
    | .real x => .ok x
    | _ => .error .expectedValue

/-- Reads a string, which a message calls `wanted`. -/
def textAs (wanted : String) (fuel : Nat) : Reader String := fun gs =>
  match skipBlanks gs with
  | [] => .error ⟨.eofValue, 0⟩
  | .scalar '"' :: rest => string fuel rest
  | rest => mismatch wanted rest

/-- Reads a string. -/
def text (fuel : Nat) : Reader String := textAs "a string" fuel

/-- Reads a truth value. -/
def boolean : Reader Bool := fun gs =>
  match skipBlanks gs with
  | [] => .error ⟨.eofValue, 0⟩
  | .scalar 't' :: rest => do let ((), rest) ← word ['r', 'u', 'e'] rest; return (true, rest)
  | .scalar 'f' :: rest => do let ((), rest) ← word ['a', 'l', 's', 'e'] rest; return (false, rest)
  | rest => mismatch "a boolean" rest

/-- Reads `null`. -/
def unit : Reader Unit := fun gs =>
  match skipBlanks gs with
  | [] => .error ⟨.eofValue, 0⟩
  | .scalar 'n' :: rest => word ['u', 'l', 'l'] rest
  | rest => mismatch "unit" rest

/-- Reads `null` as nothing and anything else with the given reader. -/
def optional {α : Type} (item : Reader α) : Reader (Option α) := fun gs =>
  match skipBlanks gs with
  | .scalar 'n' :: rest => do let ((), rest) ← word ['u', 'l', 'l'] rest; return (none, rest)
  | rest => do let (a, rest) ← item rest; return (some a, rest)

/-- Reads a timestamp. -/
def timestamp (fuel : Nat) : Reader Time.Instant := fun gs => do
  let (s, rest) ← textAs "an RFC 3339 formatted date and time string" fuel gs
  match Time.read s.toList with
  | .ok t => return (t, rest)
  | .error e => throw (faultAt rest (.noTimestamp e))

/-- Reads an array. -/
def listOf {α : Type} (fuel : Nat) (item : (depth : Nat) → Reader α) (depth : Nat) :
    Reader (List α) := fun gs =>
  match skipBlanks gs with
  | [] => .error ⟨.eofValue, 0⟩
  | .scalar '[' :: rest =>
    match depth with
    | 0 => .error (faultIn (.scalar '[' :: rest) .recursionLimit)
    | depth + 1 => items (item depth) fuel true [] rest
  | rest => mismatch "a sequence" rest

/-- Reads an object with any names. -/
def keyedOf {α : Type} (fuel : Nat) (item : (depth : Nat) → Reader α) (depth : Nat) :
    Reader (Keyed α) := fun gs =>
  match skipBlanks gs with
  | [] => .error ⟨.eofValue, 0⟩
  | .scalar '\x7b' :: rest =>
    match depth with
    | 0 => .error (faultIn (.scalar '\x7b' :: rest) .recursionLimit)
    | depth + 1 => do
      let (ms, rest) ← members fuel (item depth) fuel true [] rest
      return (Keyed.ofList ms, rest)
  | rest => mismatch "a map" rest

/-- The word of a list that a string names. -/
def knownWord {α : Type} (words : List (String × α)) (name : String) : Except Cause α :=
  match words.find? (fun w => w.1 == name) with
  | some w => .ok w.2
  | none => .error (.unknownVariant name (words.map (·.1)))

/-- Reads one of the given words: a string, or an object whose only member has that name and the
value `null`. -/
def oneOf {α : Type} (words : List (String × α)) (fuel : Nat) (depth : Nat) : Reader α := fun gs =>
  let name : Reader α := fun gs => do
    let (s, rest) ← textAs "variant identifier" fuel gs
    match knownWord words s with
    | .ok a => return (a, rest)
    | .error c => throw (faultAt rest c)
  match skipBlanks gs with
  | [] => .error ⟨.eofValue, 0⟩
  | .scalar '"' :: rest => name (.scalar '"' :: rest)
  | .scalar '\x7b' :: rest =>
    if depth = 0 then .error (faultIn (.scalar '\x7b' :: rest) .recursionLimit)
    else do
      let (a, rest) ← match skipBlanks rest with
        | [] => throw ⟨.eofObject, 0⟩
        | .scalar '"' :: rest => name (.scalar '"' :: rest)
        | .scalar '\x7d' :: rest => throw (faultIn (.scalar '\x7d' :: rest) .expectedValue)
        | rest => throw (faultIn rest .keyMustBeString)
      let ((), rest) ← colon rest
      let ((), rest) ← unit rest
      match skipBlanks rest with
      | [] => throw ⟨.eofObject, 0⟩
      | .scalar '\x7d' :: rest => return (a, rest)
      | rest => throw (faultAt rest .expectedValue)
  | rest => .error (faultIn rest .expectedValue)

/-! ### Skipping -/

/-- Skips the digits of a number after its sign. -/
def skipInteger : Reader Unit := fun gs =>
  match gs with
  | [] => .error ⟨.invalidNumber, 0⟩
  | g :: rest =>
    match digit? g with
    | none => .error (faultIn gs .invalidNumber)
    | some 0 =>
      if startsWithDigit rest then .error (faultIn rest .invalidNumber) else .ok ((), rest)
    | some _ => .ok ((), (skipDigits 0 rest).2)

/-- Skips an exponent, if there is one. -/
def skipExponent : Reader Unit := fun gs =>
  match exponent? gs with
  | none => .ok ((), gs)
  | some gs =>
    let gs := match gs with
      | .scalar '+' :: rest => rest
      | .scalar '-' :: rest => rest
      | _ => gs
    if startsWithDigit gs then .ok ((), (skipDigits 0 gs).2) else .error (faultIn gs .invalidNumber)

/-- Skips a number after its sign. -/
def skipNumber : Reader Unit := fun gs => do
  let ((), gs) ← skipInteger gs
  match gs with
  | .scalar '.' :: rest =>
    if startsWithDigit rest then skipExponent (skipDigits 0 rest).2
    else throw (faultIn rest .invalidNumber)
  | _ => skipExponent gs

/-- Skips an escape, after its backslash. -/
def skipEscape : Reader Unit := fun gs =>
  match gs with
  | [] => .error ⟨.eofString, 0⟩
  | .scalar 'u' :: rest => do let (_, rest) ← hexFour rest; return ((), rest)
  | .scalar c :: rest =>
    if (shortEscape? c).isSome then .ok ((), rest) else .error (faultIn gs .invalidEscape)
  | _ => .error (faultIn gs .invalidEscape)

/-- Skips the rest of a string. -/
def skipString : (fuel : Nat) → Reader Unit
  | 0, gs => .error (faultAt gs .eofString)
  | fuel + 1, gs =>
    match gs with
    | [] => .error ⟨.eofString, 0⟩
    | .scalar '"' :: rest => .ok ((), rest)
    | .scalar '\\' :: rest =>
      match skipEscape rest with
      | .ok ((), rest) => skipString fuel rest
      | .error e => .error e
    | .scalar c :: rest =>
      if c.toNat < 0x20 then .error (faultAt gs .controlCharacter) else skipString fuel rest
    | .broken _ :: rest => skipString fuel rest

/-- A kind of bracket that is open. -/
inductive Bracket where
  /-- A bracket of an array. -/
  | list
  /-- A bracket of an object. -/
  | object
  deriving DecidableEq, Repr

/-- Where a skipping reader stands. -/
inductive SkipState where
  /-- A value is due. -/
  | value
  /-- A bracket has just been opened. -/
  | opened
  /-- A value has ended. -/
  | ended
  deriving DecidableEq, Repr

/-- Skips the key and the colon of a member. -/
def skipKey (limit : Nat) : Reader Unit := fun gs =>
  match skipBlanks gs with
  | [] => .error ⟨.eofObject, 0⟩
  | .scalar '"' :: rest => do
    let ((), rest) ← skipString limit rest
    colon rest
  | rest => .error (faultIn rest .keyMustBeString)

/-- Skips a value. `stack` holds the open brackets, the innermost first. -/
def skipLoop (limit : Nat) : (fuel : Nat) → SkipState → (stack : List Bracket) → Reader Unit
  | 0, _, _, gs => .error (faultAt gs .eofValue)
  | fuel + 1, .value, stack, gs =>
    let ended (r : Except Fault (Unit × List Glyph)) : Except Fault (Unit × List Glyph) :=
      match r with
      | .ok ((), rest) => skipLoop limit fuel .ended stack rest
      | .error e => .error e
    match skipBlanks gs with
    | [] => .error ⟨.eofValue, 0⟩
    | .scalar 'n' :: rest => ended (word ['u', 'l', 'l'] rest)
    | .scalar 't' :: rest => ended (word ['r', 'u', 'e'] rest)
    | .scalar 'f' :: rest => ended (word ['a', 'l', 's', 'e'] rest)
    | .scalar '"' :: rest => ended (skipString limit rest)
    | .scalar '-' :: rest => ended (skipNumber rest)
    | .scalar '[' :: rest => skipLoop limit fuel .opened (.list :: stack) rest
    | .scalar '\x7b' :: rest => skipLoop limit fuel .opened (.object :: stack) rest
    | g :: rest =>
      if (digit? g).isSome then ended (skipNumber (g :: rest))
      else .error (faultIn (g :: rest) .expectedValue)
  | fuel + 1, state, stack, gs =>
    match stack with
    | [] => .ok ((), gs)
    | top :: outer =>
      let next (gs : List Glyph) : Except Fault (Unit × List Glyph) :=
        match top with
        | .list => skipLoop limit fuel .value stack gs
        | .object =>
          match skipKey limit gs with
          | .ok ((), gs) => skipLoop limit fuel .value stack gs
          | .error e => .error e
      match skipBlanks gs with
      | [] => .error ⟨if top = .list then .eofList else .eofObject, 0⟩
      | g :: rest =>
        if state = .ended ∧ g = .scalar ',' then next rest
        else if (top = .list ∧ g = .scalar ']') ∨ (top = .object ∧ g = .scalar '\x7d') then
          skipLoop limit fuel .ended outer rest
        else if state = .ended then
          .error (faultIn (g :: rest)
            (if top = .list then .expectedListCommaOrEnd else .expectedObjectCommaOrEnd))
        else next (g :: rest)

/-- Skips a value of any kind. Each glyph takes at most two steps. -/
def skipValue (fuel : Nat) : Reader Unit := skipLoop fuel (2 * fuel + 2) .value []

end Reader

/-! ### Records -/

open Reader

/-- A field of records of type `σ`. -/
structure RecordField (σ : Type) where
  /-- The name. -/
  name : String
  /-- Reads the value, as the change it makes to a record. -/
  read : (fuel depth : Nat) → Reader (σ → σ)
  /-- Whether the field may be absent. -/
  optional : Bool

/-- A kind of records. -/
structure Schema (σ : Type) where
  /-- How a message calls the kind. -/
  name : String
  /-- The fields, in order. -/
  fields : List (RecordField σ)
  /-- The record before any field is read. -/
  blank : σ

namespace Schema

variable {σ : Type}

/-- How a message says that a record of this kind was wanted. -/
def wanted (s : Schema σ) : String := "struct " ++ s.name

/-- How a message says how many items a record of this kind has. -/
def wantedItems (s : Schema σ) : String :=
  s.wanted ++ " with " ++ toString s.fields.length ++
    (if s.fields.length = 1 then " element" else " elements")

/-- The text after a closing bracket, if that comes next. -/
def afterBracket (bracket : Char) (gs : List Glyph) : List Glyph :=
  match skipBlanks gs with
  | [] => []
  | g :: rest => if g = .scalar bracket then rest else g :: rest

/-- Reads the end of a record written as an array. -/
def closeList : Reader Unit := fun gs =>
  match skipBlanks gs with
  | [] => .error ⟨.eofList, 0⟩
  | .scalar ']' :: rest => .ok ((), rest)
  | .scalar ',' :: rest =>
    match skipBlanks rest with
    | .scalar ']' :: rest => .error (faultIn (.scalar ']' :: rest) .trailingComma)
    | rest => .error (faultIn rest .trailingCharacters)
  | rest => .error (faultIn rest .trailingCharacters)

/-- Reads the fields of a record written as an array; `done` counts those read. -/
def readItems (s : Schema σ) (fuel depth : Nat) : List (RecordField σ) → (done : Nat) → σ → Reader σ
  | [], _, a, gs => do
    let ((), gs) ← closeList gs
    return (a, gs)
  | f :: fs, done, a, gs => do
    let (more, gs) ← nextItem (done == 0) gs
    if more then
      let (change, gs) ← f.read fuel depth gs
      readItems s fuel depth fs (done + 1) (change a) gs
    else throw (faultAt (afterBracket ']' gs) (.wrongLength done s.wantedItems))

/-- The first field that was not seen and may not be absent. -/
def missing? (s : Schema σ) (seen : List String) : Option String :=
  (s.fields.find? (fun f => !f.optional && !seen.contains f.name)).map (·.name)

/-- Reads the members of a record, in any order. -/
def readMembers (s : Schema σ) (limit depth : Nat) : (fuel : Nat) → (first : Bool) →
    (seen : List String) → σ → Reader σ
  | 0, _, _, _, gs => .error (faultAt gs .eofObject)
  | fuel + 1, first, seen, a, gs => do
    match ← nextKey limit first gs with
    | (none, gs) =>
      match s.missing? seen with
      | none => return (a, gs.tail)
      | some name => throw (faultAt gs.tail (.missingField name))
    | (some k, gs) =>
      match s.fields.find? (fun f => f.name == k) with
      | none =>
        let ((), gs) ← colon gs
        let ((), gs) ← skipValue limit gs
        readMembers s limit depth fuel false seen a gs
      | some f =>
        if seen.contains k then throw (faultAt (afterBracket '\x7d' gs) (.duplicateField k))
        let ((), gs) ← colon gs
        let (change, gs) ← f.read limit depth gs
        readMembers s limit depth fuel false (k :: seen) (change a) gs

/-- Reads a record. -/
def read (s : Schema σ) (fuel : Nat) (depth : Nat) : Reader σ := fun gs =>
  match skipBlanks gs with
  | [] => .error ⟨.eofValue, 0⟩
  | .scalar '[' :: rest =>
    match depth with
    | 0 => .error (faultIn (.scalar '[' :: rest) .recursionLimit)
    | depth + 1 => readItems s fuel depth s.fields 0 s.blank rest
  | .scalar '\x7b' :: rest =>
    match depth with
    | 0 => .error (faultIn (.scalar '\x7b' :: rest) .recursionLimit)
    | depth + 1 => readMembers s fuel depth fuel true [] s.blank rest
  | rest => mismatch s.wanted rest

/-- Reads a whole text as a record. -/
def readText (s : Schema σ) (text : List Glyph) : Except ReadError σ :=
  readWhole (fun fuel => s.read fuel maxDepth) text

end Schema

end NodeTelemetry.Json
