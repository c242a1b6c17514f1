import NodeTelemetry.Json.Scan

/-!
# Reading JSON values

`Json.read` reads a whole text as one value. Brackets may be nested 127 deep, which `value` counts
down. Within a level the loops run on a number of steps that the length of the text bounds.

`nextItem` and `nextKey` hold the rules for commas and brackets; arrays and objects of any element
are read through them.
-/

namespace NodeTelemetry.Json

/-- How deep brackets may be nested. -/
def maxDepth : Nat := 127

namespace Reader

/-- Goes to the next item of an array: whether there is one, and the text from it or from the
closing bracket. -/
def nextItem (first : Bool) : Reader Bool := fun gs =>
  match skipBlanks gs with
  | [] => .error ⟨.eofList, 0⟩
  | .scalar ']' :: rest => .ok (false, .scalar ']' :: rest)
  | g :: rest =>
    if first then .ok (true, g :: rest)
    else if g = .scalar ',' then
      match skipBlanks rest with
      | [] => .error ⟨.eofValue, 0⟩
      | .scalar ']' :: rest => .error (faultIn (.scalar ']' :: rest) .trailingComma)
      | rest => .ok (true, rest)
    else .error (faultIn (g :: rest) .expectedListCommaOrEnd)

/-- Reads the key of the next member of an object, if there is one; else the text goes on from the
closing bracket. -/
def nextKey (fuel : Nat) (first : Bool) : Reader (Option String) := fun gs =>
  let key : Reader (Option String) := fun gs =>
    match gs with
    | [] => .error ⟨.eofValue, 0⟩
    | .scalar '"' :: rest =>
      match string fuel rest with
      | .ok (k, rest) => .ok (some k, rest)
      | .error e => .error e
    | _ => .error (faultIn gs .keyMustBeString)
  match skipBlanks gs with
  | [] => .error ⟨.eofObject, 0⟩
  | .scalar '\x7d' :: rest => .ok (none, .scalar '\x7d' :: rest)
  | g :: rest =>
    if first then key (g :: rest)
    else if g = .scalar ',' then
      match skipBlanks rest with
      | .scalar '\x7d' :: rest => .error (faultIn (.scalar '\x7d' :: rest) .trailingComma)
      | rest => key rest
    else .error (faultIn (g :: rest) .expectedObjectCommaOrEnd)

/-- Reads the colon after a key. -/
def colon : Reader Unit := fun gs =>
  match skipBlanks gs with
  | [] => .error ⟨.eofObject, 0⟩
  | .scalar ':' :: rest => .ok ((), rest)
  | rest => .error (faultIn rest .expectedColon)

/-- Reads the items of an array, after its opening bracket and up to the closing one. -/
def items {α : Type} (item : Reader α) : (fuel : Nat) → (first : Bool) → (acc : List α) →
    Reader (List α)
  | 0, _, _, gs => .error (faultAt gs .eofList)
  | fuel + 1, first, acc, gs => do
    let (more, gs) ← nextItem first gs
    if more then
      let (a, gs) ← item gs
      items item fuel false (a :: acc) gs
    else return (acc.reverse, gs.tail)

/-- Reads the members of an object, after its opening bracket and up to the closing one. -/
def members {α : Type} (limit : Nat) (item : Reader α) : (fuel : Nat) → (first : Bool) →
    (acc : List (String × α)) → Reader (List (String × α))
  | 0, _, _, gs => .error (faultAt gs .eofObject)
  | fuel + 1, first, acc, gs => do
    match ← nextKey limit first gs with
    | (none, gs) => return (acc.reverse, gs.tail)
    | (some k, gs) =>
      let ((), gs) ← colon gs
      let (a, gs) ← item gs
      members limit item fuel false ((k, a) :: acc) gs

/-- Reads a value. -/
def value (fuel : Nat) : (depth : Nat) → Reader Json
  | depth, gs =>
    match skipBlanks gs with
    | [] => .error ⟨.eofValue, 0⟩
    | .scalar 'n' :: rest => do
      let ((), rest) ← word ['u', 'l', 'l'] rest
      return (.null, rest)
    | .scalar 't' :: rest => do
      let ((), rest) ← word ['r', 'u', 'e'] rest
      return (.bool true, rest)
    | .scalar 'f' :: rest => do
      let ((), rest) ← word ['a', 'l', 's', 'e'] rest
      return (.bool false, rest)
    | .scalar '"' :: rest => do
      let (s, rest) ← string fuel rest
      return (.str s, rest)
    | .scalar '[' :: rest =>
      match depth with
      | 0 => .error (faultIn (.scalar '[' :: rest) .recursionLimit)
      | depth + 1 => do
        let (vs, rest) ← items (value fuel depth) fuel true [] rest
        return (.arr vs, rest)
    | .scalar '\x7b' :: rest =>
      match depth with
      | 0 => .error (faultIn (.scalar '\x7b' :: rest) .recursionLimit)
      | depth + 1 => do
        let (ms, rest) ← members fuel (value fuel depth) fuel true [] rest
        return (ofMembers ms, rest)
    | g :: rest =>
      if g = .scalar '-' ∨ (digit? g).isSome then number (g :: rest)
      else .error (faultIn (g :: rest) .expectedValue)

end Reader

/-- A number of steps that is enough for any loop over a text. -/
def fuelFor (text : List Glyph) : Nat := text.length + 1

/-- Reads a whole text. `reader` is given a number of steps that is enough for the text. -/
def readWhole {α : Type} (reader : (fuel : Nat) → Reader α) (text : List Glyph) :
    Except ReadError α :=
  match reader (fuelFor text) text with
  | .error f => .error (f.inText text)
  | .ok (a, rest) =>
    match Reader.skipBlanks rest with
    | [] => .ok a
    | rest => .error ((faultIn rest .trailingCharacters).inText text)

/-- Reads a whole text as a value. -/
def read (text : List Glyph) : Except ReadError Json := 
  readWhole (fun fuel => Reader.value fuel maxDepth) text

end NodeTelemetry.Json
