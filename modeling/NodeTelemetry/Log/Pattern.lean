import NodeTelemetry.Text.Blank
import NodeTelemetry.Text.Digits
import NodeTelemetry.Text.Property.Alphanumeric

/-!
# Patterns of values

A directive can ask that a field of a span has a value that fits a pattern. The collector's lines
are logged outside spans, so nothing is ever fitted; but a text that is no pattern spoils the
directive. So a pattern is read here only to tell whether it is one (`Pattern.isValid`).

A pattern is a row of items. An item is a character, an escape, a class in square brackets or a
group in parentheses; `*`, `+` and `?` repeat the item before them, and `|` begins another row. A
pattern stands between braces, so it has no closing brace, and an opening one outside a class has
nothing to say.

Reading goes from the start to the end with a bound on the number of steps; each step takes a
character at least.
-/

namespace NodeTelemetry.Log.Pattern

/-! ### Escapes -/

/-- What an escape stands for. -/
inductive Escape where
  /-- A character. -/
  | char (c : Char)
  /-- One of several characters. -/
  | oneOf
  /-- A place between characters. -/
  | place
  deriving DecidableEq, Repr

/-- The control characters that have an escape of one letter. -/
def controls : List (Char × Char) :=
  [('a', '\x07'), ('f', '\x0c'), ('t', '\t'), ('n', '\n'), ('r', '\r'), ('v', '\x0b')]

/-- The letters of the general categories. -/
def categories : List Char := "clmnpsz".toList

/-- Reads a character as so many hexadecimal digits. -/
def hex? (digits : Nat) (cs : List Char) : Option (Escape × List Char) := do
  let ds ← (cs.take digits).mapM Text.hexValue?
  let n := ds.foldl (fun n d => 16 * n + d) 0
  if ds.length = digits ∧ n.isValidChar then some (.char (Char.ofNat n), cs.drop digits) else none

/-- Reads an escape after its backslash. The ends of words cannot be asked for. -/
def escape? : List Char → Option (Escape × List Char)
  | [] => none
  | 'x' :: cs => hex? 2 cs
  | 'u' :: cs => hex? 4 cs
  | 'U' :: cs => hex? 8 cs
  | 'p' :: c :: cs | 'P' :: c :: cs =>
    if categories.contains c.toLower then some (.oneOf, cs) else none
  | c :: cs =>
    if "dswDSW".toList.contains c then some (.oneOf, cs)
    else if c = 'A' ∨ c = 'z' then some (.place, cs)
    else if c.isAlphanum ∨ c = '<' ∨ c = '>' ∨ 0x80 ≤ c.toNat then
      (controls.find? (fun p => p.1 == c)).map fun p => (.char p.2, cs)
    else some (.char c, cs)

/-! ### Classes -/

/-- The classes that have a name. -/
def namedClasses : List String :=
  ["alnum", "alpha", "ascii", "blank", "cntrl", "digit", "graph", "lower", "print", "punct",
    "space", "upper", "word", "xdigit"]

/-- Reads a class with a name, after its opening bracket. -/
def namedClass? : List Char → Option (List Char)
  | ':' :: cs =>
    match Text.splitOnce ':' (if cs.head? = some '^' then cs.drop 1 else cs) with
    | some (name, ']' :: rest) =>
      if namedClasses.contains (String.ofList name) then some rest else none
    | _ => none
  | _ => none

/-- Reads the start of a class, after its opening bracket: perhaps a `^`, then hyphens, or a closing
bracket that belongs to the class. -/
def classStart (cs : List Char) : List Char :=
  let cs := if cs.head? = some '^' then cs.drop 1 else cs
  if cs.head? = some ']' then cs.drop 1 else cs.dropWhile (· == '-')

/-- Reads a member of a class. -/
def member? : List Char → Option (Escape × List Char)
  | [] => none
  | '\\' :: cs => escape? cs
  | c :: cs => some (.char c, cs)

/-- Reads a member of a class, or all members from one to another. -/
def range? (cs : List Char) : Option (List Char) := do
  let (first, rest) ← member? cs
  match rest with
  | [] | ['-'] => none
  | '-' :: c :: after =>
    if c = ']' ∨ c = '-' then if first = .place then none else some rest
    else
      let (last, rest) ← member? (c :: after)
      match first, last with
      | .char a, .char b => if a ≤ b then some rest else none
      | _, _ => none
  | _ => if first = .place then none else some rest

/-- Reads the rest of a class to its closing bracket; `depth` counts the classes around it. -/
def classRest? : (fuel depth : Nat) → List Char → Option (List Char)
  | 0, _, _ => none
  | _ + 1, _, [] => none
  | fuel + 1, depth, '[' :: cs =>
    match namedClass? cs with
    | some rest => classRest? fuel depth rest
    | none => classRest? fuel (depth + 1) (classStart cs)
  | fuel + 1, depth, ']' :: cs => if depth = 0 then some cs else classRest? fuel (depth - 1) cs
  | fuel + 1, depth, '&' :: '&' :: cs | fuel + 1, depth, '-' :: '-' :: cs
  | fuel + 1, depth, '~' :: '~' :: cs => classRest? fuel depth cs
  | fuel + 1, depth, cs => (range? cs).bind (classRest? fuel depth)

/-! ### Groups -/

/-- How a parenthesis goes on. -/
inductive Opening where
  /-- A group begins. -/
  | group
  /-- A group begins that has a name. -/
  | named (name : List Char)
  /-- Flags are set, and the parenthesis is closed. -/
  | flags
  deriving DecidableEq, Repr

/-- Whether a text is the name of a group. -/
def isName : List Char → Bool
  | [] => false
  | c :: cs =>
    (c == '_' || Text.Property.alphanumeric.holds c && !c.isDigit) &&
      cs.all fun c => "_.[]".toList.contains c || Text.Property.alphanumeric.holds c

/-- Reads the name of a group, which a `>` ends. -/
def name? (cs : List Char) : Option (Opening × List Char) :=
  match Text.splitOnce '>' cs with
  | some (name, rest) => if isName name then some (.named name, rest) else none
  | none => none

/-- Whether a text is a row of flags. A hyphen negates those after it. -/
def areFlags (cs : List Char) : Bool :=
  cs.all (fun c => "imsUuRx-".toList.contains c) && decide cs.Nodup && cs.getLast? != some '-'

/-- Reads the start of a group, after its parenthesis. It cannot look around. -/
def opening? : List Char → Option (Opening × List Char)
  | '?' :: 'P' :: '<' :: cs => name? cs
  | '?' :: '<' :: cs => if cs.head? = some '!' then none else name? cs
  | '?' :: cs =>
    let flags := cs.takeWhile (fun c => c != ':' && c != ')')
    match areFlags flags, cs.drop flags.length with
    | true, ':' :: rest => some (.group, rest)
    | true, ')' :: rest => if flags.isEmpty then none else some (.flags, rest)
    | _, _ => none
  | cs => some (.group, cs)

/-! ### Items -/

/-- Where the reader of a pattern stands. -/
structure Place where
  /-- How many groups are open. -/
  depth : Nat
  /-- Whether there is an item that can be repeated. -/
  repeatable : Bool
  /-- The names of the groups. -/
  names : List (List Char)
  deriving DecidableEq, Repr

/-- The start of a pattern. -/
def Place.first : Place := ⟨0, false, []⟩

/-- The place after an item. -/
def Place.afterItem (p : Place) : Place := { p with repeatable := true }

/-- The place after the start of a group. -/
def Place.enter? (p : Place) : Opening → Option Place
  | .group => some ⟨p.depth + 1, false, p.names⟩
  | .named name =>
    if p.names.contains name then none else some ⟨p.depth + 1, false, name :: p.names⟩
  | .flags => some { p with repeatable := false }

/-- Reads an item, or a sign between items. -/
def item? (p : Place) : List Char → Option (Place × List Char)
  | [] => none
  | '(' :: cs => do
    let (opening, rest) ← opening? cs
    return (← p.enter? opening, rest)
  | ')' :: cs => if p.depth = 0 then none else some (⟨p.depth - 1, true, p.names⟩, cs)
  | '|' :: cs => some ({ p with repeatable := false }, cs)
  | '[' :: cs => (classRest? (cs.length + 1) 0 (classStart cs)).map ((p.afterItem, ·))
  | '\\' :: cs => (escape? cs).map fun e => (p.afterItem, e.2)
  | '\x7b' :: _ => none
  | c :: cs =>
    if c = '*' ∨ c = '+' ∨ c = '?' then
      if p.repeatable then some (p, if cs.head? = some '?' then cs.drop 1 else cs) else none
    else some (p.afterItem, cs)

/-- Whether the rest of a pattern can be read from a place on. -/
def holdsFrom : (fuel : Nat) → Place → List Char → Bool
  | _, p, [] => p.depth == 0
  | 0, _, _ :: _ => false
  | fuel + 1, p, c :: cs =>
    match item? p (c :: cs) with
    | some (p, rest) => holdsFrom fuel p rest
    | none => false

/-- Whether a text is a pattern. -/
def isValid (cs : List Char) : Bool := holdsFrom cs.length .first cs

end NodeTelemetry.Log.Pattern
