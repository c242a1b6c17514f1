import NodeTelemetry.Binary.Decimal
import NodeTelemetry.Log
import NodeTelemetry.Log.Pattern

/-!
# Directives on log lines

A directive says from which level on lines pass, for all lines or for those of one program part
only: `info`, `part=debug`, or `part` alone, which lets all lines of the part pass. It may also name
a span and its fields in brackets, `part[span{field=value}]=debug`; such a directive speaks of
what happens inside spans.

A directive is read character by character (`Reading.step`). White space around it plays no part in
that, but the texts of the directive are cut from what was written, white space included, at the
places found. So a blank before a level makes the level a name of a part.
-/

namespace NodeTelemetry.Log

/-- The least level of lines that pass; nothing passes without one. -/
abbrev Threshold := Option Level

/-- The thresholds in the order of their numbers. -/
def thresholds : List (String × Threshold) :=
  [("off", none), ("error", some .error), ("warn", some .warn), ("info", some .info),
    ("debug", some .debug), ("trace", some .trace)]

/-- The threshold of a number or a word in any case. An empty text lets errors pass. -/
def threshold? (cs : List Char) : Option Threshold :=
  match (Text.word? cs).bind (thresholds[·]?) with
  | some t => some t.2
  | none =>
    if cs.isEmpty then some (some .error)
    else (thresholds.find? (fun t => t.1.toList == cs.map Char.toLower)).map (·.2)

/-- A demand on a field of a span. -/
structure FieldDemand where
  /-- The name of the field. -/
  name : List Char
  /-- Whether the field must also have a given value. -/
  valued : Bool
  deriving DecidableEq, Repr

/-- Whether a text can be the value of a field: a truth value, a number or a pattern. -/
def isFieldValue (cs : List Char) : Bool :=
  cs == "true".toList || cs == "false".toList || (Binary.read? .double cs).isSome ||
    Pattern.isValid cs

/-- Reads a demand: a name, and perhaps `=` and a value, up to a second `=`. -/
def FieldDemand.read? (cs : List Char) : Option FieldDemand :=
  match Text.splitOnce '=' cs with
  | some (name, value) =>
    if isFieldValue (value.takeWhile (· != '=')) then some ⟨name, true⟩ else none
  | none => some ⟨cs, false⟩

/-- A directive. -/
structure Directive where
  /-- The program part it is for, if not all. -/
  target : Option (List Char)
  /-- The span it is for, if one is named. -/
  span : Option (List Char)
  /-- The fields it asks for. -/
  fields : List FieldDemand
  /-- From which level on lines pass. -/
  least : Threshold
  deriving DecidableEq, Repr

namespace Directive

/-- A directive that says nothing yet: all lines pass. -/
def blank : Directive := ⟨none, none, [], some .trace⟩

/-- Where the reader of a directive stands. Places are counted in bytes. -/
inductive Place where
  /-- Before the first character. -/
  | start
  /-- In a level or the name of a part that begins at a place. -/
  | word (start : Nat)
  /-- In the name of a span that begins at a place. -/
  | span (start : Nat)
  /-- In a field that begins at a place. -/
  | field (start : Nat)
  /-- After the fields. -/
  | fields
  /-- After the brackets. -/
  | closed
  /-- In a level that begins at a place. -/
  | level (start : Nat)
  deriving DecidableEq, Repr

/-- The characters of a text between two places. -/
def cut (written : List Char) (start stop : Nat) : List Char :=
  (written.foldl
    (fun (acc : List Char × Nat) c =>
      (if start ≤ acc.2 ∧ acc.2 < stop then c :: acc.1 else acc.1, acc.2 + c.utf8Size))
    ([], 0)).1.reverse

/-- Whether a directive may begin with a character. -/
def mayBegin (c : Char) : Bool :=
  c == '-' || c == ':' || c == '_' || Text.Property.alphanumeric.holds c

/-- Reads a character at a place of the text `written`. -/
def step (written : List Char) (d : Directive) (here : Nat) (c : Char) :
    Place → Option (Directive × Place)
  | .start =>
    if c = '[' then some (d, .span (here + 1))
    else if mayBegin c then some (d, .word here)
    else none
  | .word start =>
    if c = '=' then some ({ d with target := some (cut written start here) }, .level (here + 1))
    else if c = '[' then
      some ({ d with target := some (cut written start here) }, .span (here + 1))
    else some (d, .word start)
  | .span start =>
    let name := cut written start here
    if c = ']' then some ({ d with span := some name }, .closed)
    else if c = '\x7b' then
      some ({ d with span := if name.isEmpty then none else some name }, .field (here + 1))
    else some (d, .span start)
  | .field start =>
    if c = '\x7d' then
      let demand := cut written start here
      if demand.isEmpty then none
      else (FieldDemand.read? demand).map fun f => ({ d with fields := d.fields ++ [f] }, .fields)
    else some (d, .field start)
  | .fields => if c = ']' then some (d, .closed) else none
  | .closed => if c = '=' then some (d, .level (here + 1)) else none
  | .level start => some (d, .level start)

/-- Reads the characters of a directive from a place on. -/
def steps (written : List Char) : (d : Directive) → (here : Nat) → Place → List Char →
    Option (Directive × Place)
  | d, _, place, [] => some (d, place)
  | d, here, place, c :: cs =>
    match step written d here c place with
    | none => none
    | some (d, place) => steps written d (here + c.utf8Size) place cs

/-- Takes the end of the text: what was begun last is complete. -/
def finish (written : List Char) (d : Directive) : Place → Option Directive
  | .word start =>
    let rest := cut written start (written.length * 4)
    if rest.isEmpty then some d
    else
      match threshold? rest with
      | some least => some { d with least := least }
      | none => some { d with target := some rest }
  | .level start =>
    let rest := cut written start (written.length * 4)
    if rest.isEmpty then some d else (threshold? rest).map fun least => { d with least := least }
  | .closed => some d
  | _ => none

/-- Reads a directive. -/
def read (written : List Char) : Option Directive :=
  match steps written blank 0 .start (Text.trim written) with
  | some (d, place) => finish written d place
  | none => none

/-- Whether a directive speaks of lines themselves and not only of spans. -/
def isStatic (d : Directive) : Bool := d.span.isNone && d.fields.all (!·.valued)

end Directive

end NodeTelemetry.Log
