import NodeTelemetry.Json.Basic
import NodeTelemetry.Binary.Layout

/-!
# JSON texts of values

`Json.compact` writes a value without any blanks, `Json.pretty` over several lines, two spaces for
each level. In strings only quotes, backslashes and control characters are escaped. A number that
is not finite is written `null`.

Each writer appends to a text, so that a long array is written in one pass.
-/

namespace NodeTelemetry.Json

open Text

/-- Binary numbers in JSON: plain from `0.00001` to below `10 ^ 16`, always with a point there, and
the exponent signed. -/
def numberLayout : Binary.Layout := ⟨some (-5), some 15, true, true⟩

/-- The text of a finite binary number. -/
def realText (x : Binary) : String := String.ofList (numberLayout.render .double x)

/-- The escaped form of one character of a string. -/
def escapeChar (c : Char) : List Char :=
  match c with
  | '"' => ['\\', '"']
  | '\\' => ['\\', '\\']
  | '\x08' => ['\\', 'b']
  | '\x0c' => ['\\', 'f']
  | '\n' => ['\\', 'n']
  | '\r' => ['\\', 'r']
  | '\t' => ['\\', 't']
  | c =>
    if c.toNat < 0x20 then
      ['\\', 'u', '0', '0', hexDigit (c.toNat / 16), hexDigit (c.toNat % 16)]
    else [c]

/-- The JSON text of a string. -/
def quote (s : String) : String := String.ofList ('"' :: s.toList.flatMap escapeChar ++ ['"'])

/-- The JSON text of a value without parts. -/
def scalarText : Json → String
  | null => "null"
  | bool true => "true"
  | bool false => "false"
  | int i => String.ofList (signed i)
  | real x => if x.isFinite then realText x else "null"
  | str s => quote s
  | arr _ => "[]"
  | obj _ => "\x7b\x7d"

mutual

/-- Appends the compact text of a value. -/
def writeCompact (out : String) : Json → String
  | arr [] => out ++ "[]"
  | arr (v :: vs) => (writeItems (writeCompact (out.push '[') v) vs).push ']'
  | obj [] => out ++ "\x7b\x7d"
  | obj ((k, v) :: ms) =>
    (writeMembers (writeCompact ((out.push '\x7b' ++ quote k).push ':') v) ms).push '\x7d'
  | v => out ++ scalarText v

/-- Appends the items of an array after the first. -/
def writeItems (out : String) : List Json → String
  | [] => out
  | v :: vs => writeItems (writeCompact (out.push ',') v) vs

/-- Appends the members of an object after the first. -/
def writeMembers (out : String) : List (String × Json) → String
  | [] => out
  | (k, v) :: ms => writeMembers (writeCompact ((out.push ',' ++ quote k).push ':') v) ms

end

/-- The compact text of a value. -/
def compact (v : Json) : String := writeCompact "" v

/-- A line feed and the indentation of a level. -/
def newline (level : Nat) : String := String.ofList ('\n' :: List.replicate (2 * level) ' ')

mutual

/-- Appends the text of a value over several lines; `level` is that of its closing bracket. -/
def writePretty (level : Nat) (out : String) : Json → String
  | arr [] => out ++ "[]"
  | arr (v :: vs) =>
    let out := writePretty (level + 1) (out.push '[' ++ newline (level + 1)) v
    (writeItemsPretty level out vs ++ newline level).push ']'
  | obj [] => out ++ "\x7b\x7d"
  | obj ((k, v) :: ms) =>
    let out := out.push '\x7b' ++ newline (level + 1) ++ quote k ++ ": "
    (writeMembersPretty level (writePretty (level + 1) out v) ms ++ newline level).push '\x7d'
  | v => out ++ scalarText v

/-- Appends the items of an array after the first, each on lines of its own. -/
def writeItemsPretty (level : Nat) (out : String) : List Json → String
  | [] => out
  | v :: vs =>
    let out := out.push ',' ++ newline (level + 1)
    writeItemsPretty level (writePretty (level + 1) out v) vs

/-- Appends the members of an object after the first, each on lines of its own. -/
def writeMembersPretty (level : Nat) (out : String) : List (String × Json) → String
  | [] => out
  | (k, v) :: ms =>
    let out := out.push ',' ++ newline (level + 1) ++ quote k ++ ": "
    writeMembersPretty level (writePretty (level + 1) out v) ms

end

/-- The text of a value over several lines. -/
def pretty (v : Json) : String := writePretty 0 "" v

/-- The text that a value shows in a line of prose: a string as it is, anything else as JSON. -/
def label : Json → String
  | str s => s
  | v => v.compact

end NodeTelemetry.Json
