import NodeTelemetry.Json.Writer
import NodeTelemetry.Text.Quoted
import NodeTelemetry.Text.Utf8
import NodeTelemetry.Time.Stamp

/-!
# Faults of JSON texts

A reader that stops says why (`Cause`) and where. The place is kept as the number of bytes that the
text still had there, which a reader knows from the rest of the text alone; `ReadError` turns it
into a line and a column. Lines end at a line feed, columns count bytes, and both count what lies
before the place.
-/

namespace NodeTelemetry.Json

/-- What was found in place of a wanted value. -/
inductive Found where
  /-- `null`. -/
  | null
  /-- A truth value. -/
  | bool (b : Bool)
  /-- An integer. -/
  | int (i : Int)
  /-- Any other number. -/
  | real (x : Binary)
  /-- A string. -/
  | str (s : String)
  /-- An array. -/
  | sequence
  /-- An object. -/
  | map
  deriving DecidableEq, Repr

/-- How a message names what was found. -/
def Found.text : Found → String
  | null => "null"
  | bool b => "boolean `" ++ (if b then "true" else "false") ++ "`"
  | int i => "integer `" ++ String.ofList (Text.signed i) ++ "`"
  | real x => "floating point `" ++ realText x ++ "`"
  | str s => "string " ++ Text.quoted s
  | sequence => "sequence"
  | map => "map"

/-- Why a text is refused. -/
inductive Cause where
  /-- The text ends inside an array. -/
  | eofList
  /-- The text ends inside an object. -/
  | eofObject
  /-- The text ends inside a string. -/
  | eofString
  /-- The text ends where a value is due. -/
  | eofValue
  /-- No colon after a key. -/
  | expectedColon
  /-- Neither a comma nor the end after an item. -/
  | expectedListCommaOrEnd
  /-- Neither a comma nor the end after a member. -/
  | expectedObjectCommaOrEnd
  /-- A word other than `null`, `true` and `false`. -/
  | expectedIdent
  /-- No value starts here. -/
  | expectedValue
  /-- An escape that is not defined. -/
  | invalidEscape
  /-- A number that breaks off or has a leading zero. -/
  | invalidNumber
  /-- A number too large for a binary number. -/
  | numberOutOfRange
  /-- A string with bytes that are no text. -/
  | invalidUnicode
  /-- A control character in a string. -/
  | controlCharacter
  /-- A key that is no string. -/
  | keyMustBeString
  /-- A surrogate without its partner. -/
  | loneSurrogate
  /-- A comma before the end. -/
  | trailingComma
  /-- Something after the end. -/
  | trailingCharacters
  /-- A leading surrogate that no escape follows. -/
  | unexpectedEndOfHexEscape
  /-- Brackets nested too deep. -/
  | recursionLimit
  /-- A value of another kind than wanted. -/
  | wrongType (found : Found) (wanted : String)
  /-- A value outside the wanted range. -/
  | wrongValue (found : Found) (wanted : String)
  /-- An array with too few items for a record. -/
  | wrongLength (items : Nat) (wanted : String)
  /-- A record without one of its fields. -/
  | missingField (name : String)
  /-- A record with a field given twice. -/
  | duplicateField (name : String)
  /-- A word that is none of the known ones. -/
  | unknownVariant (name : String) (known : List String)
  /-- A string that is no timestamp. -/
  | noTimestamp (e : Time.StampError)
  deriving DecidableEq, Repr

/-- The words of a list for a message, each between backticks. -/
def wordList (words : List String) : String :=
  ", ".intercalate (words.map (fun w => "`" ++ w ++ "`"))

/-- The wording of a cause. -/
def Cause.message : Cause → String
  | eofList => "EOF while parsing a list"
  | eofObject => "EOF while parsing an object"
  | eofString => "EOF while parsing a string"
  | eofValue => "EOF while parsing a value"
  | expectedColon => "expected `:`"
  | expectedListCommaOrEnd => "expected `,` or `]`"
  | expectedObjectCommaOrEnd => "expected `,` or `\x7d`"
  | expectedIdent => "expected ident"
  | expectedValue => "expected value"
  | invalidEscape => "invalid escape"
  | invalidNumber => "invalid number"
  | numberOutOfRange => "number out of range"
  | invalidUnicode => "invalid unicode code point"
  | controlCharacter => "control character (\\u0000-\\u001F) found while parsing a string"
  | keyMustBeString => "key must be a string"
  | loneSurrogate => "lone leading surrogate in hex escape"
  | trailingComma => "trailing comma"
  | trailingCharacters => "trailing characters"
  | unexpectedEndOfHexEscape => "unexpected end of hex escape"
  | recursionLimit => "recursion limit exceeded"
  | wrongType found wanted => "invalid type: " ++ found.text ++ ", expected " ++ wanted
  | wrongValue found wanted => "invalid value: " ++ found.text ++ ", expected " ++ wanted
  | wrongLength n wanted => "invalid length " ++ toString n ++ ", expected " ++ wanted
  | missingField name => "missing field `" ++ name ++ "`"
  | duplicateField name => "duplicate field `" ++ name ++ "`"
  | unknownVariant name known =>
    "unknown variant `" ++ name ++ "`, expected one of " ++ wordList known
  | noTimestamp e => e.message

/-- A refusal: its cause, and how many bytes of the text lie after its place. -/
structure Fault where
  /-- The cause. -/
  cause : Cause
  /-- The bytes after the place. -/
  left : Nat
  deriving DecidableEq, Repr

/-- A fault just before the rest of a text. -/
def faultAt (rest : List Glyph) (cause : Cause) : Fault := ⟨cause, Glyph.totalSize rest⟩

/-- A fault one byte into the rest of a text, or at its end. -/
def faultIn (rest : List Glyph) (cause : Cause) : Fault := ⟨cause, Glyph.totalSize rest - 1⟩

/-- A place in a text. -/
structure Place where
  /-- The line, from 1. -/
  line : Nat
  /-- The bytes between the start of the line and the place. -/
  column : Nat
  deriving DecidableEq, Repr

/-- The place that lies `bytes` bytes after `p`. -/
def Place.advance : List Glyph → (bytes : Nat) → (p : Place) → Place
  | [], _, p => p
  | g :: gs, bytes, p =>
    if g.size ≤ bytes then
      Place.advance gs (bytes - g.size)
        (if g = .scalar '\n' then ⟨p.line + 1, 0⟩ else ⟨p.line, p.column + g.size⟩)
    else ⟨p.line, p.column + bytes⟩

/-- Why a whole text is refused, and where. -/
structure ReadError where
  /-- The cause. -/
  cause : Cause
  /-- The place. -/
  place : Place
  deriving DecidableEq, Repr

/-- The error that a fault is in a text. -/
def Fault.inText (f : Fault) (text : List Glyph) : ReadError :=
  ⟨f.cause, Place.advance text (Glyph.totalSize text - f.left) ⟨1, 0⟩⟩

/-- The wording of an error. -/
def ReadError.message (e : ReadError) : String :=
  e.cause.message ++ " at line " ++ toString e.place.line ++ " column " ++ toString e.place.column

end NodeTelemetry.Json
