import NodeTelemetry.Time.Calendar
import NodeTelemetry.Text.Blank
import NodeTelemetry.Text.Digits

/-!
# Written timestamps

Instants are written in UTC as `2024-05-01T12:00:00.000Z`, with three places of the second or with
as many groups of three as are needed. Years outside 0 to 9999 carry a sign.

Two grammars read timestamps back. `readStrict` takes the fixed columns of RFC 3339 and keeps the
local date and time. `read` is lenient: it allows fewer digits, white space between the parts, any
number of colons in the offset and the word `UTC`; it tells why a text is refused.
-/

namespace NodeTelemetry.Time

open Text

/-- The digits of a year, signed outside 0 to 9999. -/
def yearText (year : Int) : List Char :=
  if 0 ≤ year ∧ year ≤ 9999 then padded 4 year.toNat
  else (if year < 0 then '-' else '+') :: padded 4 year.natAbs

/-- The text of a date. -/
def Date.text (d : Date) : List Char :=
  yearText d.year ++ '-' :: padded 2 d.month ++ '-' :: padded 2 d.day

/-- The text of a time of day, to the second. -/
def DateTime.clockText (t : DateTime) : List Char :=
  padded 2 t.hour ++ ':' :: padded 2 t.minute ++ ':' :: padded 2 t.second

/-- The text for display: date and time to the second, with a space between. -/
def DateTime.display (t : DateTime) : List Char := t.date.text ++ ' ' :: t.clockText

/-- The fraction of a second in as many groups of three digits as it needs. -/
def fractionText (nanos : Nat) : List Char :=
  if nanos = 0 then []
  else if nanos % 1000000 = 0 then '.' :: padded 3 (nanos / 1000000)
  else if nanos % 1000 = 0 then '.' :: padded 6 (nanos / 1000)
  else '.' :: padded 9 nanos

/-- The text of an instant in UTC with the given text for the fraction of the second. -/
def Instant.textWith (t : Instant) (fraction : Nat → List Char) : String :=
  let d := t.toDateTime
  String.ofList (d.date.text ++ 'T' :: d.clockText ++ fraction d.nanos ++ ['Z'])

/-- The text of an instant with as many places as it needs. -/
def Instant.text (t : Instant) : String := t.textWith fractionText

/-- The text of an instant to the millisecond. -/
def Instant.stamp (t : Instant) : String := t.textWith (fun n => '.' :: padded 3 (n / 1000000))

/-! ### Reading -/

/-- Why a text is no timestamp. -/
inductive StampError where
  /-- It ends too early. -/
  | tooShort
  /-- A character is not of the kind that is due. -/
  | invalid
  /-- A number is outside its range, or there is no such date. -/
  | outOfRange
  /-- There is something after the end. -/
  | tooLong
  /-- Moved to UTC, the date lies outside the calendar's range. -/
  | impossible
  deriving DecidableEq, Repr

/-- The wording of a timestamp's error. -/
def StampError.message : StampError → String
  | tooShort => "premature end of input"
  | invalid => "input contains invalid characters"
  | outOfRange => "input is out of range"
  | tooLong => "trailing input"
  | impossible => "no possible date and time matching input"

/-- What was read, and the rest of the text. -/
abbrev Reading (α : Type) := α × List Char

/-- The largest number of the reading register. -/
def maxRegister : Nat := Text.maxInteger

/-- Reads a number of `least` to `most` digits; `read` counts those read already. -/
def numberLoop (least : Nat) :
    (most : Nat) → (read n : Nat) → List Char → Except StampError (Reading Nat)
  | 0, _, n, cs => .ok (n, cs)
  | _ + 1, read, n, [] => if read < least then .error .tooShort else .ok (n, [])
  | most + 1, read, n, c :: cs =>
    if c.isDigit then
      let n := n * 10 + digitValue c
      if maxRegister < n then .error .outOfRange else numberLoop least most (read + 1) n cs
    else if read < least then .error .invalid
    else .ok (n, c :: cs)

/-- Reads a number of one to `most` digits. -/
def number (most : Nat) (cs : List Char) : Except StampError (Reading Nat) :=
  numberLoop 1 most 0 0 cs

/-- Reads a number and checks its range. -/
def numberIn (most lo hi : Nat) (cs : List Char) : Except StampError (Reading Nat) := do
  let (n, rest) ← number most (trimStart cs)
  if n < lo ∨ hi < n then .error .outOfRange else .ok (n, rest)

/-- Reads one character that must be `c`. -/
def literal (c : Char) : List Char → Except StampError (Reading Unit)
  | [] => .error .tooShort
  | d :: cs => if d = c then .ok ((), cs) else .error .invalid

/-- Reads a year: four digits at most, or any number of digits after a sign. -/
def year (cs : List Char) : Except StampError (Reading Int) := do
  let check (y : Int) (rest : List Char) : Except StampError (Reading Int) :=
    if y < -2147483648 ∨ 2147483647 < y then .error .outOfRange else .ok (y, rest)
  match trimStart cs with
  | '-' :: rest => do let (n, rest) ← number rest.length.succ rest; check (-n) rest
  | '+' :: rest => do let (n, rest) ← number rest.length.succ rest; check n rest
  | cs => do let (n, rest) ← number 4 cs; check n rest

/-- Reads the fraction of a second, if there is one, in nanoseconds. Digits after the ninth are
skipped. -/
def fraction : List Char → Except StampError (Reading Nat)
  | '.' :: cs => do
    let (n, rest) ← number 9 cs
    .ok (n * Nat.pow 10 (9 - (cs.length - rest.length)), rest.dropWhile Char.isDigit)
  | cs => .ok (0, cs)

/-- Reads two digits of the offset. -/
def pair : List Char → Except StampError (Reading (Char × Char))
  | c :: d :: cs => .ok ((c, d), cs)
  | [c] => if c.toNat < 0x80 then .error .tooShort else .error .invalid
  | [] => .error .tooShort

/-- Reads the offset from UTC in seconds; `between` reads what stands between hours and minutes. -/
def offset (between : List Char → Except StampError (Reading Unit)) :
    List Char → Except StampError (Reading Int)
  | [] => .error .tooShort
  | c :: cs => do
    if c = 'Z' ∨ c = 'z' then return (0, cs)
    let negative ← match c with
      | '+' => .ok false
      | '-' | '\u2212' => .ok true
      | _ => .error .invalid
    let ((a, b), cs) ← pair cs
    if !(a.isDigit && b.isDigit) then throw .invalid
    let ((), cs) ← between cs
    let ((x, y), cs) ← pair cs
    if !(x.isDigit && y.isDigit) then throw .invalid
    if '6' ≤ x then throw .outOfRange
    let hours := digitValue a * 10 + digitValue b
    let minutes := digitValue x * 10 + digitValue y
    let secs : Int := hours * 3600 + minutes * 60
    return (if negative then -secs else secs, cs)

/-- Reads what separates date and time. -/
def separator : List Char → Except StampError (Reading Unit)
  | [] => .error .tooShort
  | c :: cs => if c = 'T' ∨ c = 't' ∨ c = ' ' then .ok ((), cs) else .error .invalid

/-- Whether a text begins with the word `UTC` in any case. -/
def startsWithUtc (cs : List Char) : Bool := (cs.take 3).map Char.toLower = ['u', 't', 'c']

/-- Reads a timestamp leniently, as an instant. -/
def read (cs : List Char) : Except StampError Instant := do
  let (y, cs) ← year cs
  let ((), cs) ← literal '-' (trimStart cs)
  let (month, cs) ← numberIn 2 1 12 cs
  let ((), cs) ← literal '-' (trimStart cs)
  let (day, cs) ← numberIn 2 1 31 cs
  let ((), cs) ← separator cs
  let (hour, cs) ← numberIn 2 0 23 cs
  let ((), cs) ← literal ':' (trimStart cs)
  let (minute, cs) ← numberIn 2 0 59 cs
  let ((), cs) ← literal ':' (trimStart cs)
  let (second, cs) ← numberIn 2 0 60 cs
  let (nanos, cs) ← fraction cs
  let cs := trimStart cs
  let (secs, cs) ←
    if startsWithUtc cs then .ok (0, cs.drop 3)
    else offset (fun cs => .ok ((), cs.dropWhile (fun c => c == ':' || isBlank c))) cs
  if !(trimStart cs).isEmpty then throw .tooLong
  let t : DateTime := ⟨⟨y, month, day⟩, hour, minute, second, nanos⟩
  if !t.date.valid then throw .outOfRange
  if y < firstYear ∨ lastYear < y then throw .outOfRange
  if secs ≤ -daySecs ∨ daySecs ≤ secs then throw .outOfRange
  let instant := t.toInstant secs
  if !instant.inCalendar then throw .impossible
  return instant

/-- Reads a number of exactly `width` digits. -/
def digits? (width : Nat) (cs : List Char) : Option (Nat × List Char) :=
  let ds := cs.take width
  if ds.length = width ∧ ds.all Char.isDigit then some (ofDigits ds, cs.drop width) else none

/-- Reads one character that must be `c`. -/
def literal? (c : Char) : List Char → Option (List Char)
  | [] => none
  | d :: cs => if d = c then some cs else none

/-- What a step of reading gave, its error dropped. -/
def given {α : Type} : Except StampError (Reading α) → Option (α × List Char)
  | .ok r => some r
  | .error _ => none

/-- Reads a timestamp of fixed columns, as the local date and time. -/
def readStrict (cs : List Char) : Option DateTime := do
  let (y, cs) ← digits? 4 cs
  let cs ← literal? '-' cs
  let (month, cs) ← digits? 2 cs
  let cs ← literal? '-' cs
  let (day, cs) ← digits? 2 cs
  let ((), cs) ← given (separator cs)
  let (hour, cs) ← digits? 2 cs
  let cs ← literal? ':' cs
  let (minute, cs) ← digits? 2 cs
  let cs ← literal? ':' cs
  let (second, cs) ← digits? 2 cs
  let (nanos, cs) ← given (fraction cs)
  let (secs, cs) ← given (offset (literal ':') cs)
  let t : DateTime := ⟨⟨y, month, day⟩, hour, minute, second, nanos⟩
  if cs.isEmpty ∧ t.date.valid ∧ hour ≤ 23 ∧ minute ≤ 59 ∧ second ≤ 60 ∧
      -daySecs < secs ∧ secs < daySecs then some t
  else none

end NodeTelemetry.Time
