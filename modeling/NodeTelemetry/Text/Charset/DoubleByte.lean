import NodeTelemetry.Text.Charset.Index.Japanese
import NodeTelemetry.Text.Charset.Index.Korean
import NodeTelemetry.Text.Charset.Index.Traditional

/-!
# Sets of one or two bytes

In these sets some bytes are characters and some are *leads*: a lead and the byte after it, the
*trail*, make a character. A pair that makes none is an error, and so is a lead at the end. If the
trail of such a pair is a basic character, only the lead is lost.
-/

namespace NodeTelemetry.Text.Charset

/-- A set of one or two bytes. -/
structure DoubleByte where
  /-- The character of a byte. -/
  single? : UInt8 → Option Char
  /-- Whether a byte is a lead. -/
  isLead : UInt8 → Bool
  /-- The characters of a lead and a trail. -/
  pair? : UInt8 → UInt8 → Option (List Char)

/-- The character of a byte that is a basic character. -/
def basic? (b : UInt8) : Option Char := if b < 0x80 then some (Char.ofNat b.toNat) else none

/-- Whether a byte lies between two others. -/
def between (lo hi b : UInt8) : Bool := lo ≤ b && b ≤ hi

namespace DoubleByte

/-- Reads bytes; `done` holds the characters read before, the latest first. -/
def run (s : DoubleByte) (done : List Char) : List UInt8 → List Char
  | [] => done.reverse
  | b :: rest =>
    match s.single? b with
    | some c => run s (c :: done) rest
    | none =>
      if s.isLead b then
        match rest with
        | [] => (gap :: done).reverse
        | t :: rest =>
          match s.pair? b t with
          | some cs => run s (cs.reverse ++ done) rest
          | none => if t < 0x80 then run s (gap :: done) (t :: rest) else run s (gap :: done) rest
      else run s (gap :: done) rest

/-- The characters of bytes. -/
def decode (s : DoubleByte) (bytes : List UInt8) : List Char := s.run [] bytes

end DoubleByte

/-! ### The sets -/

/-- A trail as a number, where trails begin at 40 and leave out a gap before `second`. -/
def trailNumber (second skipped : Nat) (t : UInt8) : Nat :=
  if t.toNat < second then t.toNat - 0x40 else t.toNat - 0x40 - skipped

/-- Two characters that the traditional Chinese set writes with one pair. -/
def joinedPair? (n : Nat) : Option (List Char) :=
  if n = 1133 then some ['\u00ca', '\u0304']
  else if n = 1135 then some ['\u00ca', '\u030c']
  else if n = 1164 then some ['\u00ea', '\u0304']
  else if n = 1166 then some ['\u00ea', '\u030c']
  else none

/-- The set of traditional Chinese. -/
def traditionalSet : DoubleByte where
  single? := basic?
  isLead := between 0x81 0xFE
  pair? lead t :=
    if between 0x40 0x7E t || between 0xA1 0xFE t then
      let n := (lead.toNat - 0x81) * 157 + trailNumber 0x7F 34 t
      match joinedPair? n with
      | some cs => some cs
      | none => (traditional.char? n).map ([·])
    else none

/-- The Korean set. -/
def koreanSet : DoubleByte where
  single? := basic?
  isLead := between 0x81 0xFE
  pair? lead t :=
    if between 0x41 0xFE t then
      (korean.char? ((lead.toNat - 0x81) * 190 + (t.toNat - 0x41))).map ([·])
    else none

/-- The Katakana letter of half width that a byte stands for, if it is one. -/
def halfWidth? (b : UInt8) : Option Char :=
  if between 0xA1 0xDF b then some (Char.ofNat (0xFF61 + (b.toNat - 0xA1))) else none

/-- The first number of the Japanese characters that are left to private use. -/
def firstPrivate : Nat := 8836

/-- The last number of the Japanese characters that are left to private use. -/
def lastPrivate : Nat := 10715

/-- The Japanese set with shifted rows, two to each lead. -/
def shiftedSet : DoubleByte where
  single? b := if b = 0x80 then some '\u0080' else (basic? b).or (halfWidth? b)
  isLead b := between 0x81 0x9F b || between 0xE0 0xFC b
  pair? lead t :=
    if between 0x40 0x7E t || between 0x80 0xFC t then
      let row := lead.toNat - (if lead < 0xA0 then 0x81 else 0xC1)
      let n := row * 188 + trailNumber 0x7F 1 t
      if firstPrivate ≤ n ∧ n ≤ lastPrivate then some [Char.ofNat (0xE000 + (n - firstPrivate))]
      else (japanese.char? n).map ([·])
    else none

end NodeTelemetry.Text.Charset
