import NodeTelemetry.Text.Charset.Extended

/-!
# The Japanese set that switches

This set uses basic bytes alone. Sequences that begin with an escape switch between four tables: the
basic characters, almost the same with two other signs, Katakana letters, and pairs for the
characters of the Japanese standard. Two switches with no character between them are an error.
-/

namespace NodeTelemetry.Text.Charset

/-- A table that bytes are read with. -/
inductive SwitchTable where
  /-- The basic characters. -/
  | basic
  /-- The basic characters with a yen sign and an overline. -/
  | roman
  /-- Katakana letters. -/
  | katakana
  /-- Pairs of bytes. -/
  | pairs
  deriving DecidableEq, Repr

/-- The table that the two bytes after an escape switch to. -/
def SwitchTable.of? (a b : UInt8) : Option SwitchTable :=
  if a = 0x28 then
    if b = 0x42 then some .basic
    else if b = 0x4A then some .roman
    else if b = 0x49 then some .katakana
    else none
  else if a = 0x24 ∧ (b = 0x40 ∨ b = 0x42) then some .pairs
  else none

/-- The character of a byte in a table of single bytes. -/
def SwitchTable.char? (t : SwitchTable) (b : UInt8) : Option Char :=
  match t with
  | .katakana =>
    if between 0x21 0x5F b then some (Char.ofNat (0xFF61 + (b.toNat - 0x21))) else none
  | .basic => if b = 0x0E ∨ b = 0x0F then none else basic? b
  | .roman =>
    if b = 0x0E ∨ b = 0x0F then none
    else if b = 0x5C then some '\u00a5'
    else if b = 0x7E then some '\u203e'
    else basic? b
  | .pairs => none

/-- Reads bytes with a table. `switched` says that nothing was read since the last switch, `done`
holds the characters read before, the latest first. -/
def switchingRun (t : SwitchTable) (switched : Bool) (done : List Char) : List UInt8 → List Char
  | [] => done.reverse
  | a :: rest =>
    if a = 0x1B then
      match rest with
      | b :: c :: rest' =>
        match SwitchTable.of? b c with
        | some t => switchingRun t true (if switched then gap :: done else done) rest'
        | none => switchingRun t false (gap :: done) (b :: c :: rest')
      | rest => switchingRun t false (gap :: done) rest
    else if t = .pairs ∧ between 0x21 0x7E a then
      match rest with
      | [] => (gap :: done).reverse
      | b :: rest' =>
        if b = 0x1B then switchingRun t false (gap :: done) (b :: rest')
        else
          let c := if between 0x21 0x7E b then japanese.char? (cellNumber 0x21 a b) else none
          switchingRun t false (c.getD gap :: done) rest'
    else switchingRun t false ((t.char? a).getD gap :: done) rest

end NodeTelemetry.Text.Charset
