import NodeTelemetry.Text.Charset.DoubleByte
import NodeTelemetry.Text.Charset.Index.Ranges
import NodeTelemetry.Text.Charset.Index.Simplified
import NodeTelemetry.Text.Charset.Index.Supplement

/-!
# Sets of up to four bytes

The set of simplified Chinese has characters of one, two and four bytes. In the last case the second
and the fourth byte are digits. The extended Japanese set has a third byte for the characters of the
supplement. Where a longer sequence makes no character, its first byte is lost and the others are
read anew.
-/

namespace NodeTelemetry.Text.Charset

/-! ### Simplified Chinese -/

/-- The last run of characters of four bytes that begins at a number or before it. -/
def runAt (n : Nat) : Nat × Nat := ranges.foldl (fun run r => if r.1 ≤ n then r else run) (0, 0x80)

/-- The character of four bytes with a number. -/
def fourByteChar? (n : Nat) : Option Char :=
  if (39419 < n ∧ n < 189000) ∨ 1237575 < n then none
  else if n = 7457 then some '\ue7c7'
  else
    let run := runAt n
    some (Char.ofNat (run.2 + (n - run.1)))

/-- The number of four bytes. -/
def fourByteNumber (a b c d : UInt8) : Nat :=
  (((a.toNat - 0x81) * 10 + (b.toNat - 0x30)) * 126 + (c.toNat - 0x81)) * 10 + (d.toNat - 0x30)

/-- The character of two bytes. -/
def simplifiedPair? (lead t : UInt8) : Option Char :=
  if between 0x40 0x7E t || between 0x80 0xFE t then
    simplified.char? ((lead.toNat - 0x81) * 190 + trailNumber 0x7F 1 t)
  else none

/-- Whether a byte is a digit. -/
def isDigitByte (b : UInt8) : Bool := between 0x30 0x39 b

/-- Reads bytes of the simplified Chinese set; `done` holds the characters read before, the latest
first. -/
def simplifiedRun (done : List Char) : List UInt8 → List Char
  | [] => done.reverse
  | a :: rest =>
    match basic? a with
    | some c => simplifiedRun (c :: done) rest
    | none =>
      if a = 0x80 then simplifiedRun ('\u20ac' :: done) rest
      else if a = 0xFF then simplifiedRun (gap :: done) rest
      else
        match rest with
        | [] => (gap :: done).reverse
        | b :: rest =>
          if isDigitByte b then
            match rest with
            | [] => (gap :: done).reverse
            | c :: rest' =>
              if between 0x81 0xFE c then
                match rest' with
                | [] => (gap :: done).reverse
                | d :: rest'' =>
                  if isDigitByte d then
                    simplifiedRun
                      ((fourByteChar? (fourByteNumber a b c d)).getD gap :: done) rest''
                  else simplifiedRun (gap :: done) (b :: c :: d :: rest'')
              else simplifiedRun (gap :: done) (b :: c :: rest')
          else
            match simplifiedPair? a b with
            | some c => simplifiedRun (c :: done) rest
            | none =>
              if b < 0x80 then simplifiedRun (gap :: done) (b :: rest)
              else simplifiedRun (gap :: done) rest

/-! ### Japanese -/

/-- The number of a row and a cell, each written as a byte from `first` on. -/
def cellNumber (first : Nat) (row cell : UInt8) : Nat :=
  (row.toNat - first) * 94 + (cell.toNat - first)

/-- The character of two bytes from A1 on. -/
def cellChar? (i : Index) (row cell : UInt8) : Option Char :=
  if between 0xA1 0xFE row && between 0xA1 0xFE cell then i.char? (cellNumber 0xA1 row cell)
  else none

/-- Reads bytes of the extended Japanese set; `done` holds the characters read before, the latest
first. -/
def extendedRun (done : List Char) : List UInt8 → List Char
  | [] => done.reverse
  | a :: rest =>
    match basic? a with
    | some c => extendedRun (c :: done) rest
    | none =>
      if a = 0x8E || a = 0x8F || between 0xA1 0xFE a then
        match rest with
        | [] => (gap :: done).reverse
        | b :: rest =>
          if a = 0x8F && between 0xA1 0xFE b then
            match rest with
            | [] => (gap :: done).reverse
            | c :: rest =>
              match cellChar? supplement b c with
              | some d => extendedRun (d :: done) rest
              | none =>
                if c < 0x80 then extendedRun (gap :: done) (c :: rest)
                else extendedRun (gap :: done) rest
          else
            match (if a = 0x8E then halfWidth? b else cellChar? japanese a b) with
            | some d => extendedRun (d :: done) rest
            | none =>
              if b < 0x80 then extendedRun (gap :: done) (b :: rest)
              else extendedRun (gap :: done) rest
      else extendedRun (gap :: done) rest

end NodeTelemetry.Text.Charset
