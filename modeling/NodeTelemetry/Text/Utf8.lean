/-!
# Byte texts as glyphs

Bytes that are meant as UTF-8 are read here into a list of glyphs. A glyph is either a scalar
value or a *broken* run of bytes: the longest start of a valid sequence that the bytes leave
unfinished, or a single byte that starts none. Reading loses nothing, so a place in the text can
still be counted in bytes (`Glyph.size`), and a reader that must accept any bytes shows one
replacement character for each broken run (`Utf8.lossy`).

## The machine

`Utf8.Decoder` reads one byte at a time. Between glyphs it holds nothing; inside a glyph it holds
the bytes seen, the value so far, how many bytes are still due and the range the next one must lie
in. The ranges are those of the Unicode standard's table of well-formed sequences, so overlong
forms, surrogates and values above `10FFFF` are never read as scalars.
-/

namespace NodeTelemetry

/-- A unit of a byte text. -/
inductive Glyph where
  /-- A well-formed sequence, as the scalar value it stands for. -/
  | scalar (c : Char)
  /-- Bytes that are no start of any well-formed sequence that the text completes. -/
  | broken (bytes : List UInt8)
  deriving DecidableEq, Repr

namespace Glyph

/-- The bytes a glyph was read from. -/
def bytes : Glyph → List UInt8
  | scalar c => String.utf8EncodeChar c
  | broken bs => bs

/-- How many bytes a glyph takes. -/
def size : Glyph → Nat
  | scalar c => c.utf8Size
  | broken bs => bs.length

/-- The character shown for a glyph: U+FFFD for a broken one. -/
def shown : Glyph → Char
  | scalar c => c
  | broken _ => '\ufffd'

/-- Whether the glyph is a scalar value. -/
def isScalar : Glyph → Bool
  | scalar _ => true
  | broken _ => false

/-- The number of bytes in a list of glyphs. -/
def totalSize (gs : List Glyph) : Nat := gs.foldl (fun n g => n + g.size) 0

/-- The glyphs of a text that is already made of scalar values. -/
def ofString (s : String) : List Glyph := s.toList.map scalar

end Glyph

namespace Utf8

/-- A glyph of which some bytes have been read and some are still due. -/
structure Partial where
  /-- The bytes read, the latest first. -/
  seen : List UInt8
  /-- The payload bits read so far. -/
  value : Nat
  /-- How many bytes are still due, at least one. -/
  due : Nat
  /-- The least byte that may follow. -/
  least : UInt8
  /-- The greatest byte that may follow. -/
  greatest : UInt8
  deriving DecidableEq, Repr

/-- What a byte between glyphs begins: a glyph of its own, or one with more bytes due. -/
def start (b : UInt8) : Glyph ⊕ Partial :=
  if b < 0x80 then .inl (.scalar (Char.ofNat b.toNat))
  else if 0xC2 ≤ b ∧ b ≤ 0xDF then .inr ⟨[b], b.toNat - 0xC0, 1, 0x80, 0xBF⟩
  else if b = 0xE0 then .inr ⟨[b], 0, 2, 0xA0, 0xBF⟩
  else if b = 0xED then .inr ⟨[b], 0xD, 2, 0x80, 0x9F⟩
  else if 0xE1 ≤ b ∧ b ≤ 0xEF then .inr ⟨[b], b.toNat - 0xE0, 2, 0x80, 0xBF⟩
  else if b = 0xF0 then .inr ⟨[b], 0, 3, 0x90, 0xBF⟩
  else if 0xF1 ≤ b ∧ b ≤ 0xF3 then .inr ⟨[b], b.toNat - 0xF0, 3, 0x80, 0xBF⟩
  else if b = 0xF4 then .inr ⟨[b], 4, 3, 0x80, 0x8F⟩
  else .inl (.broken [b])

/-- The state between two bytes of a text. -/
structure Decoder where
  /-- The glyphs completed, the latest first. -/
  done : List Glyph
  /-- The glyph that is being read, if any. -/
  pending : Option Partial
  deriving DecidableEq, Repr

namespace Decoder

/-- The state before the first byte. -/
def empty : Decoder := ⟨[], none⟩

/-- Reads a byte that is not part of an unfinished glyph. -/
def begin (done : List Glyph) (b : UInt8) : Decoder :=
  match start b with
  | .inl g => ⟨g :: done, none⟩
  | .inr p => ⟨done, some p⟩

/-- Reads one byte. A byte outside the expected range ends the pending glyph as broken and is read
anew. -/
def push (d : Decoder) (b : UInt8) : Decoder :=
  match d.pending with
  | none => begin d.done b
  | some p =>
    if p.least ≤ b ∧ b ≤ p.greatest then
      let value := p.value * 64 + (b.toNat - 0x80)
      if p.due = 1 then ⟨.scalar (Char.ofNat value) :: d.done, none⟩
      else ⟨d.done, some ⟨b :: p.seen, value, p.due - 1, 0x80, 0xBF⟩⟩
    else begin (.broken p.seen.reverse :: d.done) b

/-- The glyphs read, an unfinished one at the end being broken. -/
def finish (d : Decoder) : List Glyph :=
  match d.pending with
  | none => d.done.reverse
  | some p => (.broken p.seen.reverse :: d.done).reverse

end Decoder

/-- The glyphs of a list of bytes. -/
def decode (bytes : List UInt8) : List Glyph := (bytes.foldl Decoder.push .empty).finish

/-- The bytes of a list of glyphs. -/
def encode (gs : List Glyph) : List UInt8 := gs.flatMap Glyph.bytes

/-- The bytes of a text. -/
def ofString (s : String) : List UInt8 := s.toList.flatMap String.utf8EncodeChar

/-- The text shown for a list of bytes: one U+FFFD for each broken run. -/
def lossy (bytes : List UInt8) : String := String.ofList ((decode bytes).map Glyph.shown)

/-- The text that a list of bytes encodes, if they are well-formed throughout. -/
def text? (bytes : List UInt8) : Option String :=
  let gs := decode bytes
  if gs.all Glyph.isScalar then some (String.ofList (gs.map Glyph.shown)) else none

end Utf8

end NodeTelemetry
