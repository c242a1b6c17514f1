import NodeTelemetry.Text.Digits
import NodeTelemetry.Text.Utf8

/-!
# Bytes escaped in texts

A byte can be written as `%` and two hexadecimal digits. A `%` without two such digits after it
stands for itself, and every other character for the bytes of its UTF-8 form.
-/

namespace NodeTelemetry.Text

/-- The bytes that a text stands for. -/
def unescaped : List Char → List UInt8
  | [] => []
  | '%' :: a :: b :: rest =>
    match hexValue? a, hexValue? b with
    | some x, some y => UInt8.ofNat (16 * x + y) :: unescaped rest
    | _, _ => 0x25 :: unescaped (a :: b :: rest)
  | c :: rest => String.utf8EncodeChar c ++ unescaped rest

/-- The escaped form of a byte, in capital digits. -/
def escapedByte (b : UInt8) : List Char :=
  ['%', (hexDigit (b.toNat / 16)).toUpper, (hexDigit (b.toNat % 16)).toUpper]

/-- A text in which the bytes of the marked characters are escaped. -/
def escaped (marked : Char → Bool) (cs : List Char) : List Char :=
  cs.flatMap fun c => if marked c then (String.utf8EncodeChar c).flatMap escapedByte else [c]

end NodeTelemetry.Text
