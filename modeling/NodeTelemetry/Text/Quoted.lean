import NodeTelemetry.Text.Digits
import NodeTelemetry.Text.Property.Unprintable
import NodeTelemetry.Text.Property.GraphemeExtend

/-!
# Texts quoted in messages

A text shown inside a message stands between double quotes. Quotes, backslashes and the usual
control characters are written with a backslash; every other character that would not show up by
itself is written by its code point in hexadecimal.
-/

namespace NodeTelemetry.Text

/-- Whether a character is shown by itself. -/
def showsItself (c : Char) : Bool :=
  if c.toNat < 0x7F then 0x20 ≤ c.toNat
  else !Property.graphemeExtend.holds c && !Property.unprintable.holds c

/-- The quoted form of one character. -/
def quoteChar (c : Char) : List Char :=
  match c with
  | '\x00' => ['\\', '0']
  | '\t' => ['\\', 't']
  | '\r' => ['\\', 'r']
  | '\n' => ['\\', 'n']
  | '"' => ['\\', '"']
  | '\\' => ['\\', '\\']
  | c => if showsItself c then [c] else '\\' :: 'u' :: '\x7b' :: Nat.toDigits 16 c.toNat ++ ['\x7d']

/-- A text between double quotes. -/
def quoted (s : String) : String := String.ofList ('"' :: s.toList.flatMap quoteChar ++ ['"'])

end NodeTelemetry.Text
