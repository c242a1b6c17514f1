/-!
# Decimal digits

Writing natural numbers in decimal and reading them back. A *word* is a natural number below
`2 ^ 64`, the range of every counter here. `readWord` says why a text is no word; a sign `+` and
leading zeros are part of its grammar.
-/

namespace NodeTelemetry.Text

/-- The largest word. -/
def maxWord : Nat := 18446744073709551615

/-- The largest integer of 64 bits with a sign. -/
def maxInteger : Nat := 9223372036854775807

/-- The decimal digits of a number. -/
def decimal (n : Nat) : List Char := Nat.toDigits 10 n

/-- The decimal digits of an integer, after a `-` when it is negative. -/
def signed (i : Int) : List Char := if i < 0 then '-' :: decimal i.natAbs else decimal i.natAbs

/-- The digits of a number, filled with zeros in front up to `width`. -/
def padded (width n : Nat) : List Char :=
  let ds := decimal n
  List.replicate (width - ds.length) '0' ++ ds

/-- The value of a decimal digit. -/
def digitValue (c : Char) : Nat := c.toNat - '0'.toNat

/-- The number that a list of digits writes. -/
def ofDigits (cs : List Char) : Nat := Nat.ofDigitChars 10 cs 0

/-- The value of a hexadecimal digit of either case. -/
def hexValue? (c : Char) : Option Nat :=
  if c.isDigit then some (c.toNat - '0'.toNat)
  else if 'a' ≤ c ∧ c ≤ 'f' then some (c.toNat - 'a'.toNat + 10)
  else if 'A' ≤ c ∧ c ≤ 'F' then some (c.toNat - 'A'.toNat + 10)
  else none

/-- The hexadecimal digit of a number below sixteen, in lower case. -/
def hexDigit (n : Nat) : Char := Nat.digitChar n

/-- Why a text is no word. -/
inductive WordError where
  /-- There is nothing to read. -/
  | empty
  /-- A character is no digit, or there is a sign and nothing else. -/
  | invalidDigit
  /-- The number is above the largest word. -/
  | tooLarge
  deriving DecidableEq, Repr

/-- The wording of a word's error. -/
def WordError.message : WordError → String
  | empty => "cannot parse integer from empty string"
  | invalidDigit => "invalid digit found in string"
  | tooLarge => "number too large to fit in target type"

/-- The digits of a word, after its sign. -/
def readDigits : List Char → Nat → Except WordError Nat
  | [], n => .ok n
  | c :: cs, n =>
    if c.isDigit then
      let n := n * 10 + digitValue c
      if maxWord < n then .error .tooLarge else readDigits cs n
    else .error .invalidDigit

/-- Reads a word: an optional `+` and at least one digit. -/
def readWord : List Char → Except WordError Nat
  | [] => .error .empty
  | ['+'] => .error .invalidDigit
  | '+' :: cs => readDigits cs 0
  | cs => readDigits cs 0

/-- The word a text writes, if it writes one. -/
def word? (cs : List Char) : Option Nat :=
  match readWord cs with
  | .ok n => some n
  | .error _ => none

end NodeTelemetry.Text
