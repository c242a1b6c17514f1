import NodeTelemetry.Text.Blank

/-!
# Labels in basic characters

A label with characters beyond the basic ones can be written in basic ones alone. First come its
basic characters and, if there are any, a hyphen; then a row of numbers tells which other characters
to put in where. The characters are put in in ascending order, so each number is a distance: how
many pairs of a character and a place are skipped since the last one.

A number is written in digits whose weights adapt to the numbers before it: a digit below its
threshold ends the number. All numbers have 32 bits.
-/

namespace NodeTelemetry.Domain.Punycode

/-- The greatest number. -/
def maxNumber : Nat := 4294967295

/-- The number of digits. -/
def base : Nat := 36

/-- The value of a digit. -/
def digit? (c : Char) : Option Nat :=
  if 'a' ≤ c ∧ c ≤ 'z' then some (c.toNat - 'a'.toNat)
  else if 'A' ≤ c ∧ c ≤ 'Z' then some (c.toNat - 'A'.toNat)
  else if c.isDigit then some (c.toNat - '0'.toNat + 26)
  else none

/-- The threshold of the digit at a place, counted in steps of the base. -/
def threshold (place bias : Nat) : Nat :=
  if place ≤ bias then 1 else if bias + 26 ≤ place then 26 else place - bias

/-- Divides a distance down to a small one; the steps are counted. -/
def shrink : (fuel delta steps : Nat) → Nat × Nat
  | 0, delta, steps => (delta, steps)
  | fuel + 1, delta, steps =>
    if 455 < delta then shrink fuel (delta / 35) (steps + 1) else (delta, steps)

/-- The bias after a distance, when there are `count` characters. -/
def adapt (delta count : Nat) (isFirst : Bool) : Nat :=
  let delta := if isFirst then delta / 700 else delta / 2
  let (delta, steps) := shrink delta (delta + delta / count) 0
  base * steps + base * delta / (delta + 38)

/-- Reads a number and adds it to `sum`. -/
def number? (bias : Nat) : (place weight sum : Nat) → List Char → Option (Nat × List Char)
  | _, _, _, [] => none
  | place, weight, sum, c :: cs =>
    match digit? c with
    | none => none
    | some d =>
      let sum := sum + d * weight
      let t := threshold place bias
      if maxNumber < sum then none
      else if d < t then some (sum, cs)
      else if maxNumber < weight * (base - t) then none
      else number? bias (place + base) (weight * (base - t)) sum cs

/-- Puts a character into a text. -/
def putIn (cs : List Char) (place : Nat) (c : Char) : List Char :=
  cs.take place ++ c :: cs.drop place

/-- Puts the characters in of which the numbers tell. `n` is the character and `i` the place of the
last one. Each number takes a digit at least. -/
def fill : (fuel : Nat) → (label : List Char) → (n i bias : Nat) → List Char → Option (List Char)
  | _, label, _, _, _, [] => some label
  | 0, _, _, _, _, _ :: _ => none
  | fuel + 1, label, n, i, bias, c :: cs =>
    match number? bias base 1 i (c :: cs) with
    | none => none
    | some (j, rest) =>
      let count := label.length + 1
      let m := n + j / count
      if m.isValidChar then
        fill fuel (putIn label (j % count) (Char.ofNat m)) m (j % count + 1)
          (adapt (j - i) count (i == 0)) rest
      else none

/-- The basic characters of a written label, and its digits. -/
def splitDigits (cs : List Char) : List Char × List Char :=
  let digits := (cs.reverse.takeWhile (· != '-')).reverse
  if digits.length + 1 < cs.length then (cs.take (cs.length - digits.length - 1), digits)
  else ([], cs)

/-- The label that is written in basic characters. -/
def decode (cs : List Char) : Option (List Char) :=
  let (basic, digits) := splitDigits cs
  fill digits.length basic 128 0 72 digits

end NodeTelemetry.Domain.Punycode
