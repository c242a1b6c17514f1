import NodeTelemetry.Binary.Basic
import NodeTelemetry.Text.Digits

/-!
# Reading binary numbers from decimals

A decimal is a natural number times a power of ten. It is read as the nearest representable number,
a tie going to the even significand. Its exponent may have any size: a decimal beyond all
representable numbers is infinite, and one below them is zero, without computing the power.

The text of a decimal has a sign, digits with an optional point among or around them, and an
exponent; all but one digit can be missing. The words for infinity and for what is not a number are
accepted in any case.
-/

namespace NodeTelemetry.Binary

/-- A power of ten that is beyond or below all numbers of 64 bits. -/
def farExponent : Int := 400

/-- The representable number nearest to `± digits * 10 ^ exponent`. -/
def ofDecimal (p : Precision) (negative : Bool) (digits : Nat) (exponent : Int) : Binary :=
  let top : Int := (Text.decimal digits).length + exponent
  if digits = 0 ∨ top < -farExponent then zero negative
  else if farExponent < top then infinite negative
  else ofQuotient p negative (digits * Nat.pow 10 exponent.toNat) (Nat.pow 10 (-exponent).toNat)

/-- The exponent that a text writes after its `e`; no exponent counts as zero. -/
def readExponent : List Char → Option Int
  | [] => some 0
  | e :: cs =>
    if e = 'e' ∨ e = 'E' then
      let (negative, ds) := match cs with
        | '-' :: ds => (true, ds)
        | '+' :: ds => (false, ds)
        | ds => (false, ds)
      if ds.isEmpty ∨ !ds.all Char.isDigit then none
      else
        let n : Int := Text.ofDigits ds
        some (if negative then -n else n)
    else none

/-- The number that a text without a sign writes. -/
def readSize (p : Precision) (negative : Bool) (cs : List Char) : Option Binary :=
  match String.ofList (cs.map Char.toLower) with
  | "inf" | "infinity" => some (infinite negative)
  | "nan" => some nan
  | _ =>
    let whole := cs.takeWhile Char.isDigit
    let rest := cs.dropWhile Char.isDigit
    let (part, rest) := match rest with
      | '.' :: rest => (rest.takeWhile Char.isDigit, rest.dropWhile Char.isDigit)
      | rest => ([], rest)
    if whole.isEmpty ∧ part.isEmpty then none
    else
      (readExponent rest).map fun e =>
        ofDecimal p negative (Text.ofDigits (whole ++ part)) (e - part.length)

/-- The number that a text writes, if it writes one. -/
def read? (p : Precision) : List Char → Option Binary
  | '-' :: cs => readSize p true cs
  | '+' :: cs => readSize p false cs
  | cs => readSize p false cs

end NodeTelemetry.Binary
