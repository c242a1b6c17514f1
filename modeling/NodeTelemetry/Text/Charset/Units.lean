import NodeTelemetry.Text.Charset.Index

/-!
# Units of 16 bits

A unit of 16 bits is a character, or half of a pair that makes one. A half alone is an error; what
the bytes leave unfinished at their end is one error altogether.
-/

namespace NodeTelemetry.Text.Charset

/-- The unit of two bytes. -/
def unitOf (highFirst : Bool) (a b : UInt8) : Nat :=
  if highFirst then 256 * a.toNat + b.toNat else 256 * b.toNat + a.toNat

/-- Whether a unit is the first half of a pair. -/
def isFirstHalf (u : Nat) : Bool := 0xD800 ≤ u && u < 0xDC00

/-- Whether a unit is the second half of a pair. -/
def isSecondHalf (u : Nat) : Bool := 0xDC00 ≤ u && u < 0xE000

/-- The character of a pair. -/
def pairChar (first second : Nat) : Char :=
  Char.ofNat (0x10000 + (first - 0xD800) * 1024 + (second - 0xDC00))

/-- Reads units; `done` holds the characters read before, the latest first. -/
def unitsRun (highFirst : Bool) (done : List Char) : List UInt8 → List Char
  | [] => done.reverse
  | [_] => (gap :: done).reverse
  | a :: b :: rest =>
    let u := unitOf highFirst a b
    if isFirstHalf u then
      match rest with
      | c :: d :: rest' =>
        let v := unitOf highFirst c d
        if isSecondHalf v then unitsRun highFirst (pairChar u v :: done) rest'
        else unitsRun highFirst (gap :: done) (c :: d :: rest')
      | _ => (gap :: done).reverse
    else unitsRun highFirst ((if isSecondHalf u then gap else Char.ofNat u) :: done) rest

end NodeTelemetry.Text.Charset
