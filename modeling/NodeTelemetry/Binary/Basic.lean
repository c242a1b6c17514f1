/-!
# Binary floating-point numbers

A number is exact here: a sign, a significand and a power of two, or an infinity, or not a number.
A `Precision` says how many bits the significand may have and how far the power of two may go.
Every operation computes its result exactly, as a quotient of natural numbers, and then rounds it
once with `ofQuotient`: to the nearest representable number, a tie going to the even significand.

## Normal form

`ofQuotient` gives a significand of exactly `bits` bits, or a shorter one at the least power of
two. So each number has one form, and equal numbers of one precision (zeros of two signs apart) are
equal values.
-/

namespace NodeTelemetry

/-- A binary floating-point number. -/
inductive Binary where
  /-- `± mantissa * 2 ^ exponent`. -/
  | finite (negative : Bool) (mantissa : Nat) (exponent : Int)
  /-- An infinity. -/
  | infinite (negative : Bool)
  /-- Not a number. -/
  | nan
  deriving DecidableEq, Repr, Inhabited

namespace Binary

/-- What a kind of binary number can represent. -/
structure Precision where
  /-- The most bits a significand has. -/
  bits : Nat
  /-- The least power of two. -/
  leastExponent : Int
  /-- The greatest power of two. -/
  greatestExponent : Int
  deriving DecidableEq, Repr

/-- Numbers of 64 bits. -/
def Precision.double : Precision := ⟨53, -1074, 971⟩

/-- Numbers of 32 bits. -/
def Precision.single : Precision := ⟨24, -149, 104⟩

/-- Zero. -/
def zero (negative : Bool) : Binary := finite negative 0 (-1074)

/-- The natural number nearest to `num / den`, a tie going to the even one. -/
def roundQuotient (num den : Nat) : Nat :=
  let q := num / den
  let r := num % den
  if 2 * r < den then q
  else if den < 2 * r then q + 1
  else if q % 2 = 0 then q else q + 1

/-- The `k` with `2 ^ k ≤ num / den < 2 ^ (k + 1)`, for positive numbers. -/
def floorLog (num den : Nat) : Int :=
  let k : Int := (num.log2 : Int) - den.log2
  if den * Nat.pow 2 k.toNat ≤ num * Nat.pow 2 (-k).toNat then k else k - 1

/-- `num / den / 2 ^ e` as a quotient of natural numbers. -/
def scaled (num den : Nat) (e : Int) : Nat × Nat :=
  (num * Nat.pow 2 (-e).toNat, den * Nat.pow 2 e.toNat)

/-- The representable number nearest to `± num / den`, a tie going to the even significand. A
denominator of zero is not met. -/
def ofQuotient (p : Precision) (negative : Bool) (num den : Nat) : Binary :=
  if num = 0 then zero negative
  else
    let e := max p.leastExponent (floorLog num den - (p.bits - 1))
    let (n, d) := scaled num den e
    let m := roundQuotient n d
    let (m, e) := if m = Nat.pow 2 p.bits then (Nat.pow 2 (p.bits - 1), e + 1) else (m, e)
    if m = 0 then zero negative
    else if p.greatestExponent < e then infinite negative
    else finite negative m e

/-- The number nearest to a natural number. -/
def ofNat (p : Precision) (n : Nat) : Binary := ofQuotient p false n 1

/-- The number nearest to an integer. -/
def ofInt (p : Precision) (i : Int) : Binary := ofQuotient p (i < 0) i.natAbs 1

/-- A finite number's size as a quotient of natural numbers. -/
def fraction (m : Nat) (e : Int) : Nat × Nat := (m * Nat.pow 2 e.toNat, Nat.pow 2 (-e).toNat)

/-- The number with its sign turned. -/
def neg : Binary → Binary
  | finite s m e => finite (!s) m e
  | infinite s => infinite (!s)
  | nan => nan

/-- The product, rounded once. -/
def mul (p : Precision) : Binary → Binary → Binary
  | nan, _ | _, nan => nan
  | infinite s, infinite t => infinite (s != t)
  | infinite s, finite t m _ | finite s m _, infinite t => if m = 0 then nan else infinite (s != t)
  | finite s m e, finite t n f =>
    let (a, b) := fraction m e
    let (c, d) := fraction n f
    ofQuotient p (s != t) (a * c) (b * d)

/-- The quotient, rounded once. -/
def div (p : Precision) : Binary → Binary → Binary
  | nan, _ | _, nan => nan
  | infinite _, infinite _ => nan
  | infinite s, finite t _ _ => infinite (s != t)
  | finite s _ _, infinite t => zero (s != t)
  | finite s m e, finite t n f =>
    if n = 0 then (if m = 0 then nan else infinite (s != t))
    else
      let (a, b) := fraction m e
      let (c, d) := fraction n f
      ofQuotient p (s != t) (a * d) (b * c)

/-- The sum, rounded once. A sum of zero is positive unless both parts are negative. -/
def add (p : Precision) : Binary → Binary → Binary
  | nan, _ | _, nan => nan
  | infinite s, infinite t => if s = t then infinite s else nan
  | infinite s, finite _ _ _ | finite _ _ _, infinite s => infinite s
  | finite s m e, finite t n f =>
    let (a, b) := fraction m e
    let (c, d) := fraction n f
    let x : Int := if s then -(a * d : Nat) else (a * d : Nat)
    let y : Int := if t then -(c * b : Nat) else (c * b : Nat)
    let z := x + y
    if z = 0 then zero (s && t) else ofQuotient p (z < 0) z.natAbs (b * d)

/-- Whether a number is less than another; nothing is compared with what is not a number. -/
def lt : Binary → Binary → Bool
  | nan, _ | _, nan => false
  | infinite s, infinite t => s && !t
  | infinite s, finite _ _ _ => s
  | finite _ _ _, infinite t => !t
  | finite s m e, finite t n f =>
    let (a, b) := fraction m e
    let (c, d) := fraction n f
    let x : Int := if s then -(a * d : Nat) else (a * d : Nat)
    let y : Int := if t then -(c * b : Nat) else (c * b : Nat)
    x < y

/-- Whether two numbers are equal; zeros of both signs are, and nothing equals what is not a
number. -/
def eq : Binary → Binary → Bool
  | nan, _ | _, nan => false
  | x, y => !lt x y && !lt y x

/-- Whether a number is at most another. -/
def le (x y : Binary) : Bool := lt x y || eq x y

/-- Whether a number is neither infinite nor not a number. -/
def isFinite : Binary → Bool
  | finite _ _ _ => true
  | _ => false

/-- Whether a number is zero, of either sign. -/
def isZero : Binary → Bool
  | finite _ m _ => m == 0
  | _ => false

/-- The integer nearest to a finite size, a half going up. -/
def roundHalfUp (m : Nat) (e : Int) : Nat :=
  let (a, b) := fraction m e
  (2 * a + b) / (2 * b)

/-- The nearest natural number up to `bound`, a half going away from zero. What is negative or not a
number gives 0, what is too large gives `bound`. -/
def toNatSaturating (bound : Nat) : Binary → Nat
  | nan => 0
  | infinite s => if s then 0 else bound
  | finite s m e => if s then 0 else min bound (roundHalfUp m e)

/-- The same number in another precision. -/
def convert (p : Precision) : Binary → Binary
  | finite s m e => let (a, b) := fraction m e; ofQuotient p s a b
  | x => x

end Binary

end NodeTelemetry
