import NodeTelemetry.Binary.Basic

/-!
# Shortest decimal digits

The digits of a finite number are the fewest that read back as it: of all decimals with the least
number of digits among those that round to the number, the one nearest to it.

The reals that round to `m * 2 ^ e` form an interval around it, whose ends belong to it when `m` is
even. `Shortest.digits` goes through the decimal grids from one digit to seventeen. On each grid it
looks at the two neighbours of the number; the first grid with a neighbour in the interval gives
the digits, and of two neighbours in the interval the nearer one.
-/

namespace NodeTelemetry.Binary

/-- A decimal `digits * 10 ^ exponent`. -/
structure Decimal where
  /-- The digits, as a natural number. -/
  digits : Nat
  /-- The power of ten of the last digit. -/
  exponent : Int
  deriving DecidableEq, Repr, Inhabited

namespace Shortest

/-- The interval of reals that round to a number: the number and its ends over one denominator. -/
structure Interval where
  /-- Four times the number, over `unit`. -/
  centre : Nat
  /-- Four times the lower end. -/
  low : Nat
  /-- Four times the upper end. -/
  high : Nat
  /-- The denominator of all three. -/
  unit : Nat
  /-- Whether the ends round to the number as well. -/
  closed : Bool
  deriving Repr

/-- The interval around `m * 2 ^ e`. Below a power of two the numbers lie twice as close. -/
def interval (p : Precision) (m : Nat) (e : Int) : Interval :=
  let s := Nat.pow 2 e.toNat
  let tight := m = Nat.pow 2 (p.bits - 1) ∧ p.leastExponent < e
  { centre := 4 * m * s
    low := (4 * m - if tight then 1 else 2) * s
    high := (4 * m + 2) * s
    unit := 4 * Nat.pow 2 (-e).toNat
    closed := m % 2 = 0 }

/-- Whether `num / den` lies in the interval. -/
def Interval.contains (i : Interval) (num den : Nat) : Bool :=
  if i.closed then i.low * den ≤ num * i.unit ∧ num * i.unit ≤ i.high * den
  else i.low * den < num * i.unit ∧ num * i.unit < i.high * den

/-- The decimal on the grid of `10 ^ k` that stands for the interval's number, if one does. -/
def onGrid (i : Interval) (k : Int) : Option Nat :=
  let up := Nat.pow 10 k.toNat
  let down := Nat.pow 10 (-k).toNat
  let num := i.centre * down
  let den := i.unit * up
  let below := num / den
  let rest := num % den
  let lower := i.contains (below * up) down
  let upper := i.contains ((below + 1) * up) down
  match lower, upper with
  | true, true =>
    if 2 * rest < den then some below
    else if den < 2 * rest then some (below + 1)
    else if below % 2 = 0 then some below else some (below + 1)
  | true, false => some below
  | false, true => some (below + 1)
  | false, false => none

/-- The `k` with `10 ^ k ≤ num / den < 10 ^ (k + 1)`, searched downwards from `k + fuel`. -/
def floorLogTen (num den : Nat) : Nat → Int → Int
  | 0, k => k
  | fuel + 1, k =>
    let top := k + fuel + 1
    if den * Nat.pow 10 top.toNat ≤ num * Nat.pow 10 (-top).toNat then top
    else floorLogTen num den fuel k

/-- A power of ten that is at most `num / den`, and at least a thousandth of it. -/
def powerOfTen (num den : Nat) : Int :=
  let k := floorLog num den
  let guess : Int := Int.fdiv (k * 30103) 100000 - 1
  floorLogTen num den 3 guess

/-- The first grid, of `n` digits downwards, that has a decimal for the interval. -/
def search (i : Interval) (top : Int) : (fuel : Nat) → (n : Nat) → Decimal
  | 0, n => ⟨0, top - n⟩
  | fuel + 1, n =>
    match onGrid i (top - n) with
    | some d => ⟨d, top - n⟩
    | none => search i top fuel (n + 1)

/-- Takes trailing zeros off the digits. -/
def trimZeros : (fuel : Nat) → Decimal → Decimal
  | 0, d => d
  | fuel + 1, d =>
    if d.digits ≠ 0 ∧ d.digits % 10 = 0 then trimZeros fuel ⟨d.digits / 10, d.exponent + 1⟩ else d

/-- The shortest digits of a positive number `m * 2 ^ e`. -/
def digits (p : Precision) (m : Nat) (e : Int) : Decimal :=
  let i := interval p m e
  trimZeros 20 (search i (powerOfTen i.centre i.unit) 20 0)

end Shortest

end NodeTelemetry.Binary
