/-!
# Properties of characters as change points

A property of characters is kept as the ascending list of the code points at which it changes: it
does not hold at first, and each change point turns it. So a character has the property exactly
when an odd number of change points are at most its code point. That number is found by halving.
-/

namespace NodeTelemetry.Text

/-- How many of the ascending numbers of an array are at most `bound`, if those before `lo` are and
those from `hi` on are not. Each step halves what is between. -/
def countUpTo (ns : Array Nat) (bound : Nat) : (fuel lo hi : Nat) → Nat
  | 0, lo, _ => lo
  | fuel + 1, lo, hi =>
    if hi ≤ lo then lo
    else
      let mid := (lo + hi) / 2
      if ns.getD mid 0 ≤ bound then countUpTo ns bound fuel (mid + 1) hi
      else countUpTo ns bound fuel lo mid

/-- A property of characters. -/
structure Property where
  /-- The code points at which the property changes, in ascending order. -/
  changes : Array Nat

/-- Whether a character has the property. -/
def Property.holds (p : Property) (c : Char) : Bool :=
  countUpTo p.changes c.toNat p.changes.size 0 p.changes.size % 2 = 1

end NodeTelemetry.Text
