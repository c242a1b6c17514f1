import NodeTelemetry.Text.Property

/-!
# Classes of characters

A classification gives every character a number below 256, its class. It is kept as the ascending
list of the code points at which the class changes, each multiplied by 256 and increased by the
class that holds from there on.
-/

namespace NodeTelemetry.Text

/-- A classification of characters. -/
structure Classes where
  /-- The changes, in ascending order. -/
  changes : Array Nat

/-- The class of a character; before the first change it is 0. -/
def Classes.of (t : Classes) (c : Char) : Nat :=
  let i := countUpTo t.changes (c.toNat * 256 + 255) t.changes.size 0 t.changes.size
  if i = 0 then 0 else t.changes.getD (i - 1) 0 % 256

end NodeTelemetry.Text
