import NodeTelemetry.Binary.Shortest
import NodeTelemetry.Text.Digits

/-!
# Written forms of binary numbers

Two ways to write a number: its shortest digits under a `Layout`, which says when an exponent is
written and how, and a fixed number of places after the point, rounded from the exact value.
-/

namespace NodeTelemetry.Binary

open Text

/-- How shortest digits are laid out. -/
structure Layout where
  /-- The least power of ten of a first digit that is written without an exponent, if any. -/
  leastPlain : Option Int
  /-- The greatest such power, if any. -/
  greatestPlain : Option Int
  /-- Whether a whole number written without exponent ends in `.0`. -/
  point : Bool
  /-- Whether a positive exponent carries a `+`. -/
  plus : Bool
  deriving Repr

/-- The text of shortest digits. -/
def Layout.decimal (l : Layout) (d : Decimal) : List Char :=
  let ds := Text.decimal d.digits
  let top : Int := ds.length - 1 + d.exponent
  let small := match l.leastPlain with | some k => decide (top < k) | none => false
  let large := match l.greatestPlain with | some k => decide (k < top) | none => false
  if small || large then
    let mantissa := match ds with
      | c :: rest@(_ :: _) => c :: '.' :: rest
      | _ => ds
    let sign := if top < 0 then ['-'] else if l.plus then ['+'] else []
    mantissa ++ 'e' :: sign ++ Text.decimal top.natAbs
  else if 0 ≤ d.exponent then
    ds ++ List.replicate d.exponent.toNat '0' ++ (if l.point then ['.', '0'] else [])
  else if 0 ≤ top then
    ds.take (top.toNat + 1) ++ '.' :: ds.drop (top.toNat + 1)
  else '0' :: '.' :: List.replicate (-top - 1).toNat '0' ++ ds

/-- The text of a number under a layout. -/
def Layout.render (l : Layout) (p : Precision) : Binary → List Char
  | nan => "NaN".toList
  | infinite s => (if s then ['-'] else []) ++ "inf".toList
  | finite s m e =>
    let d : Decimal := if m = 0 then ⟨0, 0⟩ else Shortest.digits p m e
    (if s then ['-'] else []) ++ l.decimal d

/-- Every number without an exponent and whole numbers without a point. -/
def plain : Layout := ⟨none, none, false, false⟩

/-- The digits of a number with exactly `places` after the point, rounded from the exact value, a
tie going to the even last digit. -/
def fixed (places : Nat) : Binary → List Char
  | nan => "NaN".toList
  | infinite s => (if s then ['-'] else []) ++ "inf".toList
  | finite s m e =>
    let (a, b) := fraction m e
    let n := roundQuotient (a * Nat.pow 10 places) b
    let whole := Text.decimal (n / Nat.pow 10 places)
    let part := padded places (n % Nat.pow 10 places)
    (if s then ['-'] else []) ++ whole ++ (if places = 0 then [] else '.' :: part)

end NodeTelemetry.Binary
