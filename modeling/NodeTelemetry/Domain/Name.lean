import NodeTelemetry.Domain.Direction.Basic
import NodeTelemetry.Domain.Joining.Basic
import NodeTelemetry.Domain.Mapping.Basic
import NodeTelemetry.Domain.Punycode
import NodeTelemetry.Text.Property.Mark

/-!
# Names of hosts

The name of a host is a row of labels with points between them. It may have characters of all
scripts, under the rules for internationalized names:

* The name is brought into the form in which it is meant (`mapped`).
* A label that begins with `xn--` stands for the one that the rest of it writes in basic characters;
  that one must have the meant form already and could not have been written otherwise.
* No label begins with a mark, joiners stand only where they make a difference (`joinersFit`), and
  labels of both directions go together (`directionsFit`).
* Some basic characters are left to other parts of an address.

A name is kept with its labels in their own scripts.
-/

namespace NodeTelemetry.Domain

/-- What a label in basic characters begins with that stands for another one. -/
def encodedStart : List Char := ['x', 'n', '-', '-']

/-- The most characters that such a label has after its start. -/
def maxEncoded : Nat := 2000

/-- The most characters of a label that has to be written in basic ones. -/
def maxUnencoded : Nat := 1000

/-- Whether a character is basic. -/
def isBasic (c : Char) : Bool := c.toNat < 0x80

/-- The label that a written label stands for, if it stands for one. -/
def decodeLabel (label : List Char) : Option (List Char) :=
  if label.take encodedStart.length ≠ encodedStart then some label
  else
    let rest := label.drop encodedStart.length
    if !rest.all isBasic || maxEncoded < rest.length then none
    else
      match Punycode.decode rest with
      | none => none
      | some decoded => if decoded.all isBasic || !isMapped decoded then none else some decoded

/-- Whether a character is left to other parts of an address. -/
def isReserved (c : Char) : Bool :=
  c.toNat ≤ 0x20 || c.toNat = 0x7F || "%#/:<>?@[\\]^|".toList.contains c

/-- Whether a label can be part of a name. -/
def isLabel (label : List Char) : Bool :=
  !((label.head?).map Text.Property.mark.holds).getD false &&
    joinersFit [] label && !label.any isReserved &&
    (label.all isBasic || decide (label.length ≤ maxUnencoded))

/-- Reads a name: the form in which it is kept. -/
def Name.read (cs : List Char) : Option (List Char) := do
  let written ← mapped cs
  let labels ← (Text.splitOn (· == '.') written).mapM decodeLabel
  if labels.all isLabel && directionsFit labels then some (List.intercalate ['.'] labels) else none

end NodeTelemetry.Domain
