import NodeTelemetry.Binary.Basic
import NodeTelemetry.Keyed

/-!
# JSON values

A number keeps the kind it was written in: an integer, or a binary number of 64 bits. The members
of an object are a keyed collection, so an object is the same however its members were ordered.
-/

namespace NodeTelemetry

/-- A JSON value. -/
inductive Json where
  /-- `null`. -/
  | null
  /-- A truth value. -/
  | bool (b : Bool)
  /-- An integer, from `-2 ^ 63` to `2 ^ 64 - 1`. -/
  | int (i : Int)
  /-- Any other number. -/
  | real (x : Binary)
  /-- A string. -/
  | str (s : String)
  /-- An array. -/
  | arr (items : List Json)
  /-- An object. -/
  | obj (members : List (String × Json))
  deriving Inhabited, Repr

namespace Json

/-- The members of an object. -/
def members? : Json → Option (Keyed Json)
  | obj ms => some ms
  | _ => none

/-- A member of an object; other values have none. -/
def get? (name : String) (v : Json) : Option Json := v.members?.bind (Keyed.find? name)

/-- The object of the given members; of several with one name the last one stands. -/
def ofMembers (members : List (String × Json)) : Json := obj (Keyed.ofList members)

end Json

end NodeTelemetry
