import NodeTelemetry.Domain.Mapping.Images
import NodeTelemetry.Domain.Mapping.Standing
import NodeTelemetry.Text.Canonical.Basic

/-!
# Names as they are meant

The same name can be written in many ways: in capital letters, in other forms of letters, in
characters with or without marks of their own. Before anything else a name is brought into one form:
characters give way to their images, those that leave no trace vanish, and the text is composed. A
name with a character that cannot be in a name is refused.
-/

namespace NodeTelemetry.Domain

/-- How a character stands to names. -/
inductive Standing where
  /-- It can be in a name. -/
  | valid
  /-- It leaves no trace in a name. -/
  | ignored
  /-- It cannot be in a name. -/
  | refused
  /-- Others stand in a name in its place. -/
  | replaced (image : List Char)
  deriving DecidableEq, Repr

/-- The standing of a character. -/
def Standing.of (c : Char) : Standing :=
  match images.image? c with
  | some image => .replaced image
  | none =>
    match standings.of c with
    | 0 => .valid
    | 1 => .ignored
    | _ => .refused

/-- What a name has in place of a character, if it can have it. -/
def Standing.apply (c : Char) : Standing → Option (List Char)
  | .valid => some [c]
  | .ignored => some []
  | .refused => none
  | .replaced image => some image

/-- A name in the form in which it is meant. -/
def mapped (cs : List Char) : Option (List Char) :=
  (cs.mapM fun c => (Standing.of c).apply c).map fun images =>
    Text.Canonical.normalize images.flatten

/-- Whether a text already has that form. -/
def isMapped (cs : List Char) : Bool :=
  cs.all (fun c => Standing.of c == .valid) && Text.Canonical.normalize cs == cs

end NodeTelemetry.Domain
