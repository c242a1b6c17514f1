import NodeTelemetry.Domain.Joining.Kinds
import NodeTelemetry.Text.Canonical.Basic

/-!
# Joiners in names

The joiner and the non-joiner show nothing by themselves. A label may have one only where it can
make a difference: after a virama, which it lets be seen or not, or, for the non-joiner, between two
letters that would join without it.
-/

namespace NodeTelemetry.Domain

/-- The non-joiner. -/
def nonJoiner : Char := '\u200c'

/-- The joiner. -/
def joiner : Char := '\u200d'

/-- Whether letters join across a character. -/
def joinsAcross (c : Char) : Bool := joinings.of c = 1

/-- Whether a letter joins what follows it. -/
def joinsNext (c : Char) : Bool := joinings.of c = 2 || joinings.of c = 4

/-- Whether a letter joins what comes before it. -/
def joinsPrevious (c : Char) : Bool := joinings.of c = 3 || joinings.of c = 4

/-- Whether a character is a virama. -/
def isVirama (c : Char) : Bool := Text.Canonical.combiningClass c = 9

/-- Whether a joiner or a non-joiner may stand between two texts; `before` has its latest character
first. -/
def mayJoin (c : Char) (before after : List Char) : Bool :=
  let meets (p : Char → Bool) (cs : List Char) : Bool :=
    (((cs.dropWhile joinsAcross).head?).map p).getD false
  ((before.head?).map isVirama).getD false ||
    c == nonJoiner && meets joinsNext before && meets joinsPrevious after

/-- Whether all joiners and non-joiners of a label may stand where they do; `before` is what comes
before it, the latest character first. -/
def joinersFit (before : List Char) : List Char → Bool
  | [] => true
  | c :: cs =>
    (!(c == nonJoiner || c == joiner) || mayJoin c before cs) && joinersFit (c :: before) cs

end NodeTelemetry.Domain
