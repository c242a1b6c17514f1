import NodeTelemetry.Domain.Direction.Kinds

/-!
# Names in two directions

Some scripts are written from right to left. A name with such a script stays readable only if no
label changes its look with the labels around it. So if any label of a name has a letter or a number
of such a script, each label must be of one direction, which its first character tells, and end
without being open to the other one.
-/

namespace NodeTelemetry.Domain

/-- The kind of a character in texts of both directions. -/
inductive Direction where
  /-- A letter written from left to right. -/
  | left
  /-- A letter written from right to left. -/
  | right
  /-- An Arabic letter. -/
  | arabic
  /-- A European digit. -/
  | digit
  /-- A sign between numbers. -/
  | separator
  /-- A sign at the end of a number. -/
  | terminator
  /-- An Arabic digit. -/
  | arabicDigit
  /-- A sign between digits of one number. -/
  | common
  /-- A mark on another character. -/
  | mark
  /-- A character that counts for nothing. -/
  | neutral
  /-- Any other sign. -/
  | other
  /-- White space and what sets directions. -/
  | control
  deriving DecidableEq, Repr

namespace Direction

/-- The kinds in the order of their numbers. -/
def all : List Direction :=
  [left, right, arabic, digit, separator, terminator, arabicDigit, common, mark, neutral, other,
    control]

/-- The kind of a character. -/
def of (c : Char) : Direction := all.getD (directions.of c) control

/-- Whether a character makes a name one of both directions. -/
def turns : Direction → Bool
  | right | arabic | arabicDigit => true
  | _ => false

/-- Whether a character can be in labels of both directions, apart from digits. -/
def isCommon : Direction → Bool
  | digit | separator | common | terminator | other | neutral | mark => true
  | _ => false

/-- The last character of a label that is no mark. -/
def lastBase? (ds : List Direction) : Option Direction := ds.reverse.find? (· != mark)

/-- Whether the characters of a label may follow a first one written from left to right. -/
def fitsLeft (ds : List Direction) : Bool :=
  ds.all (fun d => d == left || isCommon d) &&
    (lastBase? ds == some left || lastBase? ds == some digit)

/-- Whether the characters of a label may follow a first one written from right to left. -/
def fitsRight (ds : List Direction) : Bool :=
  ds.all (fun d => turns d || isCommon d) &&
    ((lastBase? ds).map (fun d => turns d || d == digit)).getD false &&
    !(ds.contains digit && ds.contains arabicDigit)

/-- Whether a label is of one direction. -/
def fits (ds : List Direction) : Bool :=
  match ds with
  | [] => true
  | left :: _ => fitsLeft ds
  | right :: _ | arabic :: _ => fitsRight ds
  | _ => false

end Direction

/-- Whether the labels of a name keep their looks. -/
def directionsFit (labels : List (List Char)) : Bool :=
  let kinds := labels.map (·.map Direction.of)
  !kinds.any (·.any Direction.turns) || kinds.all Direction.fits

end NodeTelemetry.Domain
