import NodeTelemetry.Text.Blank
import NodeTelemetry.Text.Digits
import NodeTelemetry.Text.Property

/-!
# Tables of characters

A table gives some characters an *image*, a list of characters. It is written as lines of entries
with blanks between them. An entry such as `C0:41+300` gives the character `C0` the image `41 300`;
an entry such as `100-12E/2:101` gives every second character from `100` to `12E` the character
after it. Numbers are hexadecimal.

The entries are written in ascending order and do not overlap, so the one for a character is found
by halving.
-/

namespace NodeTelemetry.Text

/-- The number that hexadecimal digits write. -/
def hexNumber (cs : List Char) : Nat := cs.foldl (fun n c => 16 * n + (hexValue? c).getD 0) 0

/-- An entry of a table. -/
structure CharTable.Entry where
  /-- The first character. -/
  first : Nat
  /-- The last character. -/
  last : Nat
  /-- The distance from one character to the next. -/
  step : Nat
  /-- The image of the first character. That of a later one begins as much later. -/
  image : List Nat
  deriving Repr

/-- Characters with images. -/
structure CharTable where
  /-- The first characters of the entries, in ascending order. -/
  firsts : Array Nat
  /-- The entries. -/
  entries : Array CharTable.Entry

namespace CharTable

/-- Reads the characters of an entry, before its colon. -/
def Entry.ofRange (cs : List Char) (image : List Nat) : Entry :=
  match splitOnce '-' cs with
  | none => ⟨hexNumber cs, hexNumber cs, 1, image⟩
  | some (first, rest) =>
    match splitOnce '/' rest with
    | none => ⟨hexNumber first, hexNumber rest, 1, image⟩
    | some (last, step) => ⟨hexNumber first, hexNumber last, hexNumber step, image⟩

/-- Reads an entry. -/
def Entry.read (cs : List Char) : Entry :=
  match splitOnce ':' cs with
  | none => .ofRange cs []
  | some (range, image) => .ofRange range ((splitOn (· == '+') image).map hexNumber)

/-- Reads a table from its lines. -/
def ofLines (ls : List String) : CharTable :=
  let entries := (ls.flatMap fun l => (words l.toList).map Entry.read).toArray
  ⟨entries.map (·.first), entries⟩

/-- The image of a character in an entry, if the entry is for it. -/
def Entry.image? (e : Entry) (n : Nat) : Option (List Char) :=
  if e.first ≤ n ∧ n ≤ e.last ∧ (n - e.first) % e.step = 0 then
    match e.image with
    | [] => some []
    | head :: tail => some (((head + (n - e.first)) :: tail).map Char.ofNat)
  else none

/-- The image of a character, if it has one. -/
def image? (t : CharTable) (c : Char) : Option (List Char) :=
  let i := countUpTo t.firsts c.toNat t.firsts.size 0 t.firsts.size
  if i = 0 then none else (t.entries[i - 1]?).bind (·.image? c.toNat)

/-- The characters with images, each with its image. -/
def toList (t : CharTable) : List (Char × List Char) :=
  t.entries.toList.flatMap fun e =>
    (List.range ((e.last - e.first) / e.step + 1)).filterMap fun k =>
      let n := e.first + k * e.step
      (e.image? n).map fun image => (Char.ofNat n, image)

end CharTable

end NodeTelemetry.Text
