/-!
# Characters by number

Sets of two bytes number their characters, with gaps. An index is written as rows of characters,
each with the number of its first one.
-/

namespace NodeTelemetry.Text.Charset

/-- The mark of a number without a character. -/
def gap : Char := '\ufffd'

/-- Characters by number. -/
structure Index where
  /-- The characters, gaps being marked. -/
  chars : Array Char

namespace Index

/-- Appends a row to the characters before it. -/
def append (chars : Array Char) (row : Nat × String) : Array Char :=
  chars ++ Array.replicate (row.1 - chars.size) gap ++ row.2.toList

/-- Reads an index from its rows. -/
def ofRows (rows : List (Nat × String)) : Index := ⟨rows.foldl append #[]⟩

/-- The character of a number, if it has one. -/
def char? (i : Index) (n : Nat) : Option Char :=
  match i.chars[n]? with
  | some c => if c = gap then none else some c
  | none => none

end Index

end NodeTelemetry.Text.Charset
