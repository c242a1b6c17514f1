/-!
# White space, words and lines

White space here is the Unicode property `White_Space`. A word is a longest run of other
characters, a line ends at a line feed and does not count one carriage return before it.
-/

namespace NodeTelemetry.Text

/-- Whether a character has the property `White_Space`. -/
def isBlank (c : Char) : Bool :=
  let n := c.toNat
  (0x09 ≤ n && n ≤ 0x0D) || n == 0x20 || n == 0x85 || n == 0xA0 || n == 0x1680 ||
    (0x2000 ≤ n && n ≤ 0x200A) || n == 0x2028 || n == 0x2029 || n == 0x202F || n == 0x205F ||
    n == 0x3000

/-- Drops the white space at the start of a text. -/
def trimStart (cs : List Char) : List Char := cs.dropWhile isBlank

/-- Drops the white space at the end of a text. -/
def trimEnd (cs : List Char) : List Char := (cs.reverse.dropWhile isBlank).reverse

/-- Drops the white space around a text. -/
def trim (cs : List Char) : List Char := trimEnd (trimStart cs)

/-- The pieces of a text between the characters that `p` marks: one more than there are marks. -/
def splitOn (p : Char → Bool) (cs : List Char) : List (List Char) :=
  let pieces := cs.foldl
    (fun (acc : List (List Char) × List Char) c =>
      if p c then (acc.2.reverse :: acc.1, []) else (acc.1, c :: acc.2)) ([], [])
  (pieces.2.reverse :: pieces.1).reverse

/-- The words of a text. -/
def words (cs : List Char) : List (List Char) := (splitOn isBlank cs).filter (!·.isEmpty)

/-- Drops one carriage return at the end of a line. -/
def dropReturn (line : List Char) : List Char :=
  if line.getLast? = some '\r' then line.dropLast else line

/-- The lines of a text. A line feed at the very end begins no further line. -/
def lines (cs : List Char) : List (List Char) :=
  let pieces := splitOn (· == '\n') cs
  let terminated := pieces.dropLast.map dropReturn
  match pieces.getLast? with
  | none | some [] => terminated
  | some rest => terminated ++ [rest]

/-- The part of a text before and after its first separator. -/
def splitOnce (sep : Char) (cs : List Char) : Option (List Char × List Char) :=
  match cs.dropWhile (· != sep) with
  | [] => none
  | _ :: rest => some (cs.takeWhile (· != sep), rest)

/-- The text in lower case, letters outside the basic Latin range unchanged. -/
def asciiLower (s : String) : String := String.ofList (s.toList.map Char.toLower)

end NodeTelemetry.Text
