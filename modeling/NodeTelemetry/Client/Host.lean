import NodeTelemetry.Domain.Name
import NodeTelemetry.Text.Escaped

/-!
# Hosts in addresses

The host of an address is a name or the number of an interface, in the forms of the URL standard.

* A text in brackets is a number of eight groups.
* A name whose last label is a number is a number of four parts, each written in decimal, octal or
  hexadecimal; the last part fills all bytes that are left.
* Any other text is the name of a host (`Domain.Name`). Its bytes may be escaped with `%`.
-/

namespace NodeTelemetry.Client

/-- Why a text is no address. -/
inductive AddressError where
  /-- It has no scheme. -/
  | relative
  /-- Its host is empty. -/
  | emptyHost
  /-- Its port is no number of a port. -/
  | badPort
  /-- Its host is no name. -/
  | badName
  /-- Its host is no number of four parts. -/
  | badFourParts
  /-- Its host is no number of eight groups. -/
  | badEightGroups
  /-- Its host has a character that no host can have. -/
  | badCharacter
  deriving DecidableEq, Repr

/-- The wording of an address's error. -/
def AddressError.message : AddressError → String
  | relative => "relative URL without a base"
  | emptyHost => "empty host"
  | badPort => "invalid port number"
  | badName => "invalid international domain name"
  | badFourParts => "invalid IPv4 address"
  | badEightGroups => "invalid IPv6 address"
  | badCharacter => "invalid domain character"

namespace Host

/-- Whether a text begins with the mark of hexadecimal. -/
def isHexMarked : List Char → Bool
  | '0' :: c :: _ => c == 'x' || c == 'X'
  | _ => false

/-- The number that digits of a base below 17 write. -/
def digits? (base : Nat) (cs : List Char) : Option Nat :=
  cs.foldlM (fun n c =>
    match Text.hexValue? c with
    | some d => if d < base then some (base * n + d) else none
    | none => none) 0

/-- The number that a part writes. -/
def part? (cs : List Char) : Option Nat :=
  if cs.isEmpty then none
  else if isHexMarked cs then digits? 16 (cs.drop 2)
  else if 1 < cs.length ∧ cs.head? = some '0' then digits? 8 (cs.drop 1)
  else digits? 10 cs

/-- The labels of a name, without an empty one at the end. -/
def labels (cs : List Char) : List (List Char) :=
  let ls := Text.splitOn (· == '.') cs
  if 1 < ls.length ∧ ls.getLast? = some [] then ls.dropLast else ls

/-- Whether the last label of a name is a number. -/
def endsInNumber (cs : List Char) : Bool :=
  match (labels cs).getLast? with
  | none | some [] => false
  | some l => l.all Char.isDigit || (part? l).isSome

/-- The number that four parts or fewer write. -/
def fourParts? (cs : List Char) : Option Nat := do
  let parts ← (labels cs).mapM part?
  let last ← parts.getLast?
  let firsts := parts.dropLast
  if 3 < firsts.length ∨ firsts.any (255 < ·) ∨ Nat.pow 256 (4 - firsts.length) ≤ last then none
  else
    let high := firsts.foldl (fun n p => 256 * n + p) 0
    some (high * Nat.pow 256 (4 - firsts.length) + last)

/-- A number of four parts as it is written. -/
def fourPartsText (n : Nat) : String :=
  ".".intercalate ([3, 2, 1, 0].map fun k => toString (n / Nat.pow 256 k % 256))

/-- Whether a text is one of the four decimal parts at the end of a number of eight groups. -/
def isPlainPart (cs : List Char) : Bool :=
  cs.all Char.isDigit && !cs.isEmpty && (cs.length == 1 || cs.head? != some '0') &&
    decide (cs.length ≤ 3) && decide (Text.ofDigits cs ≤ 255)

/-- How many groups a list of groups between colons has, if it is one. The last of them may be four
decimal parts, which count as two. -/
def groups? (decimalEnd : Bool) : List (List Char) → Option Nat
  | [] => some 0
  | g :: rest =>
    if !g.isEmpty && decide (g.length ≤ 4) && g.all (fun c => (Text.hexValue? c).isSome) then
      (groups? decimalEnd rest).map (· + 1)
    else
      let parts := Text.splitOn (· == '.') g
      if decimalEnd && rest.isEmpty && parts.length == 4 && parts.all isPlainPart then some 2
      else none

/-- The groups of a text between colons; an empty text has none. -/
def groups (cs : List Char) : List (List Char) :=
  if cs.isEmpty then [] else Text.splitOn (· == ':') cs

/-- The text before and after the first pair of colons. -/
def splitPair : List Char → Option (List Char × List Char)
  | ':' :: ':' :: rest => some ([], rest)
  | c :: rest => (splitPair rest).map fun p => (c :: p.1, p.2)
  | [] => none

/-- Whether a text is a number of eight groups; a pair of colons stands for groups of zeros. -/
def isEightGroups (cs : List Char) : Bool :=
  match splitPair cs with
  | none => groups? true (groups cs) == some 8
  | some (left, right) =>
    match groups? false (groups left), groups? true (groups right) with
    | some m, some n => decide (m + n ≤ 7)
    | _, _ => false

/-- Whether a character cannot be part of any host. -/
def isForbidden (c : Char) : Bool :=
  c == '\x00' || c == '\t' || c == '\n' || c == '\r' ||
    " #/:<>?@[\\]^|".toList.contains c

/-- Reads a host in brackets. -/
def readBracketed (cs : List Char) : Except AddressError String :=
  if cs.getLast? = some ']' ∧ isEightGroups ((cs.drop 1).dropLast) then
    .ok (Text.asciiLower (String.ofList cs))
  else .error .badEightGroups

/-- Reads the host of an address whose scheme has hosts of a known kind. -/
def read (cs : List Char) : Except AddressError String :=
  if cs.head? = some '[' then readBracketed cs
  else
    match (Utf8.text? (Text.unescaped cs)).bind (fun s => Domain.Name.read s.toList) with
    | none => .error .badName
    | some [] => .error .emptyHost
    | some name =>
      if endsInNumber name then
        match fourParts? name with
        | some n => .ok (fourPartsText n)
        | none => .error .badFourParts
      else .ok (String.ofList name)

/-- Reads the host of an address whose scheme is not known. -/
def readOpaque (cs : List Char) : Except AddressError String :=
  if cs.head? = some '[' then readBracketed cs
  else if cs.any isForbidden then .error .badCharacter
  else .ok (String.ofList cs)

end Host

end NodeTelemetry.Client
