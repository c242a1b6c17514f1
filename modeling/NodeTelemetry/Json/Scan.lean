import NodeTelemetry.Json.Fault

/-!
# Words, numbers and strings of JSON texts

A reader takes the rest of a text and gives what it read and what is left. Those here read what
has no parts.

## Numbers

Digits go into a significand of 64 bits while they fit. Before the point each further digit counts
as a power of ten, after it further digits are dropped. The significand is then rounded to a binary
number, scaled by one power of ten and rounded again, so the result can be one unit off the nearest
number. An exponent beyond `308` is taken in steps.
-/

namespace NodeTelemetry.Json

open Text

/-- A reader of a part of a text. -/
abbrev Reader (α : Type) := List Glyph → Except Fault (α × List Glyph)

namespace Reader

/-- Whether a glyph is white space between the parts of a text. -/
def isBlank : Glyph → Bool
  | .scalar c => c == ' ' || c == '\n' || c == '\t' || c == '\r'
  | .broken _ => false

/-- Drops white space. -/
def skipBlanks (gs : List Glyph) : List Glyph := gs.dropWhile isBlank

/-- Reads the rest of a word. -/
def word : List Char → Reader Unit
  | [], gs => .ok ((), gs)
  | _ :: _, [] => .error ⟨.eofValue, 0⟩
  | c :: cs, g :: gs =>
    if g = .scalar c then word cs gs else .error (faultIn (g :: gs) .expectedIdent)

/-! ### Numbers -/

/-- The value of a digit. -/
def digit? : Glyph → Option Nat
  | .scalar c => if c.isDigit then some (digitValue c) else none
  | .broken _ => none

/-- Whether a text starts with a digit. -/
def startsWithDigit : List Glyph → Bool
  | [] => false
  | g :: _ => (digit? g).isSome

/-- Takes digits into a significand while they fit: the significand, how many were taken, and the
rest. -/
def significand (n taken : Nat) : List Glyph → Nat × Nat × List Glyph
  | [] => (n, taken, [])
  | g :: gs =>
    match digit? g with
    | none => (n, taken, g :: gs)
    | some d => if maxWord < n * 10 + d then (n, taken, g :: gs) else
      significand (n * 10 + d) (taken + 1) gs

/-- Skips digits and counts them. -/
def skipDigits (skipped : Nat) : List Glyph → Nat × List Glyph
  | [] => (skipped, [])
  | g :: gs => if (digit? g).isSome then skipDigits (skipped + 1) gs else (skipped, g :: gs)

/-- The largest exponent. -/
def maxExponent : Nat := 2147483647

/-- Takes the digits of an exponent: the exponent, or nothing as soon as it is too large, and the
rest. -/
def exponentDigits (n : Nat) : List Glyph → Option Nat × List Glyph
  | [] => (some n, [])
  | g :: gs =>
    match digit? g with
    | none => (some n, g :: gs)
    | some d => if maxExponent < n * 10 + d then (none, gs) else exponentDigits (n * 10 + d) gs

/-- A power of ten as a binary number. -/
def powerOfTen (k : Nat) : Binary := Binary.ofNat .double (Nat.pow 10 k)

/-- A binary number times a power of ten, if that is not too large. -/
def scale (x : Binary) (exponent : Int) : (fuel : Nat) → Option Binary
  | 0 => some x
  | fuel + 1 =>
    if exponent.natAbs ≤ 308 then
      if 0 ≤ exponent then
        let y := x.mul .double (powerOfTen exponent.toNat)
        if y.isFinite then some y else none
      else some (x.div .double (powerOfTen exponent.natAbs))
    else if x.isZero then some x
    else if 0 ≤ exponent then none
    else scale (x.div .double (powerOfTen 308)) (exponent + 308) fuel

/-- The binary number of a significand and an exponent. Three steps reach zero. -/
def ofParts (negative : Bool) (n : Nat) (exponent : Int) : Option Binary :=
  (scale (Binary.ofNat .double n) exponent 4).map (fun x => if negative then x.neg else x)

/-- Gives the number of a significand and an exponent, at the rest of the text. -/
def finishReal (negative : Bool) (n : Nat) (exponent : Int) : Reader Json := fun gs =>
  match ofParts negative n exponent with
  | some x => .ok (.real x, gs)
  | none => .error (faultAt gs .numberOutOfRange)

/-- An integer held within 32 bits. -/
def clamp (i : Int) : Int := max (-(maxExponent + 1)) (min maxExponent i)

/-- Reads an exponent, after its `e`. -/
def exponentPart (negative : Bool) (n : Nat) (before : Int) : Reader Json := fun gs =>
  let (down, gs) := match gs with
    | .scalar '+' :: rest => (false, rest)
    | .scalar '-' :: rest => (true, rest)
    | _ => (false, gs)
  match gs with
  | [] => .error ⟨.eofValue, 0⟩
  | _ :: _ =>
    if startsWithDigit gs then
      match exponentDigits 0 gs with
      | (some k, rest) =>
        finishReal negative n (clamp (if down then before - k else before + k)) rest
      | (none, rest) =>
        if n ≠ 0 ∧ !down then .error (faultAt rest .numberOutOfRange)
        else .ok (.real (Binary.zero negative), (skipDigits 0 rest).2)
    else .error (faultIn gs .invalidNumber)

/-- Whether a text goes on with an exponent. -/
def exponent? : List Glyph → Option (List Glyph)
  | .scalar 'e' :: rest => some rest
  | .scalar 'E' :: rest => some rest
  | _ => none

/-- Reads the digits after a point, and an exponent after them. -/
def fractionPart (negative : Bool) (n : Nat) (before : Int) : Reader Json := fun gs =>
  if startsWithDigit gs then
    let (m, taken, rest) := significand n 0 gs
    let rest := (skipDigits 0 rest).2
    match exponent? rest with
    | some rest => exponentPart negative m (before - taken) rest
    | none => finishReal negative m (before - taken) rest
  else
    match gs with
    | [] => .error ⟨.eofValue, 0⟩
    | _ => .error (faultIn gs .invalidNumber)

/-- The number of an integer's digits: a real one for minus zero and below `-2 ^ 63`. -/
def ofDigits (negative : Bool) (n : Nat) : Json :=
  if negative then
    if 1 ≤ n ∧ n ≤ maxInteger + 1 then .int (-n) else .real (Binary.ofNat .double n).neg
  else .int n

/-- Reads what follows the integer digits of a number. -/
def afterInteger (negative : Bool) (n : Nat) (dropped : Nat) : Reader Json := fun gs =>
  match gs with
  | .scalar '.' :: rest => fractionPart negative n dropped rest
  | _ =>
    match exponent? gs with
    | some rest => exponentPart negative n dropped rest
    | none =>
      if dropped = 0 then .ok (ofDigits negative n, gs) else finishReal negative n dropped gs

/-- Reads a number after its sign. -/
def unsignedNumber (negative : Bool) : Reader Json := fun gs =>
  match gs with
  | [] => .error ⟨.eofValue, 0⟩
  | g :: rest =>
    match digit? g with
    | none => .error (faultIn gs .invalidNumber)
    | some 0 =>
      if startsWithDigit rest then .error (faultIn rest .invalidNumber)
      else afterInteger negative 0 0 rest
    | some _ =>
      let (n, _, rest) := significand 0 0 gs
      let (dropped, rest) := skipDigits 0 rest
      afterInteger negative n dropped rest

/-- Reads a number, which a digit or a `-` begins. -/
def number : Reader Json := fun gs =>
  match gs with
  | .scalar '-' :: rest => unsignedNumber true rest
  | _ => unsignedNumber false gs

/-! ### Strings -/

/-- The value of a hexadecimal digit. -/
def hexDigit? : Glyph → Option Nat
  | .scalar c => hexValue? c
  | .broken _ => none

/-- Reads four hexadecimal digits. -/
def hexFour : Reader Nat := fun gs =>
  let whole := Glyph.totalSize (gs.take 4)
  if whole < 4 then .error ⟨.eofString, 0⟩
  else
    match gs with
    | a :: b :: c :: d :: rest =>
      match hexDigit? a, hexDigit? b, hexDigit? c, hexDigit? d with
      | some a, some b, some c, some d => .ok (((a * 16 + b) * 16 + c) * 16 + d, rest)
      | _, _, _, _ => .error ⟨.invalidEscape, Glyph.totalSize gs - 4⟩
    | _ => .error ⟨.invalidEscape, Glyph.totalSize gs - 4⟩

/-- Reads one character that must follow a leading surrogate. -/
def partner (c : Char) : Reader Unit := fun gs =>
  match gs with
  | [] => .error ⟨.eofString, 0⟩
  | g :: rest =>
    if g = .scalar c then .ok ((), rest) else .error (faultIn gs .unexpectedEndOfHexEscape)

/-- Reads a code point, after its `u`: one escape, or two for a pair of surrogates. -/
def codePoint : Reader Char := fun gs => do
  let (n, gs) ← hexFour gs
  if 0xDC00 ≤ n ∧ n ≤ 0xDFFF then throw (faultAt gs .loneSurrogate)
  if n < 0xD800 ∨ 0xDBFF < n then return (Char.ofNat n, gs)
  let ((), gs) ← partner '\\' gs
  let ((), gs) ← partner 'u' gs
  let (m, gs) ← hexFour gs
  if m < 0xDC00 ∨ 0xDFFF < m then throw (faultAt gs .loneSurrogate)
  return (Char.ofNat ((n - 0xD800) * 0x400 + (m - 0xDC00) + 0x10000), gs)

/-- The character of an escape of one letter. -/
def shortEscape? : Char → Option Char
  | '"' => some '"'
  | '\\' => some '\\'
  | '/' => some '/'
  | 'b' => some '\x08'
  | 'f' => some '\x0c'
  | 'n' => some '\n'
  | 'r' => some '\r'
  | 't' => some '\t'
  | _ => none

/-- Reads an escape, after its backslash. -/
def escape : Reader Char := fun gs =>
  match gs with
  | [] => .error ⟨.eofString, 0⟩
  | .scalar 'u' :: rest => codePoint rest
  | .scalar c :: rest =>
    match shortEscape? c with
    | some d => .ok (d, rest)
    | none => .error (faultIn gs .invalidEscape)
  | _ => .error (faultIn gs .invalidEscape)

/-- Counts a character as part of what follows the first broken bytes of a string; `spoilt` is zero
as long as there were none. -/
def spoiltBy (spoilt : Nat) (c : Char) : Nat := if spoilt = 0 then 0 else spoilt + c.utf8Size

/-- Reads the rest of a string. `acc` holds the characters so far, the latest first. `spoilt` counts
the bytes of the string's text from the first broken ones on: a string with such bytes is refused at
its end, at a place that lies so many bytes before it. -/
def stringRest : (fuel : Nat) → (acc : List Char) → (spoilt : Nat) → Reader String
  | 0, _, _, gs => .error (faultAt gs .eofString)
  | fuel + 1, acc, spoilt, gs =>
    match gs with
    | [] => .error ⟨.eofString, 0⟩
    | .broken bs :: rest => stringRest fuel acc (spoilt + bs.length) rest
    | .scalar '"' :: rest =>
      if spoilt = 0 then .ok (String.ofList acc.reverse, rest)
      else .error ⟨.invalidUnicode, Glyph.totalSize rest + spoilt⟩
    | .scalar '\\' :: rest =>
      match escape rest with
      | .ok (c, rest) => stringRest fuel (c :: acc) (spoiltBy spoilt c) rest
      | .error e => .error e
    | .scalar c :: rest =>
      if c.toNat < 0x20 then .error (faultIn gs .controlCharacter)
      else stringRest fuel (c :: acc) (spoiltBy spoilt c) rest

/-- Reads a string, after its opening quote. -/
def string (fuel : Nat) : Reader String := stringRest fuel [] 0

end Reader

end NodeTelemetry.Json
