import NodeTelemetry.Text.Property.EmojiPresentation
import NodeTelemetry.Text.Property.ToneBase
import NodeTelemetry.Text.Property.Transparent
import NodeTelemetry.Text.Property.Wide
import NodeTelemetry.Text.Property.ZeroWidth

/-!
# Characters that share their columns

Some characters take other columns next to one another than alone: letters that form a ligature, two
letters that make a flag, the parts of an emoji. Texts are measured from their end, so a character
only has to know what comes after it: the *role* of the next character is what that offers to the
characters before it (`Role`). `Role.alone` is the width and the role of a character that takes no
offer, `Role.combine` those of one that does.
-/

namespace NodeTelemetry.Text

/-- What a character, together with those after it, offers to the ones before it. -/
inductive Role where
  /-- Nothing. -/
  | plain
  /-- An Arabic alef, to a lam. -/
  | alef
  /-- A Hebrew lamed, to an alef. -/
  | lamed
  /-- A Buginese ya, to a vowel sign. -/
  | ya
  /-- A Buginese vowel sign before a ya, to a letter a. -/
  | vowelBeforeYa
  /-- A Tifinagh consonant, to another one or to their joiner. -/
  | consonant
  /-- A joiner before a Tifinagh consonant, to another one. -/
  | consonantJoiner
  /-- A Lisu tone letter that comes second. -/
  | tone
  /-- An Old Turkic letter i, to a letter before it. -/
  | orkhonI
  /-- A Khmer letter that can be written below another one. -/
  | khmer
  /-- An emoji. -/
  | emoji
  /-- A skin tone, to an emoji. -/
  | skin
  /-- A regional indicator. -/
  | region
  /-- Several regional indicators. -/
  | regions
  /-- A joiner before an emoji. -/
  | joinedEmoji
  /-- The mark of a key cap before a joiner and an emoji. -/
  | joinedKeycap
  /-- A regional indicator before a joiner and an emoji. -/
  | joinedRegion
  /-- An even number of them. -/
  | joinedEven
  /-- An odd number of them, three or more. -/
  | joinedOdd
  /-- The end of a flag's tag before a joiner and an emoji. -/
  | tagEnd
  /-- So many letters of the tag, with its end. -/
  | tagLetters (n : Nat)
  /-- So many digits of the tag, with what comes after them. -/
  | tagDigits (n : Nat)
  deriving DecidableEq, Repr

namespace Role

/-- Whether a letter can form a ligature across characters that are not drawn. -/
def reachesBack : Role → Bool
  | lamed | ya | consonant | tone | orkhonI | khmer => true
  | _ => false

/-- The joiner of characters. -/
def joiner : Char := '\u200d'

/-- Whether letters form ligatures across a character. -/
def isSkipped (c : Char) : Bool :=
  let n := c.toNat
  n == 0x34F || n == 0x17B4 || n == 0x17B5 || (0x180B ≤ n && n ≤ 0x180D) || n == 0x180F ||
    n == 0x200D || (0xFE00 ≤ n && n ≤ 0xFE0F) || (0xE0100 ≤ n && n ≤ 0xE01EF)

/-- Whether a character is an Arabic lam. -/
def isLam (n : Nat) : Bool :=
  n == 0x644 || (0x6B5 ≤ n && n ≤ 0x6B8) || n == 0x76A || n == 0x8A6 || n == 0x8C7

/-- Whether a character is an Arabic alef. -/
def isAlef (n : Nat) : Bool :=
  n == 0x622 || n == 0x623 || n == 0x625 || n == 0x627 || (0x671 ≤ n && n ≤ 0x673) || n == 0x675 ||
    n == 0x773 || n == 0x774 || (0x870 ≤ n && n ≤ 0x882)

/-- Whether a character is a Tifinagh consonant. -/
def isConsonant (n : Nat) : Bool := (0x2D31 ≤ n && n ≤ 0x2D65) || n == 0x2D6F

/-- Whether a character is a Khmer letter that can be written below another one. -/
def isKhmer (n : Nat) : Bool :=
  (0x1780 ≤ n && n ≤ 0x1782) || (0x1784 ≤ n && n ≤ 0x1787) || (0x1789 ≤ n && n ≤ 0x178C) ||
    (0x178E ≤ n && n ≤ 0x1793) || (0x1795 ≤ n && n ≤ 0x1798) || (0x179B ≤ n && n ≤ 0x179D) ||
    n == 0x17A0 || n == 0x17A2 || n == 0x17A7 || n == 0x17AB || n == 0x17AC || n == 0x17AF

/-- Whether a character is a regional indicator. -/
def isRegion (n : Nat) : Bool := 0x1F1E6 ≤ n && n ≤ 0x1F1FF

/-- Whether a character is a skin tone. -/
def isSkin (n : Nat) : Bool := 0x1F3FB ≤ n && n ≤ 0x1F3FF

/-- Whether a character is a letter of a tag. -/
def isTagLetter (n : Nat) : Bool := 0xE0061 ≤ n && n ≤ 0xE007A

/-- Whether a character is a digit of a tag. -/
def isTagDigit (n : Nat) : Bool := 0xE0030 ≤ n && n ≤ 0xE0039

/-- The width of a character alone, past the first Latin ones. -/
def width (c : Char) : Nat :=
  if c.toNat = 0x17D8 then 3
  else if c.toNat = 0x17A4 then 2
  else if Property.zeroWidth.holds c then 0
  else if Property.wide.holds c then 2
  else 1

/-- The role of a character alone, past the first Latin ones. -/
def of (c : Char) : Role :=
  let n := c.toNat
  if isAlef n then alef
  else if n = 0x5DC then lamed
  else if n = 0x1A10 then ya
  else if isConsonant n then consonant
  else if n = 0xA4FC ∨ n = 0xA4FD then tone
  else if n = 0x10C03 then orkhonI
  else if isKhmer n then khmer
  else if isRegion n then region
  else if isSkin n then skin
  else if Property.emojiPresentation.holds c then emoji
  else plain

/-- The columns that a character adds alone, and its role. A regional indicator is half a flag. -/
def alone (c : Char) : Int × Role := (if isRegion c.toNat then 1 else width c, of c)

/-- The columns that a character adds, and its role, if it takes what the characters after it offer.
`joined` says that a joiner stands between them. -/
def combine (role : Role) (joined : Bool) (c : Char) : Option (Int × Role) :=
  let n := c.toNat
  match role with
  | plain => none
  | alef =>
    if isLam n then some (0, plain)
    else if width c = 0 ∧ Property.transparent.holds c then some (0, alef)
    else none
  | lamed => if joined ∧ n = 0x5D0 then some (0, plain) else none
  | ya => if joined ∧ n = 0x1A17 then some (0, vowelBeforeYa) else none
  | vowelBeforeYa => if n = 0x1A15 then some (0, plain) else none
  | consonant =>
    if n = 0x2D7F then some (1, consonantJoiner)
    else if joined ∧ isConsonant n then some (0, plain)
    else none
  | consonantJoiner => if isConsonant n then some (-1, plain) else none
  | tone => if !joined ∧ 0xA4F8 ≤ n ∧ n ≤ 0xA4FB then some (0, plain) else none
  | orkhonI => if joined ∧ n = 0x10C32 then some (0, plain) else none
  | khmer => if !joined ∧ n = 0x17D2 then some (-1, plain) else none
  | emoji => if c = joiner then some (0, joinedEmoji) else none
  | skin =>
    if Property.toneBase.holds c then some (0, emoji)
    else if c = joiner then some (0, joinedEmoji)
    else none
  | region => if isRegion n then some (1, regions) else none
  | regions =>
    if isRegion n then some (1, regions)
    else if c = joiner then some (0, joinedEmoji)
    else none
  | joinedEmoji =>
    if n = 0x20E3 then some (0, joinedKeycap)
    else if isRegion n then some (1, joinedRegion)
    else if isSkin n then some (0, skin)
    else if n = 0xE007F then some (0, tagEnd)
    else if Property.emojiPresentation.holds c then some (0, emoji)
    else none
  | joinedKeycap => none
  | joinedRegion => if isRegion n then some (-1, joinedEven) else none
  | joinedEven =>
    if isRegion n then some (3, joinedOdd)
    else if c = joiner then some (0, joinedEmoji)
    else none
  | joinedOdd =>
    if isRegion n then some (-1, joinedEven)
    else if c = joiner then some (0, joinedEmoji)
    else none
  | tagEnd =>
    if isTagLetter n then some (0, tagLetters 1)
    else if isTagDigit n then some (0, tagDigits 1)
    else none
  | tagLetters k =>
    if n = 0x1F3F4 ∧ 3 ≤ k then some (0, emoji)
    else if isTagLetter n ∧ k ≤ 5 then some (0, tagLetters (k + 1))
    else if isTagDigit n ∧ k ≤ 4 then some (0, tagDigits 1)
    else none
  | tagDigits k =>
    if n = 0x1F3F4 ∧ 3 ≤ k then some (0, emoji)
    else if isTagDigit n ∧ k ≤ 2 then some (0, tagDigits (k + 1))
    else none

end Role

end NodeTelemetry.Text
