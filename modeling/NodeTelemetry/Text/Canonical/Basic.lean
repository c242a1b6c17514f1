import NodeTelemetry.Text.Canonical.CombiningClass
import NodeTelemetry.Text.Canonical.Composites
import NodeTelemetry.Text.Canonical.Replaced

/-!
# The composed form of texts

A character with marks can be written in several ways. Texts that are the same but for that have one
composed form, the normalization form C of the Unicode standard. It is made in three steps:

1. every character is taken apart (`takenApart`),
2. marks that follow one another are put in the order of their classes (`ordered`),
3. each character is joined to the last base before it, if the two make a composite and nothing
   between them stands in the way (`composed`).

Hangul syllables are composites by arithmetic: a leading consonant, a vowel and perhaps a trailing
consonant.
-/

namespace NodeTelemetry.Text.Canonical

/-- The combining class of a character. -/
def combiningClass (c : Char) : Nat := combiningClasses.of c

/-! ### Hangul -/

/-- The first Hangul syllable. -/
def firstSyllable : Nat := 0xAC00

/-- The first leading consonant. -/
def firstLeading : Nat := 0x1100

/-- The first vowel. -/
def firstVowel : Nat := 0x1161

/-- The place before the first trailing consonant, which stands for none. -/
def noTrailing : Nat := 0x11A7

/-- How many leading consonants there are. -/
def leadingCount : Nat := 19

/-- How many vowels there are. -/
def vowelCount : Nat := 21

/-- How many trailing consonants there are, none included. -/
def trailingCount : Nat := 28

/-- The parts of a Hangul syllable, if the character is one. -/
def syllableParts? (c : Char) : Option (List Char) :=
  let i := c.toNat - firstSyllable
  if c.toNat < firstSyllable ∨ leadingCount * vowelCount * trailingCount ≤ i then none
  else
    let leading := Char.ofNat (firstLeading + i / (vowelCount * trailingCount))
    let vowel := Char.ofNat (firstVowel + i % (vowelCount * trailingCount) / trailingCount)
    let trailing := i % trailingCount
    some (leading :: vowel ::
      (if trailing = 0 then [] else [Char.ofNat (noTrailing + trailing)]))

/-- The Hangul syllable of two parts: a leading consonant and a vowel, or a syllable without a
trailing consonant and such a consonant. -/
def syllable? (a b : Char) : Option Char :=
  let l := a.toNat - firstLeading
  let v := b.toNat - firstVowel
  let s := a.toNat - firstSyllable
  let t := b.toNat - noTrailing
  if firstLeading ≤ a.toNat ∧ l < leadingCount ∧ firstVowel ≤ b.toNat ∧ v < vowelCount then
    some (Char.ofNat (firstSyllable + (l * vowelCount + v) * trailingCount))
  else if firstSyllable ≤ a.toNat ∧ s < leadingCount * vowelCount * trailingCount ∧
      s % trailingCount = 0 ∧ noTrailing < b.toNat ∧ t < trailingCount then
    some (Char.ofNat (a.toNat + t))
  else none

/-! ### Taking apart -/

/-- The parts of a character that are not taken apart any further after `depth` steps. Four steps
reach the end for every character. -/
def parts : (depth : Nat) → Char → List Char
  | 0, c => [c]
  | depth + 1, c =>
    match syllableParts? c with
    | some cs => cs
    | none =>
      match composites.image? c with
      | some cs => cs.flatMap (parts depth)
      | none => (replaced.image? c).getD [c]

/-- A text with every character taken apart. -/
def takenApart (cs : List Char) : List Char := cs.flatMap (parts 4)

/-! ### Order -/

/-- Puts a mark into a run of marks, behind all whose class is not greater. -/
def insertMark (c : Char) : List Char → List Char
  | [] => [c]
  | d :: ds => if combiningClass c < combiningClass d then c :: d :: ds else d :: insertMark c ds

/-- A text with its marks in order. Each run of characters of a class other than 0 is sorted by
class, those of one class staying as they are. -/
def ordered (cs : List Char) : List Char :=
  let (done, run) := cs.foldl
    (fun (acc : List (List Char) × List Char) c =>
      if combiningClass c = 0 then ([c] :: acc.2 :: acc.1, []) else (acc.1, insertMark c acc.2))
    ([], [])
  (run :: done).reverse.flatten

/-! ### Composing -/

/-- The composites by their two parts. -/
def pairs : List ((Char × Char) × Char) :=
  composites.toList.filterMap fun e =>
    match e.2 with
    | [a, b] => some ((a, b), e.1)
    | _ => none

/-- The composite of two characters, if there is one. -/
def composite? (a b : Char) : Option Char :=
  match syllable? a b with
  | some c => some c
  | none => (pairs.find? (fun p => p.1 == (a, b))).map (·.2)

/-- A text that is being composed. -/
structure Composing where
  /-- What comes before the last base, the latest first. -/
  before : List Char
  /-- The last base, if there was one. -/
  base : Option Char
  /-- The characters after the base, the latest first. -/
  after : List Char

/-- Whether nothing between the base and a character stands in the way: there is nothing, or the
last mark there has a lower class. -/
def Composing.reaches (s : Composing) (c : Char) : Bool :=
  match s.after with
  | [] => true
  | d :: _ => combiningClass d ≠ 0 && combiningClass d < combiningClass c

/-- Takes a character: it joins the base, or becomes the base, or comes after it. -/
def Composing.push (s : Composing) (c : Char) : Composing :=
  match (if s.reaches c then s.base.bind (composite? · c) else none) with
  | some d => { s with base := some d }
  | none =>
    if combiningClass c = 0 then ⟨s.after ++ s.base.toList ++ s.before, some c, []⟩
    else { s with after := c :: s.after }

/-- The text composed so far. -/
def Composing.finish (s : Composing) : List Char :=
  (s.after ++ s.base.toList ++ s.before).reverse

/-- An ordered text with its composites. -/
def composed (cs : List Char) : List Char :=
  (cs.foldl Composing.push ⟨[], none, []⟩).finish

/-- The composed form of a text. -/
def normalize (cs : List Char) : List Char := composed (ordered (takenApart cs))

end NodeTelemetry.Text.Canonical
