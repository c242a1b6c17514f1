import NodeTelemetry.Text.Property.EmojiStyled
import NodeTelemetry.Text.Property.TextStyled
import NodeTelemetry.Text.Width.Role

/-!
# Width of texts in columns

A wide character takes two columns, a combining or format character none, every other character
one, control characters included. Next to one another some characters take other columns than alone
(`Role`), and a variation selector changes the character before it: as an emoji it takes two
columns, as text one.

A text is measured from its end. `Following` is all that a character has to know of what comes
after it.
-/

namespace NodeTelemetry.Text

/-- How a variation selector wants the character before it. -/
inductive Style where
  /-- As an emoji. -/
  | emoji
  /-- As text. -/
  | text
  deriving DecidableEq, Repr

/-- The style that a character selects. -/
def Style.ofSelector? (c : Char) : Option Style :=
  if c = '\ufe0f' then some .emoji else if c = '\ufe0e' then some .text else none

/-- What comes after a character. -/
structure Following where
  /-- What the characters offer. -/
  role : Role
  /-- The style that is wanted. -/
  style : Option Style
  /-- Whether a joiner comes first. -/
  joined : Bool
  deriving DecidableEq, Repr

namespace Following

/-- Characters with a role. -/
def of (role : Role) : Following := ⟨role, none, false⟩

/-- Nothing that matters. -/
def nothing : Following := of .plain

/-- What comes after a character before a variation selector. What is offered stays only for
ligatures, and for an emoji that is joined to another one. -/
def styled (f : Following) (s : Style) : Following :=
  if f.role.reachesBack then { f with style := some s }
  else if s = .emoji ∧ (f.role = .joinedEmoji ∨ f.role = .joinedKeycap) then
    { f with style := some s }
  else ⟨.plain, some s, false⟩

/-- What comes after a character that has no style of its own to give. -/
def unstyled (f : Following) : Following :=
  match f.style with
  | none => f
  | some _ => if f.role.reachesBack then { f with style := none } else nothing

/-- The columns that an emoji with a selected style adds. -/
def styledWidth (f : Following) : Int :=
  if f.role = .joinedEmoji ∨ f.role = .joinedKeycap then 0 else 2

/-- The columns that a character adds which no style concerns, and what it is to the character
before it. -/
def extend (f : Following) (c : Char) : Int × Following :=
  if f.role.reachesBack ∧ c = Role.joiner then (0, { f with joined := true })
  else if f.role.reachesBack ∧ Role.isSkipped c then (0, f)
  else
    let (w, role) := (f.role.combine f.joined c).getD (Role.alone c)
    (w, of role)

/-- The columns that a character adds to what comes after it, and what both are to the character
before it. -/
def push (f : Following) (c : Char) : Int × Following :=
  if f.style = some .emoji ∧ Property.emojiStyled.holds c then (f.styledWidth, of .emoji)
  else if c.toNat ≤ 0xA0 then (1, nothing)
  else
    let f := if f.style = some .emoji then f.unstyled else f
    match Style.ofSelector? c with
    | some s => (0, f.styled s)
    | none =>
      if f.style = some .text ∧ Property.textStyled.holds c then (1, nothing)
      else f.unstyled.extend c

end Following

/-- The columns that a text takes. -/
def width (cs : List Char) : Nat :=
  (cs.foldr
    (fun c (acc : Int × Following) =>
      let (w, f) := acc.2.push c
      (acc.1 + w, f))
    (0, .nothing)).1.toNat

end NodeTelemetry.Text
