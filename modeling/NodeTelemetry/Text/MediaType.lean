import NodeTelemetry.Text.Blank

/-!
# Types of contents

The type of a content is a kind and a sort, such as `text/plain`, and perhaps parameters, each after
a semicolon: a name, an equals sign and a value. A value is a token or stands between quotes. A text
that breaks these rules anywhere is no type at all.
-/

namespace NodeTelemetry.Text

/-- The type of a content. -/
structure MediaType where
  /-- The kind and the sort. -/
  essence : String
  /-- The parameters, in order. -/
  parameters : List (String × String)
  deriving DecidableEq, Repr

namespace MediaType

/-- Whether a character can be part of a token. -/
def isTokenChar (c : Char) : Bool := c.isAlphanum || "!#$%&'*+-.^_`|~".toList.contains c

/-- Whether a character can stand between quotes. -/
def isQuotedChar (c : Char) : Bool := 0x1F < c.toNat && c.toNat != 0x7F

/-- Splits off the characters of a token. There must be one. -/
def token? (cs : List Char) : Option (List Char × List Char) :=
  if (cs.takeWhile isTokenChar).isEmpty then none
  else some (cs.takeWhile isTokenChar, cs.dropWhile isTokenChar)

/-- Reads the value that an opening quote begins. It has a character at least, which may be a quote,
and only blanks come between it and the next semicolon. -/
def quotedValue? (cs : List Char) : Option (List Char × List Char) :=
  match cs with
  | [] => none
  | c :: cs =>
    let inner := cs.takeWhile (· != '"')
    match cs.dropWhile (· != '"') with
    | [] => none
    | _ :: rest =>
      if !(c :: inner).all isQuotedChar then none
      else
        match rest.dropWhile (· == ' ') with
        | [] => some (c :: inner, [])
        | ';' :: rest => some (c :: inner, rest)
        | _ => none

/-- Reads a value. A token may be empty only at the end. -/
def value? (cs : List Char) : Option (List Char × List Char) :=
  match cs with
  | [] => some ([], [])
  | '"' :: cs => quotedValue? cs
  | cs =>
    match token? cs with
    | some (value, []) => some (value, [])
    | some (value, ';' :: rest) => some (value, rest)
    | _ => none

/-- Reads a parameter, after the blanks before it. -/
def parameterFrom? (cs : List Char) : Option ((String × String) × List Char) :=
  match token? cs with
  | some (name, '=' :: rest) =>
    (value? rest).map fun v => ((String.ofList name, String.ofList v.1), v.2)
  | _ => none

/-- Reads parameters. Each takes a character at least. -/
def parametersFrom? : (fuel : Nat) → List Char → Option (List (String × String))
  | 0, cs => if cs.all (· == ' ') then some [] else none
  | fuel + 1, cs =>
    match cs.dropWhile (· == ' ') with
    | [] => some []
    | cs =>
      match parameterFrom? cs with
      | none => none
      | some (p, rest) => (parametersFrom? fuel rest).map (p :: ·)

/-- The text of a header as it is sent: without blanks around it. -/
def sent (s : String) : List Char :=
  let isSpace (c : Char) : Bool := c == ' ' || c == '\t'
  ((s.toList.dropWhile isSpace).reverse.dropWhile isSpace).reverse

/-- Whether a character can be in a header that is read as text. -/
def isHeaderChar (c : Char) : Bool := c == '\t' || (0x20 ≤ c.toNat && c.toNat < 0x7F)

/-- Reads the type in a header. -/
def read (s : String) : Option MediaType :=
  let cs := sent s
  if !cs.all isHeaderChar then none
  else
    match token? cs with
    | some (kind, '/' :: rest) =>
      match token? rest with
      | some (sort, after) =>
        let essence := String.ofList (kind ++ '/' :: sort)
        match after with
        | [] => some ⟨essence, []⟩
        | ';' :: rest => (parametersFrom? rest.length rest).map fun ps => ⟨essence, ps⟩
        | _ => none
      | none => none
    | _ => none

/-- The value of the first parameter with a name, which is given in lower case. -/
def parameter? (t : MediaType) (name : String) : Option String :=
  (t.parameters.find? (fun p => asciiLower p.1 == name)).map (·.2)

end MediaType

end NodeTelemetry.Text
