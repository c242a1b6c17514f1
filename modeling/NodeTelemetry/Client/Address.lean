import NodeTelemetry.Client.Host

/-!
# Addresses of a surface

A surface is given by an address, a URL under the rules of the URL standard. The client needs of it
the scheme, the host, the port and the directory: the path up to its last `/`. A query or a fragment
does not count. A resource of the surface is a name below the directory.

An address without a host can have a path that is no list of names; such an address has no
directory, and nothing can be asked of it.
-/

namespace NodeTelemetry.Client

/-- The address of a surface. -/
structure Address where
  /-- The scheme. -/
  scheme : String
  /-- The host, if there is one. -/
  host : Option String
  /-- The port, if it is given. -/
  port : Option Nat
  /-- The names of the directory, escaped, if there is one. -/
  directory : Option (List String)
  deriving DecidableEq, Repr

namespace Address

/-- The kinds of schemes. -/
inductive SchemeKind where
  /-- Addresses have a host, and a port unless it is the usual one. -/
  | network (port : Nat)
  /-- Addresses of files. -/
  | file
  /-- Anything else. -/
  | other
  deriving DecidableEq, Repr

/-- The kind of a scheme. -/
def SchemeKind.of : String → SchemeKind
  | "http" | "ws" => network 80
  | "https" | "wss" => network 443
  | "ftp" => network 21
  | "file" => file
  | _ => other

/-- Whether a backslash counts as a slash. -/
def SchemeKind.isSpecial : SchemeKind → Bool
  | other => false
  | _ => true

/-- The address as it is read: without blanks and control characters around it, and without tabs
and line ends. -/
def clean (cs : List Char) : List Char :=
  let outer (c : Char) : Bool := c.toNat ≤ 0x20
  ((cs.dropWhile outer).reverse.dropWhile outer).reverse.filter
    (fun c => c != '\t' && c != '\n' && c != '\r')

/-- Whether a character can be part of a scheme. -/
def isSchemeChar (c : Char) : Bool := c.isAlphanum || c == '+' || c == '-' || c == '.'

/-- The scheme and what follows its colon. -/
def splitScheme (cs : List Char) : Option (String × List Char) :=
  match cs.dropWhile isSchemeChar with
  | ':' :: rest =>
    let scheme := cs.takeWhile isSchemeChar
    match scheme with
    | c :: _ => if c.isAlpha then some (Text.asciiLower (String.ofList scheme), rest) else none
    | [] => none
  | _ => none

/-- Whether a character is a slash. -/
def isSlash (special : Bool) (c : Char) : Bool := c == '/' || special && c == '\\'

/-- Whether a character ends the part with the host. -/
def endsAuthority (special : Bool) (c : Char) : Bool := isSlash special c || c == '?' || c == '#'

/-! ### Hosts and ports -/

/-- Reads the digits of a port. A backslash ends them under any scheme. -/
def readPort (n : Nat) : List Char → Except AddressError Nat
  | [] => .ok n
  | c :: rest =>
    if c.isDigit then
      let n := 10 * n + Text.digitValue c
      if 65535 < n then .error .badPort else readPort n rest
    else if c = '\\' then .ok n
    else .error .badPort

/-- The text up to a colon outside brackets, and what begins with it. -/
def splitPort (inside : Bool) : List Char → List Char × List Char
  | [] => ([], [])
  | c :: rest =>
    if c = ':' ∧ !inside then ([], c :: rest)
    else
      let inside := if c = '[' then true else if c = ']' then false else inside
      let (host, port) := splitPort inside rest
      (c :: host, port)

/-- The text before the last `@`, if there is one, and the text after it. -/
def splitUser (cs : List Char) : Option (List Char) × List Char :=
  let target := (cs.reverse.takeWhile (· != '@')).reverse
  if target.length < cs.length then (some (cs.take (cs.length - target.length - 1)), target)
  else (none, target)

/-- Whether the text before an `@` names a user or a password. -/
def namesUser : Option (List Char) → Bool
  | none | some [] | some [':'] => false
  | _ => true

/-- Reads host and port. The usual port counts as none. `last` says that the address ends with
them. -/
def readAuthority (kind : SchemeKind) (cs : List Char) (last : Bool) :
    Except AddressError (Option String × Option Nat) := do
  let (user, target) := splitUser cs
  let (host, rest) := splitPort false target
  let hostDue := kind.isSpecial || namesUser user || !rest.isEmpty || user == some [] && !last
  if host.isEmpty ∧ hostDue then throw .emptyHost
  let host ← if kind.isSpecial then Host.read host else Host.readOpaque host
  let digits := rest.drop 1
  let port ← readPort 0 digits
  let port := if !digits.any Char.isDigit ∨ kind = .network port then none else some port
  return (if host.isEmpty then none else some host, port)

/-! ### Paths -/

/-- Whether a character is escaped in a path. -/
def isEscaped (c : Char) : Bool :=
  c.toNat ≤ 0x20 || 0x7F ≤ c.toNat || "\"#<>?`\x7b\x7d".toList.contains c

/-- The written forms of a dot. -/
def dots : List String := [".", "%2e"]

/-- The written forms of two dots. -/
def pairsOfDots : List String := dots.flatMap fun a => dots.map (a ++ ·)

/-- Whether a text is the letter of a drive: a letter and a colon, or a stroke in its place. -/
def isDrive : List Char → Bool
  | [c, d] => c.isAlpha && (d == ':' || d == '|')
  | _ => false

/-- Goes one name back, but not out of a drive. -/
def leave (directory : List String) : List String :=
  match directory.getLast? with
  | some name => if isDrive name.toList then directory else directory.dropLast
  | none => directory

/-- Goes one name further: two dots go back, one dot stays. -/
def enter (directory : List String) (name : List Char) : List String :=
  let word := Text.asciiLower (String.ofList name)
  if word ∈ pairsOfDots then leave directory
  else if word ∈ dots then directory
  else directory ++ [String.ofList (Text.escaped isEscaped name)]

/-- The directory of a path: all names up to the last slash, and the last one too if it is dots. -/
def directoryOf (names : List (List Char)) : List String :=
  let directory := names.dropLast.foldl enter []
  match names.getLast? with
  | some name =>
    if Text.asciiLower (String.ofList name) ∈ pairsOfDots then leave directory else directory
  | none => directory

/-- Reads the directory of a path. -/
def readDirectory (special : Bool) (cs : List Char) : List String :=
  let path := cs.takeWhile (fun c => c != '?' && c != '#')
  let names := match path with
    | c :: rest => if isSlash special c then rest else c :: rest
    | [] => []
  directoryOf (Text.splitOn (isSlash special) names)

/-! ### Addresses -/

/-- Reads an address after the slashes that begin its host. -/
def readNetwork (scheme : String) (kind : SchemeKind) (cs : List Char) :
    Except AddressError Address := do
  let special := kind.isSpecial
  let rest := cs.dropWhile (!endsAuthority special ·)
  let (host, port) ←
    readAuthority kind (cs.takeWhile (!endsAuthority special ·)) rest.isEmpty
  return ⟨scheme, host, port, some (readDirectory special rest)⟩

/-- Reads the address of a file after its scheme. A drive in the place of the host begins the
path. -/
def readFile (scheme : String) (cs : List Char) : Except AddressError Address := do
  if (cs.take 2).length = 2 ∧ (cs.take 2).all (isSlash true) then
    let target := (cs.drop 2).takeWhile (!endsAuthority true ·)
    let rest := (cs.drop 2).dropWhile (!endsAuthority true ·)
    if target.isEmpty ∨ isDrive target then
      return ⟨scheme, none, none, some (readDirectory true (cs.drop 2))⟩
    else return ⟨scheme, some (← Host.read target), none, some (readDirectory true rest)⟩
  else return ⟨scheme, none, none, some (readDirectory true cs)⟩

/-- Reads an address. -/
def read (s : String) : Except AddressError Address :=
  match splitScheme (clean s.toList) with
  | none => .error .relative
  | some (scheme, rest) =>
    match SchemeKind.of scheme with
    | .network port => readNetwork scheme (.network port) (rest.dropWhile (isSlash true))
    | .file => readFile scheme rest
    | .other =>
      match rest with
      | '/' :: '/' :: rest => readNetwork scheme .other rest
      | '/' :: _ => .ok ⟨scheme, none, none, some (readDirectory false rest)⟩
      | _ => .ok ⟨scheme, none, none, none⟩

/-- The path of a resource below the directory of an address. -/
def resource (a : Address) (name : String) : Option String :=
  a.directory.map fun names => String.join ((names ++ [name]).map ("/" ++ ·))

/-- Whether two addresses have the same host and port under the same scheme. -/
def sameServer (a b : Address) : Bool :=
  a.scheme == b.scheme && a.host == b.host && a.port == b.port

end Address

end NodeTelemetry.Client
