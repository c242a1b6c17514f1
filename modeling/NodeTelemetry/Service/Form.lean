import NodeTelemetry.Text.Blank
import NodeTelemetry.Text.Escaped

/-!
# Members of a query

The query of a request is a form: members joined by `&`, each a name and a value around its first
`=`. In both a `+` stands for a blank, and bytes can be escaped. The bytes are read as UTF-8.
-/

namespace NodeTelemetry.Service

/-- The text that a part of a form stands for. -/
def formText (cs : List Char) : String :=
  Utf8.lossy (Text.unescaped (cs.map fun c => if c = '+' then ' ' else c))

/-- A member of a form. Without a `=` its value is empty. -/
def formMember (cs : List Char) : String × String :=
  match Text.splitOnce '=' cs with
  | some (name, value) => (formText name, formText value)
  | none => (formText cs, "")

/-- The members of a form, in their order. -/
def formMembers (query : List Char) : List (String × String) :=
  ((Text.splitOn (· == '&') query).filter (!·.isEmpty)).map formMember

end NodeTelemetry.Service
