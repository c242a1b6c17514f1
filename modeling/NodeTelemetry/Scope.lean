import NodeTelemetry.Text.Quoted

/-!
# The two histories by name

A query names the history that it reads: the samples or the events. Without a name, or with an
empty one, it reads the events.
-/

namespace NodeTelemetry

/-- Which of the two histories is meant. -/
inductive Scope where
  /-- The samples. -/
  | stats
  /-- The events. -/
  | events
  deriving DecidableEq, Repr

/-- A name that names no history. -/
structure ScopeError where
  /-- The name. -/
  raw : String
  deriving DecidableEq, Repr

/-- The wording of a scope's error. -/
def ScopeError.message (e : ScopeError) : String :=
  "invalid scope " ++ Text.quoted e.raw ++ ": expected \"stats\" or \"events\""

namespace Scope

/-- The name of a scope. -/
def label : Scope → String
  | stats => "stats"
  | events => "events"

/-- The scope that a query names. -/
def ofQuery (raw : Option String) : Except ScopeError Scope :=
  match raw.getD "" with
  | "" | "events" => .ok events
  | "stats" => .ok stats
  | other => .error ⟨other⟩

end Scope

end NodeTelemetry
