/-!
# Collections keyed by name

A keyed collection is a list of pairs in ascending order of their names, each name once. Names are
ordered as the bytes of their UTF-8 form are, which is the order of their code points. Writing a
name again replaces its value, so of several values given for one name the last one stands.
-/

namespace NodeTelemetry

/-- Values by name, in ascending order of the names. -/
abbrev Keyed (α : Type) := List (String × α)

namespace Keyed

variable {α : Type}

/-- Sets the value of a name. -/
def insert (name : String) (a : α) : Keyed α → Keyed α
  | [] => [(name, a)]
  | (k, b) :: rest =>
    if name < k then (name, a) :: (k, b) :: rest
    else if name = k then (name, a) :: rest
    else (k, b) :: insert name a rest

/-- Sets the value of a name that has none. -/
def insertNew (name : String) (a : α) : Keyed α → Keyed α
  | [] => [(name, a)]
  | (k, b) :: rest =>
    if name < k then (name, a) :: (k, b) :: rest
    else if name = k then (k, b) :: rest
    else (k, b) :: insertNew name a rest

/-- The value of a name. -/
def find? (name : String) : Keyed α → Option α
  | [] => none
  | (k, a) :: rest => if name = k then some a else find? name rest

/-- Removes a name. -/
def erase (name : String) (m : Keyed α) : Keyed α := m.filter (fun p => p.1 != name)

/-- The collection of the given pairs; of several values for one name the last one stands. -/
def ofList (pairs : List (String × α)) : Keyed α :=
  pairs.foldr (fun p m => insertNew p.1 p.2 m) []

end Keyed

end NodeTelemetry
