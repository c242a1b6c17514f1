import NodeTelemetry.Log.Directive

/-!
# Which log lines are shown

A variable of the environment says which lines are shown, by directives between commas. Of the
directives that concern a line the most specific decides: the one that names the longest start of
the line's part, then the one that asks for most fields. A line that none concerns is not shown.
Directives on spans concern no lines, since the collector logs outside spans.

Without the variable, or with one that cannot be read, lines pass from `info` on; without any
directive, errors pass.
-/

namespace NodeTelemetry.Log

/-- The variable that says which lines are shown. -/
def filterVariable : String := "RUST_LOG"

/-- A directive on lines. -/
structure Rule where
  /-- The start of the names of the parts it is for, if not for all. -/
  target : Option (List Char)
  /-- The fields that a line must have. -/
  fields : List (List Char)
  /-- From which level on lines pass. -/
  least : Threshold
  deriving DecidableEq, Repr

namespace Rule

/-- What a directive says of lines, if anything. -/
def ofDirective? (d : Directive) : Option Rule :=
  if d.isStatic then some ⟨d.target, d.fields.map (·.name), d.least⟩ else none

/-- Whether two rules concern the same lines. -/
def sameLines (a b : Rule) : Bool := a.target == b.target && a.fields == b.fields

/-- The names of a line's fields, the message included. -/
def fieldNames (l : Line) : List (List Char) :=
  "message".toList :: l.fields.map (fun f => f.1.toList)

/-- Whether a rule concerns a line. -/
def concerns (r : Rule) (l : Line) : Bool :=
  (match r.target with
    | none => true
    | some t => t.isPrefixOf l.part.name.toList) &&
    r.fields.all (fieldNames l).contains

/-- How long a start of a part's name a rule gives; a rule for all parts comes before any length. -/
def reach (r : Rule) : Nat :=
  match r.target with
  | none => 0
  | some t => t.length + 1

/-- Whether a rule is more specific than another that concerns the same line. -/
def moreSpecific (a b : Rule) : Bool :=
  if a.reach ≠ b.reach then b.reach < a.reach
  else if a.fields.length ≠ b.fields.length then b.fields.length < a.fields.length
  else decide (b.fields < a.fields)

end Rule

/-- The rules on which lines are shown. -/
structure Filter where
  /-- The rules. -/
  rules : List Rule
  deriving DecidableEq, Repr

namespace Filter

/-- All lines from a level on. -/
def fromLevel (least : Level) : Filter := ⟨[⟨none, [], some least⟩]⟩

/-- Adds a rule in place of one that concerns the same lines. -/
def add (f : Filter) (r : Rule) : Filter :=
  ⟨f.rules.filter (fun o => !r.sameLines o) ++ [r]⟩

/-- The filter of a list of directives. -/
def ofDirectives (ds : List Directive) : Filter :=
  if ds.isEmpty then fromLevel .error else (ds.filterMap Rule.ofDirective?).foldl add ⟨[]⟩

/-- The filter that the value of the variable asks for. -/
def ofVariable : Option String → Filter
  | none => fromLevel .info
  | some s =>
    let written := (Text.splitOn (· == ',') s.toList).filter (!·.isEmpty)
    match written.mapM Directive.read with
    | some ds => ofDirectives ds
    | none => fromLevel .info

/-- The most specific rule that concerns a line. -/
def ruleFor? (f : Filter) (l : Line) : Option Rule :=
  (f.rules.filter (·.concerns l)).foldl
    (fun best r =>
      match best with
      | none => some r
      | some b => if r.moreSpecific b then some r else some b)
    none

/-- Whether a line passes. -/
def passes (f : Filter) (l : Line) : Bool :=
  match (f.ruleFor? l).bind (·.least) with
  | none => false
  | some least => decide (least.rank ≤ l.level.rank)

/-- The lines that pass. -/
def keep (f : Filter) (ls : List Line) : List Line := ls.filter f.passes

end Filter

end NodeTelemetry.Log
