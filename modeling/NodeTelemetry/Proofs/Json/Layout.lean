import NodeTelemetry.Proofs.Json.Sound
import NodeTelemetry.Proofs.Json.Writer

/-!
# Two layouts of one text

The compact writer and the one over several lines write the same brackets, commas, names and scalars,
and differ in the white space between them. A `Spacing` is such white space, and `Lays` says what the
texts of values look like that have it. Both writers lay values out so (`lays_compact`, `lays_pretty`),
so that what follows for any spacing follows for both.
-/

namespace NodeTelemetry.Json

/-- A text of nothing but white space. -/
def Blank (gs : List Glyph) : Prop := ∀ g ∈ gs, Reader.isBlank g = true

instance (gs : List Glyph) : Decidable (Blank gs) :=
  List.decidableBAll (fun g => Reader.isBlank g = true) gs

/-- The white space of a layout. -/
structure Spacing where
  /-- What stands before an item or a closing bracket of a level. -/
  gap : Nat → String
  /-- What stands behind the colon of a member. -/
  colon : String
  /-- A gap is white space. -/
  blank_gap : ∀ level, Blank (Glyph.ofString (gap level))
  /-- So is what stands behind a colon. -/
  blank_colon : Blank (Glyph.ofString colon)

theorem blank_newline (level : Nat) : Blank (Glyph.ofString (newline level)) := by
  intro g hg
  rw [Glyph.ofString, newline, String.toList_ofList] at hg
  obtain ⟨c, hc, rfl⟩ := List.mem_map.mp hg
  rcases List.mem_cons.mp hc with rfl | hc
  · rfl
  · rw [List.eq_of_mem_replicate hc]
    rfl

namespace Spacing

/-- Texts between brackets, which stand on a level. -/
def enclosed (w : Spacing) (level : Nat) : List String → String
  | [] => ""
  | s :: ss =>
    w.gap (level + 1) ++ s ++ String.join (ss.map fun t => "," ++ w.gap (level + 1) ++ t) ++
      w.gap level

/-- The text of a member whose value has a text. -/
def member (w : Spacing) (name text : String) : String := quote name ++ ":" ++ w.colon ++ text

/-- No white space. -/
def tight : Spacing := ⟨fun _ => "", "", fun _ => by decide, by decide⟩

/-- Everything on a line of its own, and a space behind a colon. -/
def wide : Spacing := ⟨newline, " ", blank_newline, by decide⟩

theorem enclosed_tight (level : Nat) (ss : List String) :
    tight.enclosed level ss = ",".intercalate ss := by
  cases ss with
  | nil => rfl
  | cons s ss =>
    rw [intercalate_cons]
    simp [enclosed, tight]

end Spacing

/-- The texts of values, by the level of their closing brackets, have the white space of a layout. -/
structure Lays (w : Spacing) (text : Nat → Json → String) : Prop where
  /-- A value without parts has none. -/
  scalar : ∀ level v, ¬v.HasParts → text level v = scalarText v
  /-- An array has its items between brackets. -/
  arr : ∀ level vs,
    text level (.arr vs) = "[" ++ w.enclosed level (vs.map (text (level + 1))) ++ "]"
  /-- An object has its members between braces. -/
  obj : ∀ level ms,
    text level (.obj ms) =
      "\x7b" ++ w.enclosed level (ms.map fun m => w.member m.1 (text (level + 1) m.2)) ++ "\x7d"

/-- The compact text of a value without parts. -/
theorem compact_scalar {v : Json} (h : ¬v.HasParts) : v.compact = scalarText v := by
  cases v with
  | arr | obj => exact absurd trivial h
  | null | bool | int | real | str => simp only [compact, writeCompact, String.empty_append]

/-- A compact text has no white space. -/
theorem lays_compact : Lays .tight fun _ v => v.compact where
  scalar _ _ h := compact_scalar h
  arr level vs := by rw [compact_arr, Spacing.enclosed_tight]
  obj level ms := by
    rw [compact_obj, Spacing.enclosed_tight]
    have hmember : memberText = fun m => Spacing.tight.member m.1 m.2.compact := by
      funext m
      simp [memberText, Spacing.member, Spacing.tight]
    rw [hmember]

/-! ### Texts over several lines -/

/-- The text of a value over several lines, on a level. -/
def prettyAt (level : Nat) (v : Json) : String := writePretty level "" v

/-- The writer appends this text. -/
def AppendsPretty (v : Json) : Prop :=
  ∀ (level : Nat) (out : String), writePretty level out v = out ++ prettyAt level v

theorem writeItemsPretty_eq {vs : List Json} (h : ∀ v ∈ vs, AppendsPretty v) (level : Nat)
    (out : String) :
    writeItemsPretty level out vs = out ++ String.join
      ((vs.map (prettyAt (level + 1))).map fun t => "," ++ newline (level + 1) ++ t) := by
  induction vs generalizing out with
  | nil => simp [writeItemsPretty]
  | cons v vs ih =>
    obtain ⟨hv, hvs⟩ := List.forall_mem_cons.mp h
    rw [writeItemsPretty, ih hvs, hv, String.push_eq_append, List.map_cons, List.map_cons,
      String.join_cons]
    simp only [String.append_assoc]
    rfl

theorem writeMembersPretty_eq {ms : List (String × Json)} (h : ∀ m ∈ ms, AppendsPretty m.2)
    (level : Nat) (out : String) :
    writeMembersPretty level out ms = out ++ String.join
      ((ms.map fun m => Spacing.wide.member m.1 (prettyAt (level + 1) m.2)).map
        fun t => "," ++ newline (level + 1) ++ t) := by
  induction ms generalizing out with
  | nil => simp [writeMembersPretty]
  | cons m ms ih =>
    obtain ⟨k, v⟩ := m
    obtain ⟨hv, hms⟩ := List.forall_mem_cons.mp h
    rw [writeMembersPretty, ih hms, hv, String.push_eq_append, List.map_cons, List.map_cons,
      String.join_cons, show (": " : String) = ":" ++ " " from rfl]
    simp only [Spacing.member, Spacing.wide, String.append_assoc]
    rfl

theorem writePretty_arr {vs : List Json} (h : ∀ v ∈ vs, AppendsPretty v) (level : Nat)
    (out : String) :
    writePretty level out (arr vs) =
      out ++ ("[" ++ Spacing.wide.enclosed level (vs.map (prettyAt (level + 1))) ++ "]") := by
  cases vs with
  | nil => simp [writePretty, Spacing.enclosed]
  | cons v vs =>
    obtain ⟨hv, hvs⟩ := List.forall_mem_cons.mp h
    rw [writePretty, writeItemsPretty_eq hvs, hv, String.push_eq_append, String.push_eq_append]
    simp only [List.map_cons, Spacing.enclosed, Spacing.wide, String.append_assoc]
    rfl

theorem writePretty_obj {ms : List (String × Json)} (h : ∀ m ∈ ms, AppendsPretty m.2)
    (level : Nat) (out : String) :
    writePretty level out (obj ms) =
      out ++ ("\x7b" ++ Spacing.wide.enclosed level
        (ms.map fun m => Spacing.wide.member m.1 (prettyAt (level + 1) m.2)) ++ "\x7d") := by
  cases ms with
  | nil => simp [writePretty, Spacing.enclosed]
  | cons m ms =>
    obtain ⟨k, v⟩ := m
    obtain ⟨hv, hms⟩ := List.forall_mem_cons.mp h
    rw [writePretty, writeMembersPretty_eq hms, hv, String.push_eq_append, String.push_eq_append,
      show (": " : String) = ":" ++ " " from rfl]
    simp only [List.map_cons, Spacing.enclosed, Spacing.member, Spacing.wide, String.append_assoc]
    rfl

/-- The writer over several lines appends the text of every value. -/
theorem appendsPretty (v : Json) : AppendsPretty v := by
  induction v using ind with
  | null | bool | int | real | str =>
    intro level out
    simp only [prettyAt, writePretty, String.empty_append]
  | arr vs ih =>
    intro level out
    rw [writePretty_arr ih, prettyAt, writePretty_arr ih, String.empty_append]
  | obj ms ih =>
    intro level out
    rw [writePretty_obj ih, prettyAt, writePretty_obj ih, String.empty_append]

/-- A text over several lines has everything on a line of its own. -/
theorem lays_pretty : Lays .wide prettyAt where
  scalar level v h := by
    cases v with
    | arr | obj => exact absurd trivial h
    | null | bool | int | real | str => simp only [prettyAt, writePretty, String.empty_append]
  arr level vs := by
    rw [prettyAt, writePretty_arr fun v _ => appendsPretty v, String.empty_append]
  obj level ms := by
    rw [prettyAt, writePretty_obj fun m _ => appendsPretty m.2, String.empty_append]

end NodeTelemetry.Json
