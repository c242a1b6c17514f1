import NodeTelemetry.Client.Field
import NodeTelemetry.Proofs.Event
import NodeTelemetry.Proofs.Json.RoundTrip
import NodeTelemetry.Proofs.Text.Words

/-!
# Arguments and the members they give

An argument `key=value` is cut at its first `=`. What it gives is told here by the argument itself, not
by the steps of the reader: `Gives raw r` has one case for each thing that can be wrong with the key, and
one for an argument that gives a member. Every argument is in one of these cases and gives what the case
says (`parseField_eq_iff`).

The value of a member is read as JSON, and an argument that is not JSON is no error but a string. A
reader that refused some JSON would thus go unnoticed, so the text that a client writes for a value is
followed back to the value (`parseField_written`).
-/

namespace NodeTelemetry.Client

open Text

/-- An argument is a text, its first `=`, and all that comes after it. -/
def Assigns (raw : String) (before after : List Char) : Prop :=
  '=' ∉ before ∧ raw.toList = before ++ '=' :: after

/-- A text stands for the value that it is the JSON of, or for itself if it is no JSON. -/
inductive StandsFor (text : String) : Json → Prop where
  /-- The text is JSON. -/
  | json (v : Json) (read : Json.read (Glyph.ofString text) = .ok v) : StandsFor text v
  /-- The text is not. -/
  | plain (unread : ∀ v, Json.read (Glyph.ofString text) ≠ .ok v) : StandsFor text (.str text)

/-- What an argument gives. -/
inductive Gives (raw : String) : Except FieldError (String × Json) → Prop where
  /-- An argument without a `=`. -/
  | unseparated (missing : '=' ∉ raw.toList) : Gives raw (.error (.missingSeparator raw))
  /-- Nothing but white space before the `=`. -/
  | unnamed {before after : List Char} (cut : Assigns raw before after) (blanks : Blanks before) :
    Gives raw (.error .emptyKey)
  /-- The key of the event's kind. -/
  | reserved {before after : List Char} (cut : Assigns raw before after)
    (kind : Trimmed before Event.kindName.toList) : Gives raw (.error (.reservedKey Event.kindName))
  /-- Any other key. -/
  | member {before after : List Char} {key : String} {value : Json} (cut : Assigns raw before after)
    (trimmed : Trimmed before key.toList) (named : key ≠ "") (free : key ≠ Event.kindName)
    (stands : StandsFor (String.ofList after) value) : Gives raw (.ok (key, value))

theorem fieldValue_eq_iff {text : String} {v : Json} : fieldValue text = v ↔ StandsFor text v := by
  constructor
  · rintro rfl
    cases hread : Json.read (Glyph.ofString text) with
    | ok v =>
      simp only [fieldValue, hread]
      exact .json v hread
    | error e =>
      simp only [fieldValue, hread]
      exact .plain fun v hv => by simp [hread] at hv
  · intro h
    cases h with
    | json v hread => simp only [fieldValue, hread]
    | plain hunread =>
      cases hread : Json.read (Glyph.ofString text) with
      | ok v => exact absurd hread (hunread v)
      | error e => simp only [fieldValue, hread]

/-- A key is the trimmed text before the `=`. -/
theorem trim_eq_key_iff {before : List Char} {key : String} :
    String.ofList (trim before) = key ↔ Trimmed before key.toList := by
  rw [← trim_eq_iff]
  constructor
  · rintro rfl
    exact (String.toList_ofList).symm
  · intro h
    rw [h, String.ofList_toList]

/-- The key is empty if there is only white space before the `=`. -/
theorem trimmed_empty_iff {before : List Char} : Trimmed before "".toList ↔ Blanks before := by
  constructor
  · rintro ⟨⟨start, fin, hstart, hfin, rfl⟩, -, -⟩
    intro c hc
    rcases List.mem_append.mp hc with hc | hc
    · exact hstart c (by simpa using hc)
    · exact hfin c hc
  · intro h
    exact ⟨⟨before, [], h, by simp [Blanks], by simp⟩, by simp, by simp⟩

/-- What an argument with a `=` gives, by its key. -/
theorem parseField_of_assigns {raw : String} {before after : List Char}
    (hcut : Assigns raw before after) {key : String} (hkey : Trimmed before key.toList) :
    parseField raw =
      if key = "" then .error .emptyKey
      else if key = Event.kindName then .error (.reservedKey key)
      else .ok (key, fieldValue (String.ofList after)) := by
  have hsplit : splitOnce '=' raw.toList = some (before, after) := splitOnce_eq_some.mpr hcut
  simp only [parseField, hsplit, trim_eq_key_iff.mpr hkey]
  rfl

/-- The case that an argument is in says what it gives. -/
theorem Gives.parseField_eq {raw : String} {r : Except FieldError (String × Json)} (h : Gives raw r) :
    parseField raw = r := by
  cases h with
  | unseparated hmissing => simp only [parseField, splitOnce_eq_none.mpr hmissing]
  | unnamed hcut hblanks =>
    rw [parseField_of_assigns hcut (trimmed_empty_iff.mpr hblanks), if_pos rfl]
  | reserved hcut hkind => rw [parseField_of_assigns hcut hkind, if_neg (by decide), if_pos rfl]
  | member hcut htrimmed hnamed hfree hstands =>
    rw [parseField_of_assigns hcut htrimmed, if_neg hnamed, if_neg hfree,
      fieldValue_eq_iff.mpr hstands]

/-- Every argument is in one of the cases. -/
theorem exists_gives (raw : String) : ∃ r, Gives raw r := by
  by_cases hmissing : '=' ∈ raw.toList
  · obtain ⟨⟨before, after⟩, hsplit⟩ : ∃ cut, splitOnce '=' raw.toList = some cut :=
      Option.ne_none_iff_exists'.mp fun hnone => splitOnce_eq_none.mp hnone hmissing
    have hcut : Assigns raw before after := splitOnce_eq_some.mp hsplit
    obtain ⟨key, hkey⟩ : ∃ key : String, Trimmed before key.toList := ⟨_, trim_eq_key_iff.mp rfl⟩
    by_cases hnamed : key = ""
    · exact ⟨_, .unnamed hcut (trimmed_empty_iff.mp (hnamed ▸ hkey))⟩
    · by_cases hfree : key = Event.kindName
      · exact ⟨_, .reserved hcut (hfree ▸ hkey)⟩
      · exact ⟨_, .member hcut hkey hnamed hfree (fieldValue_eq_iff.mp rfl)⟩
  · exact ⟨_, .unseparated hmissing⟩

/-- **An argument gives what its case says, and nothing else.** -/
theorem parseField_eq_iff {raw : String} {r : Except FieldError (String × Json)} :
    parseField raw = r ↔ Gives raw r := by
  constructor
  · rintro rfl
    obtain ⟨r, hr⟩ := exists_gives raw
    exact hr.parseField_eq ▸ hr
  · exact Gives.parseField_eq

variable {raw : String}

theorem missingSeparator_iff {r : String} :
    parseField raw = .error (.missingSeparator r) ↔ '=' ∉ raw.toList ∧ r = raw := by
  rw [parseField_eq_iff]
  constructor
  · intro h
    cases h with
    | unseparated hmissing => exact ⟨hmissing, rfl⟩
  · rintro ⟨hmissing, rfl⟩
    exact .unseparated hmissing

theorem emptyKey_iff :
    parseField raw = .error .emptyKey ↔
      ∃ before after, Assigns raw before after ∧ Blanks before := by
  rw [parseField_eq_iff]
  constructor
  · intro h
    cases h with
    | unnamed hcut hblanks => exact ⟨_, _, hcut, hblanks⟩
  · rintro ⟨before, after, hcut, hblanks⟩
    exact .unnamed hcut hblanks

theorem reservedKey_iff {k : String} :
    parseField raw = .error (.reservedKey k) ↔ k = Event.kindName ∧
      ∃ before after, Assigns raw before after ∧ Trimmed before Event.kindName.toList := by
  rw [parseField_eq_iff]
  constructor
  · intro h
    cases h with
    | reserved hcut hkind => exact ⟨rfl, _, _, hcut, hkind⟩
  · rintro ⟨rfl, before, after, hcut, hkind⟩
    exact .reserved hcut hkind

theorem member_iff {key : String} {value : Json} :
    parseField raw = .ok (key, value) ↔ key ≠ "" ∧ key ≠ Event.kindName ∧
      ∃ before after, Assigns raw before after ∧ Trimmed before key.toList ∧
        StandsFor (String.ofList after) value := by
  rw [parseField_eq_iff]
  constructor
  · intro h
    cases h with
    | member hcut htrimmed hnamed hfree hstands =>
      exact ⟨hnamed, hfree, _, _, hcut, htrimmed, hstands⟩
  · rintro ⟨hnamed, hfree, before, after, hcut, htrimmed, hstands⟩
    exact .member hcut htrimmed hnamed hfree hstands

/-- There is a member unless one of the errors applies. -/
theorem exists_member {before after : List Char} (hcut : Assigns raw before after)
    (hblanks : ¬Blanks before) (hkind : ¬Trimmed before Event.kindName.toList) :
    ∃ member, parseField raw = .ok member := by
  have hkey : Trimmed before (String.ofList (trim before)).toList := trim_eq_key_iff.mp rfl
  refine ⟨_, (Gives.member hcut hkey (fun hempty => hblanks ?_) (fun hname => hkind ?_)
    (fieldValue_eq_iff.mp rfl)).parseField_eq⟩
  · exact trimmed_empty_iff.mp (trim_eq_key_iff.mp hempty)
  · exact trim_eq_key_iff.mp hname

/-! ### Values written and read -/

/-- **A value that is written as an argument is the value that the argument gives.** -/
theorem parseField_written {key : String} (hnamed : key ≠ "") (hfree : key ≠ Event.kindName)
    (hsep : '=' ∉ key.toList) (hhead : ∀ c ∈ key.toList.head?, isBlank c = false)
    (hlast : ∀ c ∈ key.toList.getLast?, isBlank c = false) {v : Json}
    (hreadable : v.Readable Json.maxDepth) (hreals : v.RealFree) (horder : v.InOrder) :
    parseField (key ++ "=" ++ v.compact) = .ok (key, v) := by
  have hcut : Assigns (key ++ "=" ++ v.compact) key.toList v.compact.toList :=
    ⟨hsep, by simp⟩
  have hread : Json.read (Glyph.ofString v.compact) = .ok v := by
    have hblank : Json.Blank [] := List.forall_mem_nil _
    have h := Json.read_text Json.lays_compact hreadable hreals 0 hblank
    rwa [List.append_nil, horder.ordered_eq] at h
  have hstands : StandsFor (String.ofList v.compact.toList) v := by
    rw [String.ofList_toList]
    exact .json v hread
  have htrimmed : Trimmed key.toList key.toList := trim_eq_iff.mp (trim_self hhead hlast)
  exact (Gives.member hcut htrimmed hnamed hfree hstands).parseField_eq

/-- **What an argument gives.** It is refused for the lack of a `=` exactly if it has none, for the lack
of a key exactly if there is only white space before its first `=`, and for a reserved key exactly if the
text before its first `=` is the name of the kind with white space around it. Every other argument gives
a member, whose key is the trimmed text before the first `=`; its value is what the whole text after
that `=` stands for. If that text was written for a value without real numbers, then the value is the
one that was written, whatever is in its strings and however deep it is within the reader's limit. -/
theorem argument_gives_member :
    (∀ raw : String,
      (∀ r, parseField raw = .error (.missingSeparator r) ↔ '=' ∉ raw.toList ∧ r = raw) ∧
      (parseField raw = .error .emptyKey ↔
        ∃ before after, Assigns raw before after ∧ Blanks before) ∧
      (∀ k, parseField raw = .error (.reservedKey k) ↔
        k = "type" ∧ ∃ before after, Assigns raw before after ∧ Trimmed before "type".toList) ∧
      (∀ key value, parseField raw = .ok (key, value) ↔
        key ≠ "" ∧ key ≠ "type" ∧ ∃ before after, Assigns raw before after ∧
          Trimmed before key.toList ∧ StandsFor (String.ofList after) value) ∧
      ∀ before after, Assigns raw before after → ¬Blanks before → ¬Trimmed before "type".toList →
        ∃ member, parseField raw = .ok member) ∧
    ∀ (key : String) (v : Json), key ≠ "" → key ≠ "type" → '=' ∉ key.toList →
      (∀ c ∈ key.toList.head?, isBlank c = false) → (∀ c ∈ key.toList.getLast?, isBlank c = false) →
      v.Readable Json.maxDepth → v.RealFree → v.InOrder →
      parseField (key ++ "=" ++ v.compact) = .ok (key, v) := by
  refine ⟨fun raw => ⟨fun r => missingSeparator_iff, emptyKey_iff, fun k => reservedKey_iff,
    fun key value => member_iff, fun before after => exists_member⟩, ?_⟩
  intro key v hnamed hfree hsep hhead hlast hreadable hreals horder
  exact parseField_written hnamed hfree hsep hhead hlast hreadable hreals horder

/-- An object with a negative number and an escape in it. -/
def nestedValue : Json := .obj [("x", .arr [.int (-1), .str "=\n"])]

/-- A key between white space with a second `=` after it, and a nested value that is written. -/
theorem argument_gives_member_nested :
    parseField "\u00a0expr =a=b" = .ok ("expr", .str "a=b") ∧
      "a b" ++ "=" ++ nestedValue.compact = "a b=\x7b\"x\":[-1,\"=\\n\"]\x7d" ∧
      parseField ("a b" ++ "=" ++ nestedValue.compact) = .ok ("a b", nestedValue) := by
  obtain ⟨hcases, hwritten⟩ := argument_gives_member
  have hunread : ∀ v, Json.read (Glyph.ofString "a=b") ≠ .ok v := by
    intro v hv
    have hread : (Json.read (Glyph.ofString "a=b")).isOk = false := by decide
    rw [hv] at hread
    cases hread
  have hinOrder : nestedValue.InOrder :=
    .obj _ (by decide) (List.forall_mem_singleton.mpr (.arr _ (List.forall_mem_cons.mpr
      ⟨.scalar _ id, List.forall_mem_singleton.mpr (.scalar _ id)⟩)))
  have hreadable : nestedValue.Readable Json.maxDepth :=
    Json.readable_obj (List.forall_mem_singleton.mpr (Json.readable_arr (List.forall_mem_cons.mpr
      ⟨Json.readable_scalar (.int _ (by decide) (by decide)) id _,
        List.forall_mem_singleton.mpr (Json.readable_scalar (.str _) id _)⟩)))
  obtain ⟨-, -, -, hmember, -⟩ := hcases "\u00a0expr =a=b"
  refine ⟨(hmember "expr" (.str "a=b")).mpr ⟨by decide, by decide, "\u00a0expr ".toList, "a=b".toList,
    ⟨by decide, by decide⟩, trim_eq_iff.mp (by decide), .plain hunread⟩, by rfl, ?_⟩
  exact hwritten "a b" nestedValue (by decide) (by decide) (by decide) (by rintro c ⟨⟩; rfl)
    (by rintro c ⟨⟩; rfl) hreadable (by decide) hinOrder

end NodeTelemetry.Client
