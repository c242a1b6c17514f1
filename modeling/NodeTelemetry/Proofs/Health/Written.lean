import NodeTelemetry.Health
import NodeTelemetry.Proofs.Json.Records

/-!
# Health as it is written and read

Reports, readiness and summaries are records, so each is read from the object of its members in
whatever order these stand (`reads_report`, `reads_readiness`, `reads_summary`): every member is read
as a change of one field, and such changes do not get in the way of each other. A summary has a
report for each of its components, and these may stand in any order too, for the reader puts them in
the order of their names.

In the other direction, the fields keep what can be written: a time is an integer of 64 bits, and
components are in order. So this holds of everything that is read (`gives_report`, `gives_summary`),
be it an object or an array, and whatever other members it has.
-/

namespace NodeTelemetry.Health

open Json

/-! ### Fields -/

section Fields

variable {σ : Type} {w : Spacing} {text : Nat → Json → String} {level fuel depth : Nat}
  {ws rest : List Glyph}

/-- A status is read from the text of its name. -/
theorem status_quote (hws : Blank ws) {s : Status} (hfuel : (quote s.name).toList.length < fuel)
    (depth : Nat) (rest : List Glyph) :
    Status.read fuel depth (ws ++ (Glyph.ofString (quote s.name) ++ rest)) = .ok (s, rest) := by
  have hkey : s.name.toList.length < fuel := Nat.lt_trans (Reader.length_lt_quote s.name) hfuel
  have hword : Reader.knownWord Status.named s.name = .ok s := by
    cases s <;> rfl
  unfold Status.read Reader.oneOf
  rw [Reader.skipBlanks_blank hws, Reader.ofString_quote]
  show (Reader.textAs "variant identifier" fuel (.scalar '"' ::
    ((s.name.toList.flatMap escapeChar ++ ['"']).map .scalar ++ rest)) >>= _) = _
  have htext : Reader.textAs "variant identifier" fuel (.scalar '"' ::
      ((s.name.toList.flatMap escapeChar ++ ['"']).map .scalar ++ rest)) = .ok (s.name, rest) :=
    Reader.string_quote hkey rest
  simp only [htext, bind, Except.bind, hword]
  rfl

/-- A text that is there is read as one that may be absent. -/
theorem optional_text (hws : Blank ws) {m : String}
    (hfuel : (scalarText (.str m)).toList.length < fuel) (rest : List Glyph) :
    Reader.optional (Reader.text fuel) (ws ++ (Glyph.ofString (scalarText (.str m)) ++ rest)) =
      .ok (some m, rest) := by
  have htext := Reader.text_scalarText (List.forall_mem_nil _) hfuel rest
  have hquote : Glyph.ofString (scalarText (.str m)) ++ rest =
      .scalar '"' :: ((m.toList.flatMap escapeChar ++ ['"']).map .scalar ++ rest) := by
    rw [show scalarText (.str m) = quote m from rfl, Reader.ofString_quote]
    rfl
  rw [List.nil_append, hquote] at htext
  unfold Reader.optional
  rw [Reader.skipBlanks_blank hws, hquote]
  show (Reader.text fuel _ >>= _) = _
  rw [htext]
  rfl

/-- A truth value is read from its text. -/
theorem boolean_text (hws : Blank ws) (b : Bool) (rest : List Glyph) :
    Reader.boolean (ws ++ (Glyph.ofString (scalarText (.bool b)) ++ rest)) = .ok (b, rest) := by
  unfold Reader.boolean
  rw [Reader.skipBlanks_blank hws]
  cases b <;> rfl

/-- An integer of 64 bits is read from its text. -/
theorem integer_text (hws : Blank ws) {i : Int} (hlow : -((Text.maxInteger : Int) + 1) ≤ i)
    (hhigh : i ≤ Text.maxInteger) (hrest : Reader.Stops rest) :
    Reader.integer (ws ++ (Glyph.ofString (scalarText (.int i)) ++ rest)) = .ok (i, rest) := by
  have hword : i ≤ Text.maxWord := by
    unfold Text.maxInteger at hhigh
    unfold Text.maxWord
    omega
  refine Reader.numberAs_number hws (v := .int i) ?_ (if_neg (not_lt.mpr hhigh))
  rw [show scalarText (.int i) = String.ofList (Text.signed i) from rfl, Glyph.ofString_ofList]
  exact Reader.number_int hlow hword hrest

variable (h : Lays w text)

include h

/-- The field of a status takes each. -/
theorem fieldReads_status {f : RecordField σ} (set : Status → σ → σ)
    (hf : f.read = fun fuel depth gs => do
      let (s, rest) ← Status.read fuel depth gs
      return (set s, rest))
    (level depth : Nat) (s : Status) (hfuel : (text level s.toJson).toList.length < fuel) :
    Schema.FieldReads w (text level) fuel depth f s.toJson (· = set s) := by
  have htext : text level s.toJson = quote s.name := h.scalar level _ id
  rw [htext] at hfuel
  refine Schema.fieldReads_of Status.read set hf fun rest _ => ?_
  rw [htext]
  exact status_quote w.blank_colon hfuel depth rest

/-- The field of a text that may be absent takes a text that is there. -/
theorem fieldReads_text (level depth : Nat) {name : String} {set : Option String → σ → σ}
    (m : String) (hfuel : (text level (.str m)).toList.length < fuel) :
    Schema.FieldReads w (text level) fuel depth (optionalTextField name set) (.str m)
      (· = set (some m)) := by
  have htext : text level (.str m) = scalarText (.str m) := h.scalar level _ id
  rw [htext] at hfuel
  refine Schema.fieldReads_of (fun fuel _ => Reader.optional (Reader.text fuel)) set rfl
    fun rest _ => ?_
  rw [htext]
  exact optional_text w.blank_colon hfuel rest

end Fields

/-! ### Reports and readiness -/

/-- A report whose time is an integer of 64 bits. -/
def Report.Writable (r : Report) : Prop :=
  -((Text.maxInteger : Int) + 1) ≤ r.checked ∧ r.checked ≤ Text.maxInteger

instance (r : Report) : Decidable r.Writable := inferInstanceAs (Decidable (_ ∧ _))

/-- The members of a report have a name each. -/
theorem Report.nodup_names_members (r : Report) : (Keyed.names r.members).Nodup := by
  obtain ⟨status, message, checked⟩ := r
  cases message with
  | none =>
    show ["status", "last_check_timestamp"].Nodup
    decide
  | some m =>
    show ["status", "message", "last_check_timestamp"].Nodup
    decide

/-- The members of readiness, in the order of the fields. -/
def Readiness.members (r : Readiness) : List (String × Json) :=
  ("ready", .bool r.ready) :: optionalText "reason" r.reason

section Records

variable {w : Spacing} {text : Nat → Json → String} {fuel : Nat} (h : Lays w text)

include h

theorem changes_status (level depth : Nat) (s : Status)
    (hfuel : (text level s.toJson).toList.length < fuel) :
    Report.schema.Changes w (text level) fuel depth ("status", s.toJson)
      (· = fun r : Report => { r with status := s }) :=
  ⟨_, List.mem_cons_self, rfl,
    fieldReads_status h (fun a (r : Report) => { r with status := a }) rfl level depth s hfuel⟩

theorem changes_checked (level depth : Nat) {r : Report} (hr : r.Writable) :
    Report.schema.Changes w (text level) fuel depth ("last_check_timestamp", .int r.checked)
      (· = fun a : Report => { a with checked := r.checked }) := by
  refine ⟨_, List.mem_cons_of_mem _ (List.mem_cons_of_mem _ List.mem_cons_self), rfl,
    Schema.fieldReads_of (fun _ _ => Reader.integer)
      (fun i (a : Report) => { a with checked := i }) rfl fun rest hrest => ?_⟩
  rw [show text level (.int r.checked) = scalarText (.int r.checked) from h.scalar level _ id]
  exact integer_text w.blank_colon hr.1 hr.2 hrest

/-- **A report is read from the object of its members**, in whatever order these stand. -/
theorem reads_report (level depth : Nat) {r : Report} (hr : r.Writable)
    {ms : List (String × Json)} (hms : ms.Perm r.members)
    (hfuel : (text level (.obj ms)).toList.length < fuel) :
    Reader.Reads (Report.schema.read fuel (depth + 1)) (Glyph.ofString (text level (.obj ms))) r := by
  have hdistinct : Report.schema.Distinct := by decide
  obtain ⟨status, message, checked⟩ := r
  cases message with
  | none =>
    refine Schema.reads_obj h hdistinct level depth (.cons (changes_status h _ _ status)
      (.cons (fun _ => changes_checked h _ _ hr) .nil))
      (Report.nodup_names_members ⟨status, none, checked⟩) ?_ (by simp) hms hfuel
    show Report.schema.Complete ["status", "last_check_timestamp"]
    decide
  | some m =>
    have hmessage : (text (level + 1) (.str m)).toList.length < fuel →
        Report.schema.Changes w (text (level + 1)) fuel depth ("message", .str m)
          (· = fun r : Report => { r with message := some m }) := fun hfuel =>
      ⟨_, List.mem_cons_of_mem _ List.mem_cons_self, rfl, fieldReads_text h _ _ m hfuel⟩
    refine Schema.reads_obj h hdistinct level depth (.cons (changes_status h _ _ status)
      (.cons hmessage (.cons (fun _ => changes_checked h _ _ hr) .nil)))
      (Report.nodup_names_members ⟨status, some m, checked⟩) ?_ (by simp) hms hfuel
    show Report.schema.Complete ["status", "message", "last_check_timestamp"]
    decide

/-- **Readiness is read from the object of its members**, in whatever order these stand. -/
theorem reads_readiness (level depth : Nat) {r : Readiness} {ms : List (String × Json)}
    (hms : ms.Perm r.members) (hfuel : (text level (.obj ms)).toList.length < fuel) :
    Reader.Reads (Readiness.schema.read fuel (depth + 1)) (Glyph.ofString (text level (.obj ms)))
      r := by
  have hdistinct : Readiness.schema.Distinct := by decide
  obtain ⟨ready, reason⟩ := r
  have hready : Readiness.schema.Changes w (text (level + 1)) fuel depth ("ready", .bool ready)
      (· = fun r : Readiness => { r with ready := ready }) := by
    refine ⟨_, List.mem_cons_self, rfl,
      Schema.fieldReads_of (fun _ _ => Reader.boolean)
        (fun b (r : Readiness) => { r with ready := b }) rfl fun rest _ => ?_⟩
    rw [show text (level + 1) (.bool ready) = scalarText (.bool ready) from h.scalar _ _ id]
    exact boolean_text w.blank_colon ready rest
  cases reason with
  | none =>
    refine Schema.reads_obj h hdistinct level depth (.cons (fun _ => hready) .nil) ?_ ?_ (by simp)
      hms hfuel
    · show ["ready"].Nodup
      decide
    · show Readiness.schema.Complete ["ready"]
      decide
  | some m =>
    have hreason : (text (level + 1) (.str m)).toList.length < fuel →
        Readiness.schema.Changes w (text (level + 1)) fuel depth ("reason", .str m)
          (· = fun r : Readiness => { r with reason := some m }) := fun hfuel =>
      ⟨_, List.mem_cons_of_mem _ List.mem_cons_self, rfl, fieldReads_text h _ _ m hfuel⟩
    refine Schema.reads_obj h hdistinct level depth (.cons (fun _ => hready) (.cons hreason .nil))
      ?_ ?_ (by simp) hms hfuel
    · show ["ready", "reason"].Nodup
      decide
    · show Readiness.schema.Complete ["ready", "reason"]
      decide

end Records

/-! ### Summaries -/

/-- A summary whose components are in the order of their names, with reports that can be written. -/
structure Summary.Writable (s : Summary) : Prop where
  /-- The names ascend. -/
  sorted : Keyed.Sorted s.components
  /-- The reports can be written. -/
  reports : ∀ c ∈ s.components, c.2.Writable

/-- The members of a summary and of its reports, in the order of the fields. -/
def Summary.members (s : Summary) : List (String × Json) :=
  [("status", s.status.toJson), ("components", .obj (s.components.map fun c => (c.1, c.2.toJson)))]

section Summaries

variable {w : Spacing} {text : Nat → Json → String} {fuel : Nat} (h : Lays w text)
  {object : Report → Json} (hobject : ∀ r, ∃ ms, ms.Perm r.members ∧ object r = .obj ms)

include h hobject

/-- Components are read from the object of their reports, in whatever order they stand. -/
theorem keyedOf_reports (level depth : Nat) {cs : List (String × Report)}
    (hcs : ∀ c ∈ cs, c.2.Writable)
    (hfuel : (text level (.obj (cs.map fun c => (c.1, object c.2)))).toList.length < fuel)
    (rest : List Glyph) :
    Reader.keyedOf fuel (Report.schema.read fuel) (depth + 2)
      (Glyph.ofString (text level (.obj (cs.map fun c => (c.1, object c.2)))) ++ rest) =
        .ok (Keyed.ofList cs, rest) := by
  obtain ⟨ns, hns, hread⟩ := Reader.keyedOf_obj (q := fun r a => a = r) h
    (Report.schema.read_blank w.blank_colon fuel (depth + 1)) level hfuel (fun c hc hshort => by
      obtain ⟨ms, hms, hobj⟩ := hobject c.2
      rw [hobj] at hshort ⊢
      exact (reads_report h (level + 1) depth (hcs c hc) hms hshort).readsIf trivial rfl) rest
  have hsame : List.Forall₂ Eq cs ns := hns.imp fun c n hcn => Prod.ext hcn.1.symm hcn.2.symm
  rw [List.forall₂_eq_eq_eq] at hsame
  rw [hread, hsame]

/-- **A summary is read from the object of its members**, in whatever order these, its components and
the members of each report stand. -/
theorem reads_summary (level depth : Nat) {s : Summary} (hs : s.Writable)
    {cs : List (String × Report)} (hcs : cs.Perm s.components) {ms : List (String × Json)}
    (hms : ms.Perm [("status", s.status.toJson),
      ("components", .obj (cs.map fun c => (c.1, object c.2)))])
    (hfuel : (text level (.obj ms)).toList.length < fuel) :
    Reader.Reads (Summary.schema.read fuel (depth + 3)) (Glyph.ofString (text level (.obj ms)))
      s := by
  have hdistinct : Summary.schema.Distinct := by decide
  obtain ⟨status, components⟩ := s
  have hstatus : (text (level + 1) status.toJson).toList.length < fuel →
      Summary.schema.Changes w (text (level + 1)) fuel (depth + 2) ("status", status.toJson)
        (· = fun s : Summary => { s with status := status }) := fun hfuel =>
    ⟨_, List.mem_cons_self, rfl,
      fieldReads_status h (fun a (s : Summary) => { s with status := a }) rfl _ _ status hfuel⟩
  have hcomponents :
      (text (level + 1) (.obj (cs.map fun c => (c.1, object c.2)))).toList.length < fuel →
      Summary.schema.Changes w (text (level + 1)) fuel (depth + 2)
        ("components", .obj (cs.map fun c => (c.1, object c.2)))
        (· = fun s : Summary => { s with components := components }) := by
    refine fun hfuel => ⟨_, List.mem_cons_of_mem _ List.mem_cons_self, rfl,
      Schema.fieldReads_of (fun fuel depth => Reader.keyedOf fuel (Report.schema.read fuel) depth)
        (fun a (s : Summary) => { s with components := a }) rfl fun rest _ => ?_⟩
    have hreports : ∀ c ∈ cs, c.2.Writable := fun c hc => hs.reports c (hcs.mem_iff.mp hc)
    rw [Reader.keyedOf_blank w.blank_colon, keyedOf_reports h hobject _ _ hreports hfuel,
      hs.sorted.ofList_eq_of_perm hcs]
  refine Schema.reads_obj h hdistinct level (depth + 2) (.cons hstatus (.cons hcomponents .nil))
    ?_ ?_ (by simp) hms hfuel
  · show ["status", "components"].Nodup
    decide
  · show Summary.schema.Complete ["status", "components"]
    decide

end Summaries

/-! ### What is read -/

/-- **A report that is read can be written.** -/
theorem gives_report (fuel depth : Nat) (gs : List Glyph) :
    Gives Report.Writable (Report.schema.read fuel depth gs) := by
  have hblank : Report.schema.blank.Writable := by decide
  refine Schema.gives_read (List.forall_mem_cons.mpr ⟨fun fuel depth gs => ?_,
    List.forall_mem_cons.mpr ⟨fun fuel depth gs => ?_,
      List.forall_mem_singleton.mpr fun fuel depth gs => ?_⟩⟩) hblank fuel depth gs
  · exact Reader.gives_bind fun _ rest => Reader.gives_ok (fun _ hr => hr) rest
  · exact Reader.gives_bind fun _ rest => Reader.gives_ok (fun _ hr => hr) rest
  · exact Reader.gives_bind_of (Reader.gives_integer gs) fun _ rest hi =>
      Reader.gives_ok (fun _ _ => hi) rest

/-- **A summary that is read can be written.** -/
theorem gives_summary (fuel depth : Nat) (gs : List Glyph) :
    Gives Summary.Writable (Summary.schema.read fuel depth gs) := by
  have hblank : Summary.schema.blank.Writable := ⟨.nil, List.forall_mem_nil _⟩
  refine Schema.gives_read (List.forall_mem_cons.mpr ⟨fun fuel depth gs => ?_,
    List.forall_mem_singleton.mpr fun fuel depth gs => ?_⟩) hblank fuel depth gs
  · exact Reader.gives_bind fun _ rest => Reader.gives_ok (fun _ hs => ⟨hs.sorted, hs.reports⟩) rest
  · exact Reader.gives_bind_of (Reader.gives_keyedOf (gives_report fuel) fuel depth gs)
      fun _ rest hm => Reader.gives_ok (fun _ _ => ⟨hm.1, hm.2⟩) rest

/-! ### Texts -/

/-- A report that can be written is read from its compact text. -/
theorem readText_report {r : Report} (hr : r.Writable) :
    Report.schema.readText (Glyph.ofString r.toJson.compact) = .ok r :=
  Schema.readText_of_reads
    (reads_report lays_compact 0 (maxDepth - 1) hr (.refl _) (lt_fuelFor _))

/-- **The reports that are read from some text are those that can be written.** -/
theorem exists_readText_report {r : Report} :
    (∃ text, Report.schema.readText text = .ok r) ↔ r.Writable := by
  refine ⟨?_, fun hr => ⟨_, readText_report hr⟩⟩
  rintro ⟨text, hread⟩
  exact of_readWhole (fun fuel => gives_report fuel maxDepth) hread

/-- **Readiness is read from its compact text.** -/
theorem readText_readiness (r : Readiness) :
    Readiness.schema.readText (Glyph.ofString r.toJson.compact) = .ok r :=
  Schema.readText_of_reads
    (reads_readiness lays_compact 0 (maxDepth - 1) (.refl _) (lt_fuelFor _))

/-- A summary that can be written is read from its compact text, be its members in the order of
their names or in that of the fields. -/
theorem readText_summary {s : Summary} (hs : s.Writable) :
    Summary.schema.readText (Glyph.ofString s.toJson.compact) = .ok s ∧
      Summary.schema.readText (Glyph.ofString (Json.obj s.members).compact) = .ok s := by
  have hsorted : ∀ r : Report, ∃ ms, ms.Perm r.members ∧ Json.ofMembers r.members = .obj ms :=
    fun r => ⟨_, Keyed.perm_ofList r.nodup_names_members, rfl⟩
  constructor
  · exact Schema.readText_of_reads (reads_summary lays_compact hsorted 0 (maxDepth - 3) hs (.refl _)
      (.swap _ _ _) (lt_fuelFor _))
  · exact Schema.readText_of_reads (reads_summary lays_compact (fun r => ⟨_, .refl _, rfl⟩) 0
      (maxDepth - 3) hs (.refl _) (.refl _) (lt_fuelFor _))

/-- **The summaries that are read from some text are those that can be written.** -/
theorem exists_readText_summary {s : Summary} :
    (∃ text, Summary.schema.readText text = .ok s) ↔ s.Writable := by
  refine ⟨?_, fun hs => ⟨_, (readText_summary hs).1⟩⟩
  rintro ⟨text, hread⟩
  exact of_readWhole (fun fuel => gives_summary fuel maxDepth) hread

end NodeTelemetry.Health
