import NodeTelemetry.Client.Session
import NodeTelemetry.Proofs.Client.Stamps
import NodeTelemetry.Proofs.Event.Written
import NodeTelemetry.Proofs.Service.Kept

/-!
# The row of an event

Both ends take an object apart into a kind, a time and the rest. The collector does it once, when the
object is posted: it removes the two names one after the other and keeps what is left
(`Event.ofValue`). The client has the flat object that the collector wrote. It looks the two names up
and leaves both out in one pass (`EventRow.ofValue`). This module proves that the two agree, whatever
the values are (`row_shows_event`).

What a row says of an object depends on the values of the two names and on what is left without them
(`EventRow.ofValue_obj`). For the flat object of a plain event these are its kind, its time and its
other members (`EventRow.shows_object`).

## The model

That a row agrees with an event is told cell by cell, by the event alone (`EventRow.Shows`). That no
member is lost and none is shown twice is told of the object: its members are those of the three
cells, in some order, and each has a name of its own.
-/

namespace NodeTelemetry

namespace Event.Posted

variable {e : Event}

/-- The text of an event is read as its flat object. -/
theorem read_toJson (h : e.Posted) (hfree : e.toJson.RealFree) :
    Json.read (Glyph.ofString e.toJson.compact) = .ok e.object := by
  rw [← h.ordered_toJson]
  exact Json.read_compact h.readable hfree

/-- The text of the other members is read as these. -/
theorem read_fields (h : e.Posted) (hfree : e.toJson.RealFree) :
    Json.read (Glyph.ofString (Json.obj e.fields).compact) = .ok (.obj e.fields) := by
  have hmembers : e.fields ⊆ e.members := fun _ hm =>
    List.mem_cons_of_mem _ (List.mem_cons_of_mem _ hm)
  have hinOrder : (Json.obj e.fields).InOrder :=
    .obj _ h.plain.sorted fun m hm => h.inOrder m (hmembers hm)
  have hreadable : (Json.obj e.fields).Readable Json.maxDepth :=
    Json.readable_obj fun m hm => h.readable.members m (hmembers hm)
  have hfields : (Json.obj e.fields).RealFree :=
    .obj _ fun m hm => Json.realFree_obj.mp hfree m (hmembers hm)
  rw [Json.read_compact hreadable hfields, hinOrder.ordered_eq]

end Event.Posted

namespace Client

open Event (kindName timeName)

/-- A row without colours shows an event. -/
structure EventRow.Shows (row : EventRow) (e : Event) : Prop where
  /-- The kind is the label that the collector gives it. -/
  kind : row.kind = e.kindLabel
  /-- A time that is a string is shown as a timestamp. -/
  stamp : ∀ s, e.time = .str s → row.time = timeText s
  /-- Any other time is shown as JSON. -/
  time : (∀ s, e.time ≠ .str s) → row.time = e.time.compact
  /-- The other members are shown as the compact text of their object. -/
  fields : row.fields = (Json.obj e.fields).compact
  /-- In it each of them stands once. -/
  entries : row.fields = "\x7b" ++ ",".intercalate (e.fields.map Json.memberText) ++ "\x7d"
  /-- It is a pair of braces exactly if there are none. -/
  braces : row.fields = "\x7b\x7d" ↔ e.fields = []

namespace EventRow

/-- The row of an object: what its two names give, and what is left without them. One pass leaves the
same members as two removals. -/
theorem ofValue_obj (p : Palette) (ms : List (String × Json)) :
    ofValue p (.obj ms) =
      { time := memberText timeText (Keyed.find? timeName ms)
        kind := p.paint cyan (memberText id (Keyed.find? kindName ms))
        fields := (Json.obj (Event.others ms)).compact } := by
  have hothers : ms.filter (fun m => m.1 != timeName && m.1 != kindName) = Event.others ms :=
    List.filter_filter.symm
  rw [← hothers]
  rfl

/-- A value that is no string is shown as JSON, whatever is done with strings. -/
theorem memberText_of_ne_str {f : String → String} {v : Json} (h : ∀ s, v ≠ .str s) :
    memberText f (some v) = v.compact := by
  cases v with
  | str s => exact absurd rfl (h s)
  | null | bool | int | real | arr | obj => rfl

/-- Strings as they are: this is the label of a value. -/
theorem memberText_id (v : Json) : memberText id (some v) = v.label := by
  cases v with
  | null | bool | int | real | str | arr | obj => rfl

/-- The row of an object shows an event if the object has what the event says. -/
theorem shows_of_members {ms : List (String × Json)} {e : Event}
    (hkind : Keyed.find? kindName ms = some e.kind) (htime : Keyed.find? timeName ms = some e.time)
    (hothers : Event.others ms = e.fields) : (ofValue ⟨false⟩ (.obj ms)).Shows e where
  kind := by
    rw [ofValue_obj, hkind]
    exact memberText_id e.kind
  stamp s hs := time_ofValue ⟨false⟩ (htime.trans (congrArg some hs))
  time hne := by
    rw [ofValue_obj, htime]
    exact memberText_of_ne_str hne
  fields := by rw [ofValue_obj, hothers]
  entries := by rw [ofValue_obj, hothers, Json.compact_obj]
  braces := by
    rw [ofValue_obj, hothers]
    exact Json.compact_obj_eq_braces

/-- **The row of the flat object of a plain event shows the event.** -/
theorem shows_object {e : Event} (h : e.Plain) : (ofValue ⟨false⟩ e.object).Shows e :=
  shows_of_members (h.find?_ofList_members kindName) (h.find?_ofList_members timeName)
    h.others_ofList_members

end EventRow

/-- A frame that can be read is shown as the row of its value. -/
theorem showFrame_of_read (p : Palette) {data : String} {v : Json}
    (h : Json.read (Glyph.ofString data) = .ok v) :
    showFrame p .table .events data = .ok (EventRow.ofValue p v).line := by
  unfold showFrame
  dsimp only
  rw [h]

/-- **The row of an event is what the collector says of it.** Let the objects of a value have their
members in the order of their names, as those of all values have that are read, and let the value be
taken as an event. The members of the flat object that is written for the event are its kind, its
time and its other members, each once and under a name of its own. The row that the client makes of
this object, without colours, shows just these, each in its cell: the kind by the label that the
collector gives it, the time as a timestamp if it is a string and else as JSON, and the other members
as the compact text of their object. If what was posted can be read from a text and has no real
numbers, this is the row that the client shows for the text of the event, and the text in its last
cell reads as the other members. -/
theorem row_shows_event (now : Time.Instant) {v : Json} (hv : v.InOrder) {e : Event}
    (h : Event.ofValue now v = .ok e) :
    (∃ ms, e.object = .obj ms ∧ (Keyed.names ms).Nodup ∧
      ms.Perm ((kindName, e.kind) :: (timeName, e.time) :: e.fields)) ∧
    (EventRow.ofValue ⟨false⟩ e.object).Shows e ∧
    (v.Readable Json.maxDepth → v.RealFree →
      showFrame ⟨false⟩ .table .events e.toJson.compact =
          .ok (EventRow.ofValue ⟨false⟩ e.object).line ∧
        Json.read (Glyph.ofString (EventRow.ofValue ⟨false⟩ e.object).fields) =
          .ok (.obj e.fields)) := by
  obtain ⟨ms, rfl, -⟩ := Event.mem_of_ofValue h
  have hplain := (Event.readFrom_of_sorted hv.sorted h).plain
  have hshows := EventRow.shows_object hplain
  refine ⟨⟨_, rfl, (Keyed.sorted_ofList _).nodup_names,
    Keyed.perm_ofList hplain.nodup_names_members⟩, hshows, fun hreadable hfree => ?_⟩
  have hposted := Event.posted_of_ofValue hv hreadable h
  have hreals : e.toJson.RealFree :=
    .obj _ (Event.forall_members_of_ofValue h (Json.realFree_obj.mp hfree) (.str _))
  refine ⟨showFrame_of_read _ (hposted.read_toJson hreals), ?_⟩
  rw [hshows.fields]
  exact hposted.read_fields hreals

/-- An object whose kind and time are no strings. One of its members has members of these names. -/
def nestedNames : Keyed Json :=
  [("a", .obj [("ts", .str "x"), ("type", .int 1)]), ("ts", .null), ("type", .arr [.str "k"]),
    ("z", .str "\"")]

/-- Only the outer names are taken out. -/
theorem row_shows_event_nested :
    (Json.obj nestedNames).InOrder ∧ (Json.obj nestedNames).Readable Json.maxDepth ∧
      (Json.obj nestedNames).RealFree ∧
      ∃ e, Event.ofValue ⟨0, 0⟩ (.obj nestedNames) = .ok e ∧ e.kindLabel = "[\"k\"]" ∧
        (EventRow.ofValue ⟨false⟩ e.object).Shows e ∧
        showFrame ⟨false⟩ .table .events e.toJson.compact =
          .ok ("null  [\"k\"]  \x7b\"a\":\x7b\"ts\":\"x\",\"type\":1\x7d,\"z\":\"\\\"\"\x7d") := by
  have hread : Json.read (Glyph.ofString (Json.obj nestedNames).compact) =
      .ok (.obj nestedNames) := by rfl
  have hinOrder := Json.inOrder_of_read hread
  have hreadable := Json.readable_of_read hread
  have hfree : (Json.obj nestedNames).RealFree := by decide
  obtain ⟨-, hshows, htext⟩ := row_shows_event ⟨0, 0⟩ hinOrder
    (e := ⟨.arr [.str "k"], .null,
      [("a", .obj [("ts", .str "x"), ("type", .int 1)]), ("z", .str "\"")]⟩) rfl
  exact ⟨hinOrder, hreadable, hfree, _, rfl, by rfl, hshows, (htext hreadable hfree).1⟩

end Client

end NodeTelemetry
