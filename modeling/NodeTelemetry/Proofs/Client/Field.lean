import NodeTelemetry.Proofs.Client.Argument

/-!
# The event that members on the command line make

A client puts an event together from its kind and the members given as arguments, and the collector
takes it apart again. The two agree on the names that they treat specially: no argument gives a
member under the name of the kind, however its key is padded (`parseField_kindName`), and of the other
members the last one of each name arrives (`members_arrive`).
-/

namespace NodeTelemetry.Client

/-- No argument gives a member under the name of the kind. -/
theorem ne_kindName_of_parseField {raw : String} {field : String × Json}
    (h : parseField raw = .ok field) : field.1 ≠ Event.kindName := (member_iff.mp h).2.1

/-- An argument for such a member is refused, however its key is padded with white space. -/
theorem parseField_kindName {before after : List Char} (hbefore : ∀ c ∈ before, Text.isBlank c)
    (hafter : ∀ c ∈ after, Text.isBlank c) (value : List Char) :
    parseField (String.ofList (before ++ Event.kindName.toList ++ after ++ '=' :: value)) =
      .error (.reservedKey Event.kindName) := by
  have hsep : '=' ∉ before ++ Event.kindName.toList ++ after := by
    intro hmem
    rcases List.mem_append.mp hmem with hmem | hmem
    · rcases List.mem_append.mp hmem with hmem | hmem
      · exact absurd (hbefore _ hmem) (by decide)
      · exact absurd hmem (by decide)
    · exact absurd (hafter _ hmem) (by decide)
  have hkind : Text.Trimmed (before ++ Event.kindName.toList ++ after) Event.kindName.toList :=
    ⟨⟨before, after, hbefore, hafter, rfl⟩, by rintro c ⟨⟩; rfl, by rintro c ⟨⟩; rfl⟩
  exact (Gives.reserved ⟨hsep, String.toList_ofList⟩ hkind).parseField_eq

/-- **The event of a command line arrives as it was given.** Whatever the kind and the arguments are,
the collector takes the event that a client puts together. Its kind is the one given, its time is the
last one given and otherwise the time of arrival, and under every other name it has the last value
given for it, and none if there is none. An argument that names the kind is refused, with any white
space around the name. -/
theorem members_arrive (kind : String) (fields : List (String × Json))
    (hfields : ∀ field ∈ fields, ∃ raw, parseField raw = .ok field) (now : Time.Instant) :
    (∃ e, Event.ofValue now (eventBody kind fields) = .ok e ∧
      e.kind = .str kind ∧ e.kindLabel = kind ∧
      e.time = (Keyed.lastOf Event.timeName fields).getD (.str now.stamp) ∧
      Keyed.Sorted e.fields ∧
      ∀ name, e.field? name = if name = Event.timeName then none else Keyed.lastOf name fields) ∧
    ∀ before after value : List Char, (∀ c ∈ before, Text.isBlank c) →
      (∀ c ∈ after, Text.isBlank c) →
      parseField (String.ofList (before ++ Event.kindName.toList ++ after ++ '=' :: value)) =
        .error (.reservedKey Event.kindName) := by
  refine ⟨?_, fun before after value hbefore hafter => parseField_kindName hbefore hafter value⟩
  have hkind : Keyed.lastOf Event.kindName fields = none := by
    simp only [Keyed.lastOf, Option.map_eq_none_iff, List.find?_eq_none, List.mem_reverse]
    intro field hfield
    obtain ⟨raw, hraw⟩ := hfields field hfield
    simpa using (ne_kindName_of_parseField hraw).symm
  have hother : ∀ name ≠ Event.kindName,
      Keyed.find? name (Keyed.insert Event.kindName (.str kind) (Keyed.ofList fields)) =
        Keyed.lastOf name fields := fun name hname => by
    rw [Keyed.find?_insert_of_ne hname, Keyed.find?_ofList]
  have hvalue : Event.ofValue now (eventBody kind fields) =
      .ok ⟨.str kind, (Keyed.lastOf Event.timeName fields).getD (.str now.stamp),
        ((Keyed.insert Event.kindName (.str kind) (Keyed.ofList fields)).erase
          Event.kindName).erase Event.timeName⟩ := by
    show Event.ofValue now (.obj (Keyed.insert Event.kindName _ _)) = _
    simp only [Event.ofValue, Keyed.find?_insert_self, hother Event.timeName (by decide)]
  refine ⟨_, hvalue, rfl, rfl, rfl,
    (((Keyed.sorted_ofList fields).insert _ _).erase _).erase _, fun name => ?_⟩
  show Keyed.find? name _ = _
  by_cases htime : name = Event.timeName
  · rw [if_pos htime, htime, Keyed.find?_erase_self]
  · rw [if_neg htime, Keyed.find?_erase_of_ne htime]
    by_cases hname : name = Event.kindName
    · rw [hname, Keyed.find?_erase_self, hkind]
    · rw [Keyed.find?_erase_of_ne hname, hother name hname]

/-- A key given twice and a key with a space before it. -/
theorem members_arrive_padded :
    (∀ field ∈ [("pid", Json.int 7), ("ts", .str "noon"), ("pid", .null)],
      ∃ raw, parseField raw = .ok field) ∧
    ∃ e, Event.ofValue ⟨0, 0⟩
        (eventBody "oom" [("pid", .int 7), ("ts", .str "noon"), ("pid", .null)]) = .ok e ∧
      e.kind = .str "oom" ∧ e.time = .str "noon" ∧ e.field? "pid" = some .null ∧
      e.field? "type" = none := by
  have hfields : ∀ field ∈ [("pid", Json.int 7), ("ts", .str "noon"), ("pid", .null)],
      ∃ raw, parseField raw = .ok field := by
    intro field hfield
    simp only [List.mem_cons, List.not_mem_nil, or_false] at hfield
    rcases hfield with rfl | rfl | rfl
    · exact ⟨"pid=7", rfl⟩
    · exact ⟨" ts\u00a0=noon", rfl⟩
    · exact ⟨"\tpid=null", rfl⟩
  obtain ⟨⟨e, he, hkind, -, htime, -, hothers⟩, -⟩ := members_arrive "oom" _ hfields ⟨0, 0⟩
  exact ⟨hfields, e, he, hkind, htime, hothers "pid", hothers "type"⟩

end NodeTelemetry.Client
