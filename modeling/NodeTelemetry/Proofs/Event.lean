import NodeTelemetry.Event
import NodeTelemetry.Proofs.Keyed

/-!
# What an event says of the members it was read from

An event is read from the members of an object, in which a name may stand several times. Its kind,
its time and its other members are each the last value of their name; only the time may be missing,
and then it is the time of arrival.

Written as one flat object, an event keeps everything: under each name the object has what the event
has (`get?_object`). All that this needs is that no other member has the name of the kind or of the
time (`Plain`).
-/

namespace NodeTelemetry.Event

/-- An event is the one that some members say, if they arrive at `now`. -/
structure ReadFrom (now : Time.Instant) (pairs : List (String × Json)) (e : Event) : Prop where
  /-- The kind is the last one given. -/
  kind : Keyed.lastOf kindName pairs = some e.kind
  /-- So is the time, if one is given. -/
  time : e.time = (Keyed.lastOf timeName pairs).getD (.str now.stamp)
  /-- All other names have the last value given, and no others have any. -/
  field? : ∀ name, e.field? name =
    if name = kindName ∨ name = timeName then none else Keyed.lastOf name pairs
  /-- The other members are in the order of their names, each name once. -/
  sorted : Keyed.Sorted e.fields

/-- An object that is read as an event gives the event that its members say. -/
theorem readFrom_of_ofValue {now : Time.Instant} {pairs : List (String × Json)} {e : Event}
    (h : ofValue now (.obj (Keyed.ofList pairs)) = .ok e) : e.ReadFrom now pairs := by
  simp only [ofValue, Keyed.find?_ofList] at h
  cases hkind : Keyed.lastOf kindName pairs with
  | none =>
    rw [hkind] at h
    cases h
  | some kind =>
    rw [hkind] at h
    cases h
    refine ⟨hkind, rfl, fun name => ?_, ((Keyed.sorted_ofList pairs).erase _).erase _⟩
    show Keyed.find? name _ = _
    by_cases htime : name = timeName
    · rw [if_pos (.inr htime), htime, Keyed.find?_erase_self]
    rw [Keyed.find?_erase_of_ne htime]
    by_cases hname : name = kindName
    · rw [if_pos (.inl hname), hname, Keyed.find?_erase_self]
    · rw [if_neg (not_or.mpr ⟨hname, htime⟩), Keyed.find?_erase_of_ne hname, Keyed.find?_ofList]

/-- An object with its members in order gives the event that they say. -/
theorem readFrom_of_sorted {now : Time.Instant} {ms : Keyed Json} {e : Event}
    (hms : Keyed.Sorted ms) (h : ofValue now (.obj ms) = .ok e) : e.ReadFrom now ms := by
  rw [← hms.ofList_eq] at h
  exact readFrom_of_ofValue h

/-! ### The flat object -/

/-- The members of an event, in the order in which they are written. -/
def members (e : Event) : List (String × Json) :=
  (kindName, e.kind) :: (timeName, e.time) :: e.fields

/-- The flat object of an event, its members in the order of their names. -/
def object (e : Event) : Json := .ofMembers e.members

/-- Each member of an event comes from the value that it is read from, but for a time of arrival. -/
theorem mem_of_ofValue {now : Time.Instant} {v : Json} {e : Event} (h : ofValue now v = .ok e) :
    ∃ ms, v = .obj ms ∧ ∀ m ∈ e.members, m ∈ ms ∨ m = (timeName, .str now.stamp) := by
  cases v with
  | obj ms =>
    refine ⟨ms, rfl, ?_⟩
    simp only [ofValue] at h
    cases hkind : Keyed.find? kindName ms with
    | none =>
      rw [hkind] at h
      cases h
    | some kind =>
      rw [hkind] at h
      cases h
      refine List.forall_mem_cons.mpr ⟨.inl (Keyed.mem_of_find? hkind),
        List.forall_mem_cons.mpr ⟨?_, fun m hm => ?_⟩⟩
      · show (timeName, (Keyed.find? timeName ms).getD (.str now.stamp)) ∈ ms ∨ _
        cases htime : Keyed.find? timeName ms with
        | none => exact .inr rfl
        | some time => exact .inl (Keyed.mem_of_find? htime)
      · exact .inl (List.mem_filter.mp (List.mem_filter.mp hm).1).1
  | null | bool | int | real | str | arr => cases h

/-- What holds of all values of an object and of a stamp holds of all members of an event. -/
theorem forall_members_of_ofValue {now : Time.Instant} {ms : List (String × Json)} {e : Event}
    {p : Json → Prop} (h : ofValue now (.obj ms) = .ok e) (hms : ∀ m ∈ ms, p m.2)
    (hstamp : p (.str now.stamp)) : ∀ m ∈ e.members, p m.2 := by
  obtain ⟨_, heq, hmem⟩ := mem_of_ofValue h
  obtain rfl := Json.obj.inj heq
  intro m hm
  rcases hmem m hm with hm | rfl
  · exact hms m hm
  · exact hstamp

/-- The other members of an event are in the order of their names, each name once, and none has the
name of the kind or of the time. -/
structure Plain (e : Event) : Prop where
  /-- The names ascend. -/
  sorted : Keyed.Sorted e.fields
  /-- None is that of the kind. -/
  kind_notMem : kindName ∉ Keyed.names e.fields
  /-- None is that of the time. -/
  time_notMem : timeName ∉ Keyed.names e.fields

namespace Plain

variable {e : Event}

theorem nodup_names_members (h : e.Plain) : (Keyed.names e.members).Nodup := by
  refine List.nodup_cons.mpr ⟨fun hmem => ?_, List.nodup_cons.mpr ⟨h.time_notMem, ?_⟩⟩
  · have hne : kindName ≠ timeName := by decide
    exact h.kind_notMem ((List.mem_cons.mp hmem).resolve_left hne)
  · exact h.sorted.nodup_names

theorem find?_members (e : Event) (name : String) :
    Keyed.find? name e.members =
      if name = kindName then some e.kind
      else if name = timeName then some e.time
      else Keyed.find? name e.fields := rfl

/-- In the order of the names, the members have the values that the event says. -/
theorem find?_ofList_members (h : e.Plain) (name : String) :
    Keyed.find? name (Keyed.ofList e.members) =
      if name = kindName then some e.kind
      else if name = timeName then some e.time
      else Keyed.find? name e.fields := by
  rw [Keyed.find?_ofList_of_nodup h.nodup_names_members, find?_members]

end Plain

theorem ReadFrom.plain {now : Time.Instant} {pairs : List (String × Json)} {e : Event}
    (h : e.ReadFrom now pairs) : e.Plain where
  sorted := h.sorted
  kind_notMem := Keyed.find?_eq_none.mp ((h.field? kindName).trans (if_pos (.inl rfl)))
  time_notMem := Keyed.find?_eq_none.mp ((h.field? timeName).trans (if_pos (.inr rfl)))

/-- The flat object has the kind, the time and the other members under their names, and no others. -/
theorem get?_object {now : Time.Instant} {pairs : List (String × Json)} {e : Event}
    (h : e.ReadFrom now pairs) (name : String) :
    e.object.get? name =
      if name = kindName then some e.kind
      else if name = timeName then some e.time
      else e.field? name := h.plain.find?_ofList_members name

end NodeTelemetry.Event
