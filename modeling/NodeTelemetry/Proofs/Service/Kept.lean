import NodeTelemetry.Proofs.Json.Ordered
import NodeTelemetry.Proofs.Service.Ingest

/-!
# What a kept event is like

Every event that is kept was posted, so it is made of values that were read. Its numbers have 64 bits,
it is nested at most as deep as a text may be, its parts are in the order of their names, and its
members are those of the object that was posted (`Event.Posted`).
-/

namespace NodeTelemetry

/-- An event has what every event has that a body brings. -/
structure Event.Posted (e : Event) : Prop where
  /-- The event has numbers of 64 bits, and at most as many levels as a text may have. -/
  readable : e.toJson.Readable Json.maxDepth
  /-- The values of its members are in the order of their names. -/
  inOrder : ∀ m ∈ e.members, m.2.InOrder
  /-- Its members are those of some object. -/
  readFrom : ∃ now pairs, e.ReadFrom now pairs

/-- The flat object is what is written, in the order of the names. -/
theorem Event.Posted.ordered_toJson {e : Event} (h : e.Posted) : e.toJson.ordered = e.object := by
  show (Json.obj e.members).ordered = _
  rw [Json.ordered_obj, Json.map_ordered_eq h.inOrder]
  rfl

theorem Event.Posted.plain {e : Event} (h : e.Posted) : e.Plain := by
  obtain ⟨now, pairs, hread⟩ := h.readFrom
  exact hread.plain

/-- An event has it that is made of a value in order with no more levels than a text may have. -/
theorem Event.posted_of_ofValue {now : Time.Instant} {v : Json} {e : Event} (hinOrder : v.InOrder)
    (hreadable : v.Readable Json.maxDepth) (h : ofValue now v = .ok e) : e.Posted := by
  obtain ⟨ms, rfl, -⟩ := mem_of_ofValue h
  exact ⟨Json.readable_obj
      (forall_members_of_ofValue h hreadable.members (Json.readable_scalar (.str _) id _)),
    forall_members_of_ofValue h hinOrder.members (.scalar _ id),
    ⟨now, ms, readFrom_of_sorted hinOrder.sorted h⟩⟩

namespace Service

theorem posted_of_postedEvent {now : Time.Instant} {body : List UInt8} {e : Event}
    (h : postedEvent now body = .ok e) : e.Posted := by
  obtain ⟨v, hread, hvalue⟩ := read_of_postedEvent h
  exact Event.posted_of_ofValue (Json.inOrder_of_read hread) (Json.readable_of_read hread) hvalue

theorem posted_of_event? {a : Action} {e : Event} (h : a.event? = some e) : e.Posted := by
  cases a with
  | request now surface r opening =>
    unfold Action.event? at h
    dsimp only at h
    split at h
    · cases hposted : postedEvent now r.body with
      | error f =>
        rw [hposted] at h
        cases h
      | ok e' =>
        rw [hposted] at h
        cases h
        exact posted_of_postedEvent hposted
    · cases h
  | effect | sample | health | advance | receive | disconnect | wait | pump | take => cases h

/-- **Every event that is kept after a run was posted.** -/
theorem posted_of_mem_entries {s : Service} {capacity : Nat}
    (h : s.store.events = .empty capacity) (as : List Action) :
    ∀ e ∈ (s.run as).store.events.entries, e.Posted := by
  intro e he
  rw [events_run, h, History.entries_appendAll_empty] at he
  obtain ⟨a, -, ha⟩ := List.mem_filterMap.mp (List.mem_of_mem_drop he)
  exact posted_of_event? ha

end Service

end NodeTelemetry
