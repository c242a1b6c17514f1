import NodeTelemetry.Client.Session
import NodeTelemetry.Proofs.Json.RoundTrip
import NodeTelemetry.Proofs.Service.Kept
import NodeTelemetry.Proofs.Text.Utf8

/-!
# Whether the history of events can be read

The client reads the answer to a request for the events as one list. In it each event stands one level
deeper than in the post that brought it, and both readers have the same limit. So the history can be
read if and only if every kept event leaves one level free (`history_readable_iff`). Nothing else in
an accepted event can spoil it: no string, no name and no number. An event that uses all levels is
accepted nonetheless, and then no event can be read until it is evicted.
-/

namespace NodeTelemetry

namespace Client

open Json in
/-- A list is read from the text whose bytes arrive, in whatever pieces. -/
theorem readList_text {α : Type} (item : (fuel depth : Nat) → Reader α) {body : String}
    {pieces : List (List UInt8)} (h : pieces.flatten = Utf8.ofString body) :
    readList item ⟨200, some "application/json", pieces, false⟩ =
      (readWhole (fun fuel => Reader.listOf fuel (item fuel) maxDepth)
        (Glyph.ofString body)).mapError .unreadable := by
  rw [← Utf8.decode_ofString, ← h]
  rfl

open Json in
/-- A list of values is read from the answer that shows them if and only if each leaves one level
free. -/
theorem readList_compact {vs : List Json} (hsound : ∀ v ∈ vs, v.Sound)
    {pieces : List (List UInt8)} (hpieces : pieces.flatten = Utf8.ofString (arr vs).compact) :
    ((∀ v ∈ vs, v.Within (maxDepth - 1)) → ∃ us, List.Forall₂ Reader.Rereads vs us ∧
      readList Reader.value ⟨200, some "application/json", pieces, false⟩ = .ok us) ∧
    (¬(∀ v ∈ vs, v.Within (maxDepth - 1)) → ∃ place,
      readList Reader.value ⟨200, some "application/json", pieces, false⟩ =
        .error (.unreadable ⟨.recursionLimit, place⟩)) := by
  obtain ⟨hok, herror⟩ :=
    Reader.listOf_text lays_compact hsound 0 (maxDepth - 1) (lt_fuelFor (arr vs).compact)
  rw [readList_text _ hpieces]
  unfold readWhole
  constructor
  · intro hwithin
    obtain ⟨us, hrereads, hus⟩ := hok hwithin
    refine ⟨us, hrereads, ?_⟩
    change Reader.listOf _ _ maxDepth _ = _ at hus
    dsimp only
    rw [hus]
    rfl
  · intro hwithin
    obtain ⟨e, he⟩ := herror hwithin
    change Reader.listOf _ _ maxDepth _ = _ at he
    dsimp only
    rw [he]
    exact ⟨_, rfl⟩

/-- The answer to a request for the events is the compact array of their flat objects. -/
theorem respond_events (s : Service) (now : Time.Instant) {r : Service.Request}
    (h : Service.AsksForEvents r) :
    (s.respond now .query r).response =
      ⟨200, [("content-type", "application/json")],
        .text (Json.arr (s.store.events.entries.map Event.toJson)).compact⟩ := by
  rw [Service.respond_asksForEvents s now h, Json.compact_arr, List.map_map]
  congr 5
  exact List.map_congr_left fun e _ => e.compact_toJson.symm

/-- **The kept events can be read if and only if each of them leaves one level free.** After any run of
a service whose event history was empty, whatever its capacity:

* every kept event has at most as many levels as a text may have, 127;
* a request for the events is answered by one text, and the client reads it, in whatever pieces it
  arrives, as a list of as many values as there are events, if each event has at most 126 levels;
* if one has more, the client gives up for the depth, whatever the other events are. -/
theorem history_readable_iff (s : Service) (capacity : Nat)
    (h : s.store.events = .empty capacity) (as : List Service.Action) :
    (∀ e ∈ (s.run as).store.events.entries, e.toJson.Within Json.maxDepth) ∧
    ∀ now r, Service.AsksForEvents r → ∃ body,
      ((s.run as).respond now .query r).response =
        ⟨200, [("content-type", "application/json")], .text body⟩ ∧
      ∀ pieces : List (List UInt8), pieces.flatten = Utf8.ofString body →
        ((∀ e ∈ (s.run as).store.events.entries, e.toJson.Within (Json.maxDepth - 1)) →
          ∃ vs, vs.length = (s.run as).store.events.entries.length ∧
            readList Json.Reader.value ⟨200, some "application/json", pieces, false⟩ = .ok vs) ∧
        (¬(∀ e ∈ (s.run as).store.events.entries, e.toJson.Within (Json.maxDepth - 1)) →
          ∃ place, readList Json.Reader.value ⟨200, some "application/json", pieces, false⟩ =
            .error (.unreadable ⟨.recursionLimit, place⟩)) := by
  have hposted := Service.posted_of_mem_entries h as
  refine ⟨fun e he => (hposted e he).readable.2, fun now r hr =>
    ⟨_, respond_events _ now hr, ?_⟩⟩
  intro pieces hpieces
  obtain ⟨hok, herror⟩ := readList_compact
    (List.forall_mem_map.mpr fun e he => (hposted e he).readable.1) hpieces
  rw [List.forall_mem_map] at hok herror
  refine ⟨fun hwithin => ?_, herror⟩
  obtain ⟨us, hrereads, hus⟩ := hok hwithin
  exact ⟨us, hrereads.length_eq.symm.trans (List.length_map _), hus⟩

/-- A body with so many levels of square brackets below the curly ones. -/
def nestedBody (levels : Nat) : List UInt8 :=
  Utf8.ofString "\x7b\"type\":\"x\",\"ts\":1,\"a\":" ++ List.replicate levels 0x5B ++
    List.replicate levels 0x5D ++ [0x7D]

/-- A service with room for one event, after posts of nested bodies. -/
def afterNested (levels : List Nat) : Service :=
  (Service.start "node" (.empty 1) 1000).run
    (levels.map fun n => .request ⟨0, 0⟩ .ingest ⟨"POST", "/events", nestedBody n⟩ .left)

/-- A request for the events. -/
def eventsRequest : Service.Request := ⟨"GET", "/history?scope=events", []⟩

/-- An event of 127 levels is accepted and makes the history unreadable, until another one takes its
place. -/
theorem history_readable_iff_nested :
    (Service.start "node" (.empty 1) 1000).store.events = .empty 1 ∧
    ((Service.start "node" (.empty 1) 1000).respond ⟨0, 0⟩ .ingest
      ⟨"POST", "/events", nestedBody 126⟩).response.status = 204 ∧
    (∃ body,
      ((afterNested [126]).respond ⟨0, 0⟩ .query eventsRequest).response =
        ⟨200, [("content-type", "application/json")], .text body⟩ ∧
      ∃ place, readList Json.Reader.value
        ⟨200, some "application/json", [Utf8.ofString body], false⟩ =
          .error (.unreadable ⟨.recursionLimit, place⟩)) ∧
    ∃ body,
      ((afterNested [126, 125]).respond ⟨0, 0⟩ .query eventsRequest).response =
        ⟨200, [("content-type", "application/json")], .text body⟩ ∧
      ∃ v, readList Json.Reader.value
        ⟨200, some "application/json", [Utf8.ofString body], false⟩ = .ok [v] := by
  have hasks : Service.AsksForEvents eventsRequest := by decide
  have hdeep : ¬∀ e ∈ (afterNested [126]).store.events.entries,
      e.toJson.Within (Json.maxDepth - 1) := by decide +kernel
  have hshallow : (∀ e ∈ (afterNested [126, 125]).store.events.entries,
      e.toJson.Within (Json.maxDepth - 1)) ∧
        (afterNested [126, 125]).store.events.entries.length = 1 := by decide +kernel
  unfold afterNested at hdeep hshallow ⊢
  refine ⟨rfl, by decide +kernel, ?_, ?_⟩
  · obtain ⟨-, hread⟩ := history_readable_iff (Service.start "node" (.empty 1) 1000) 1 rfl
      _
    obtain ⟨body, hbody, hpieces⟩ := hread ⟨0, 0⟩ eventsRequest hasks
    exact ⟨body, hbody, (hpieces [Utf8.ofString body] List.flatten_singleton).2 hdeep⟩
  · obtain ⟨-, hread⟩ := history_readable_iff (Service.start "node" (.empty 1) 1000) 1 rfl
      _
    obtain ⟨body, hbody, hpieces⟩ := hread ⟨0, 0⟩ eventsRequest hasks
    obtain ⟨vs, hlength, hvs⟩ := (hpieces [Utf8.ofString body] List.flatten_singleton).1 hshallow.1
    obtain ⟨v, rfl⟩ := List.length_eq_one_iff.mp (hlength.trans hshallow.2)
    exact ⟨body, hbody, v, hvs⟩

end Client

end NodeTelemetry
