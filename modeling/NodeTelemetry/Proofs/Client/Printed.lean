import NodeTelemetry.Proofs.Client.History

/-!
# The printed history of events

Asked for the history as JSON, the client prints what it read over several lines. On its way from the
collector's store to this text an event is written, read, perhaps left out, and written again. Read
once more, the text gives the newest of the kept events, as many as were asked for and oldest first,
each as its flat object (`history_prints_events`).
-/

namespace NodeTelemetry.Client

/-! ### The newest entries -/

theorem newest_eq_drop {α : Type} (limit : Option Nat) (as : List α) :
    newest limit as = as.drop (as.length - limit.getD as.length) := by
  cases limit with
  | none => rw [Option.getD_none, Nat.sub_self]; rfl
  | some n => rfl

theorem newest_map {α β : Type} (f : α → β) (limit : Option Nat) (as : List α) :
    newest limit (as.map f) = (newest limit as).map f := by
  rw [newest_eq_drop, newest_eq_drop, List.length_map, List.map_drop]

/-- The newest entries are the last ones. -/
theorem newest_suffix {α : Type} (limit : Option Nat) (as : List α) : newest limit as <:+ as := by
  rw [newest_eq_drop]
  exact List.drop_suffix _ _

theorem length_newest {α : Type} (limit : Option Nat) (as : List α) :
    (newest limit as).length = min (limit.getD as.length) as.length := by
  rw [newest_eq_drop, List.length_drop]
  omega

/-! ### Events that are read and printed -/

/-- The flat object of an event that leaves one level free and has no real numbers. -/
theorem printable_object {e : Event} (h : e.Posted) (hfree : e.toJson.RealFree)
    (hwithin : e.toJson.Within (Json.maxDepth - 1)) :
    e.object.Readable (Json.maxDepth - 1) ∧ e.object.RealFree ∧ e.object.InOrder := by
  rw [← h.ordered_toJson]
  exact ⟨Json.Readable.ordered ⟨h.readable.1, hwithin⟩, hfree.ordered, Json.inOrder_ordered _⟩

/-- The answer that shows events is read as their flat objects. -/
theorem readList_events {es : List Event} (hposted : ∀ e ∈ es, e.Posted)
    (hfree : ∀ e ∈ es, e.toJson.RealFree)
    (hwithin : ∀ e ∈ es, e.toJson.Within (Json.maxDepth - 1)) {pieces : List (List UInt8)}
    (hpieces : pieces.flatten = Utf8.ofString (Json.arr (es.map Event.toJson)).compact) :
    readList Json.Reader.value ⟨200, some "application/json", pieces, false⟩ =
      .ok (es.map Event.object) := by
  have hsound := List.forall_mem_map.mpr fun e he => (hposted e he).readable.1
  obtain ⟨us, hrereads, hus⟩ :=
    (readList_compact hsound hpieces).1 (List.forall_mem_map.mpr hwithin)
  rw [hus, Json.Reader.eq_map_of_forall₂ hrereads (List.forall_mem_map.mpr hfree), List.map_map]
  exact congrArg _ (List.map_congr_left fun e he => (hposted e he).ordered_toJson)

/-- What is printed as JSON for a list of values that is read. -/
theorem report_events {i : Invocation} {limit : Option Nat}
    (hcommand : i.command = .history .events limit) (hformat : i.format = .json) (p : Palette)
    {pieces : List (List UInt8)} {vs : List Json}
    (h : readList Json.Reader.value ⟨200, some "application/json", pieces, false⟩ = .ok vs) :
    i.report p ⟨200, some "application/json", pieces, false⟩ =
      ⟨[(Json.arr (newest limit vs)).pretty], none⟩ := by
  have hshow : showHistory p .json .events limit ⟨200, some "application/json", pieces, false⟩ =
      .ok (Json.arr (newest limit vs)).pretty := by
    unfold showHistory
    dsimp only
    rw [h]
    rfl
  have hfinal : Reply.isFinal ⟨200, some "application/json", pieces, false⟩ = true := rfl
  have hgood : Reply.isGood ⟨200, some "application/json", pieces, false⟩ = true := rfl
  unfold Invocation.report
  rw [hfinal, hgood, hcommand, hformat]
  exact congrArg Report.ofExcept hshow

/-- A printed list of values in order is read as this list. -/
theorem read_printed {vs : List Json}
    (h : ∀ v ∈ vs, v.Readable (Json.maxDepth - 1) ∧ v.RealFree ∧ v.InOrder) :
    Json.read (Glyph.ofString (⟨[(Json.arr vs).pretty], none⟩ : Report).output) =
      .ok (.arr vs) := by
  have houtput : Glyph.ofString (⟨[(Json.arr vs).pretty], none⟩ : Report).output =
      Glyph.ofString (Json.prettyAt 0 (.arr vs)) ++ [.scalar '\n'] := by
    show Glyph.ofString (String.join [Json.prettyAt 0 (.arr vs) ++ "\n"]) = _
    rw [String.join_cons, String.join_nil, String.append_empty, Glyph.ofString_append]
    rfl
  have hinOrder : (Json.arr vs).InOrder := .arr vs fun v hv => (h v hv).2.2
  rw [houtput, Json.read_text Json.lays_pretty (Json.readable_arr fun v hv => (h v hv).1)
    (.arr vs fun v hv => (h v hv).2.1) 0 (by decide), hinOrder.ordered_eq]

/-- **The printed history is the end of the kept events.** After any run of a service whose event
history was empty, whatever its capacity, let no kept event have a real number or more than 126
levels. Then the flat object of each has its kind, its time and its other members under their names,
and no others. A request for the events is answered by one text, and a client that is asked for the
history as JSON prints for this text, in whatever pieces it arrives, a text that reads as the array of
the flat objects of the last events: of as many as its limit says, of all if there are fewer or no
limit is given. -/
theorem history_prints_events (s : Service) (capacity : Nat)
    (h : s.store.events = .empty capacity) (as : List Service.Action)
    (hfree : ∀ e ∈ (s.run as).store.events.entries, e.toJson.RealFree)
    (hwithin : ∀ e ∈ (s.run as).store.events.entries, e.toJson.Within (Json.maxDepth - 1)) :
    (∀ e ∈ (s.run as).store.events.entries, ∀ name, e.object.get? name =
      if name = Event.kindName then some e.kind
      else if name = Event.timeName then some e.time
      else e.field? name) ∧
    ∀ now r, Service.AsksForEvents r → ∃ body,
      ((s.run as).respond now .query r).response =
        ⟨200, [("content-type", "application/json")], .text body⟩ ∧
      ∀ (i : Invocation) (limit : Option Nat) (p : Palette) (pieces : List (List UInt8)),
        i.command = .history .events limit → i.format = .json →
        pieces.flatten = Utf8.ofString body →
        (i.report p ⟨200, some "application/json", pieces, false⟩).failure = none ∧
        ∃ last, last <:+ (s.run as).store.events.entries ∧
          last.length = min (limit.getD (s.run as).store.events.entries.length)
            (s.run as).store.events.entries.length ∧
          Json.read (Glyph.ofString
            (i.report p ⟨200, some "application/json", pieces, false⟩).output) =
              .ok (.arr (last.map Event.object)) := by
  have hposted := Service.posted_of_mem_entries h as
  refine ⟨fun e he name => ?_, fun now r hr => ⟨_, respond_events _ now hr, ?_⟩⟩
  · obtain ⟨now, pairs, hread⟩ := (hposted e he).readFrom
    exact Event.get?_object hread name
  · intro i limit p pieces hcommand hformat hpieces
    have hsuffix := newest_suffix limit (s.run as).store.events.entries
    have hprintable : ∀ v ∈ (newest limit (s.run as).store.events.entries).map Event.object,
        v.Readable (Json.maxDepth - 1) ∧ v.RealFree ∧ v.InOrder := by
      refine List.forall_mem_map.mpr fun e he => ?_
      have he := hsuffix.mem he
      exact printable_object (hposted e he) (hfree e he) (hwithin e he)
    rw [report_events hcommand hformat p (readList_events hposted hfree hwithin hpieces),
      newest_map]
    exact ⟨rfl, _, hsuffix, length_newest limit _, read_printed hprintable⟩

/-- A service with room for two events, after three posts. -/
def afterPosts : Service :=
  (Service.start "node" (.empty 2) 1000).run
    [Service.postOf "\x7b\"type\":\"a\",\"ts\":1\x7d",
      Service.postOf "\x7b\"type\":\"b\",\"ts\":2\x7d",
      Service.postOf "\x7b\"type\":\"c\",\"\\n\":[\"\\\"\"],\"ts\":3\x7d"]

/-- The client is asked for the last event as JSON. -/
def askForLast : Invocation :=
  ⟨defaultQuery, defaultIngest, .json, .history .events (some 1)⟩

/-- Of three posted events the last is printed, which has a line feed in a name and a quote in a
string. -/
theorem history_prints_last_event :
    (Service.start "node" (.empty 2) 1000).store.events = .empty 2 ∧
    (∀ e ∈ afterPosts.store.events.entries, e.toJson.RealFree) ∧
    (∀ e ∈ afterPosts.store.events.entries, e.toJson.Within (Json.maxDepth - 1)) ∧
    ∃ body,
      (afterPosts.respond ⟨0, 0⟩ .query eventsRequest).response =
        ⟨200, [("content-type", "application/json")], .text body⟩ ∧
      Json.read (Glyph.ofString (askForLast.report ⟨false⟩
        ⟨200, some "application/json", [Utf8.ofString body], false⟩).output) =
          .ok (.arr [.obj [("\n", .arr [.str "\""]), ("ts", .int 3), ("type", .str "c")]]) := by
  have hentries : afterPosts.store.events.entries =
      [⟨.str "b", .int 2, []⟩, ⟨.str "c", .int 3, [("\n", .arr [.str "\""])]⟩] := rfl
  have hfree : ∀ e ∈ afterPosts.store.events.entries, e.toJson.RealFree := by
    rw [hentries]
    decide
  have hwithin : ∀ e ∈ afterPosts.store.events.entries,
      e.toJson.Within (Json.maxDepth - 1) := by
    rw [hentries]
    decide
  obtain ⟨-, hprints⟩ := history_prints_events _ 2 rfl _ hfree hwithin
  obtain ⟨body, hbody, hreport⟩ := hprints ⟨0, 0⟩ eventsRequest (by decide)
  obtain ⟨-, last, ⟨older, hlast⟩, hlength, hread⟩ :=
    hreport askForLast (some 1) ⟨false⟩ [Utf8.ofString body] rfl rfl List.flatten_singleton
  refine ⟨rfl, hfree, hwithin, body, hbody, hread.trans ?_⟩
  change older ++ last = afterPosts.store.events.entries at hlast
  change last.length = min 1 afterPosts.store.events.entries.length at hlength
  rw [hentries] at hlast hlength
  have hsplit : older ++ last =
      [⟨.str "b", .int 2, []⟩] ++ [⟨.str "c", .int 3, [("\n", .arr [.str "\""])]⟩] := hlast
  rw [(List.append_inj' hsplit hlength).2]
  rfl

end NodeTelemetry.Client
