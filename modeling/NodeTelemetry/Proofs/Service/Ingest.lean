import NodeTelemetry.Proofs.Event
import NodeTelemetry.Proofs.Json.Reader
import NodeTelemetry.Proofs.Json.Writer
import NodeTelemetry.Proofs.Service.Logs

/-!
# Events from their posts to the answers that show them

The events that a service keeps are told by the answers to the posts of a run: each post that is
answered by `204` adds the event that its body says, and nothing else adds any. A post that is
answered by `400` is counted as refused, and every other answer leaves no trace.

The run lemma is about the pairs of an accepted post and its event (`log_run`): the posts are those
that a client sees accepted, the events those that are given to the history.
-/

namespace NodeTelemetry

/-- The text of an event: kind and time first, then the other members in the order of their names. -/
def Event.text (e : Event) : String :=
  "\x7b" ++ ",".intercalate
    (((kindName, e.kind) :: (timeName, e.time) :: e.fields).map Json.memberText) ++ "\x7d"

theorem Event.compact_toJson (e : Event) : e.toJson.compact = e.text := Json.compact_obj _

namespace Service

/-! ### Posts and their answers -/

/-- A post of an event and the status of its answer. -/
structure Post where
  /-- When it arrived. -/
  now : Time.Instant
  /-- The body. -/
  body : List UInt8
  /-- The status of the answer. -/
  status : Nat

/-- The body of a post reads as an event. -/
def Post.ReadsAs (p : Post) (e : Event) : Prop :=
  ∃ pairs, Json.Writes (Utf8.decode p.body) pairs ∧ e.ReadFrom p.now pairs

/-- The post that an action is. Any surface may be asked. -/
def Action.post? (s : Service) : Action → Option Post
  | .request now surface r _ =>
    if r.path = "/events" ∧ r.method = "POST" then
      some ⟨now, r.body, (s.respond now surface r).response.status⟩
    else none
  | _ => none

/-- The posts of a run. -/
def posts (s : Service) : List Action → List Post
  | [] => []
  | a :: as => (a.post? s).toList ++ (s.step a).posts as

/-- The posts that were answered with a status. -/
def Post.withStatus (status : Nat) (ps : List Post) : List Post := ps.filter (·.status = status)

/-- A body that brings an event reads as a value that is one. -/
theorem read_of_postedEvent {now : Time.Instant} {body : List UInt8} {e : Event}
    (h : postedEvent now body = .ok e) :
    ∃ v, Json.read (Utf8.decode body) = .ok v ∧ Event.ofValue now v = .ok e := by
  unfold postedEvent at h
  cases hread : Json.read (Utf8.decode body) with
  | error f =>
    rw [hread] at h
    cases h
  | ok v =>
    rw [hread] at h
    cases hvalue : Event.ofValue now v with
    | error f =>
      simp only [hvalue] at h
      cases h
    | ok e' =>
      simp only [hvalue] at h
      exact ⟨v, rfl, hvalue.trans (congrArg _ (Except.ok.inj h))⟩

theorem readsAs_of_postedEvent {now : Time.Instant} {body : List UInt8} {e : Event} (status : Nat)
    (h : postedEvent now body = .ok e) : (⟨now, body, status⟩ : Post).ReadsAs e := by
  obtain ⟨v, hread, hvalue⟩ := read_of_postedEvent h
  obtain ⟨ms, rfl, -⟩ := Event.mem_of_ofValue hvalue
  obtain ⟨pairs, hpairs, rfl⟩ := (Json.read_eq_obj _ ms).mp hread
  exact ⟨pairs, hpairs, Event.readFrom_of_ofValue hvalue⟩

theorem post?_of_path (s : Service) (now : Time.Instant) (surface : Surface) {r : Request}
    (h : r.path = "/events" ∧ r.method = "POST") (opening : Opening) :
    (Action.request now surface r opening).post? s =
      some ⟨now, r.body, (s.respond now surface r).response.status⟩ := if_pos h

theorem post?_of_not_path (s : Service) (now : Time.Instant) (surface : Surface) {r : Request}
    (h : ¬(r.path = "/events" ∧ r.method = "POST")) (opening : Opening) :
    (Action.request now surface r opening).post? s = none := if_neg h

/-! ### What a post changes -/

/-- Two stores have the same histories, the same health and the same number of events accepted. -/
def SameRecords (s t : Store) : Prop :=
  t.events = s.events ∧ t.samples = s.samples ∧ t.health = s.health ∧
    t.metrics.ingested = s.metrics.ingested

/-- A request that is not accepted leaves the records as they are. -/
theorem sameRecords_of_status_ne (s : Service) {now : Time.Instant} {surface : Surface}
    {r : Request} (opening : Opening) (h : (s.respond now surface r).response.status ≠ 204) :
    SameRecords s.store (s.step (.request now surface r opening)).store := by
  obtain ⟨streams, events, hstore⟩ := store_step s (.request now surface r opening)
  rw [hstore]
  by_cases hpost : IsPost surface r
  · rw [respond_of_isPost hpost] at h
    rw [write_of_isPost hpost]
    rcases post_cases s now r.body with ⟨-, -, hs⟩ | ⟨-, e, -, -, hs⟩ | ⟨-, e, -, haccepted, -⟩
    · rw [hs]
      exact ⟨rfl, rfl, rfl, rfl⟩
    · rw [hs]
      exact ⟨rfl, rfl, rfl, rfl⟩
    · exact absurd haccepted h
  · rw [write_of_not_isPost hpost]
    exact ⟨rfl, rfl, rfl, rfl⟩

/-- Both counters of posts are the same. -/
def SameCounts (s t : Store) : Prop :=
  t.metrics.ingested = s.metrics.ingested ∧ t.metrics.rejected = s.metrics.rejected

theorem sameCounts_apply (s : Store) (e : Effect) : SameCounts s (s.apply e) := by
  cases e with
  | failed source fault => cases source <;> exact ⟨rfl, rfl⟩
  | called | sampled | ended => exact ⟨rfl, rfl⟩

/-- A post that the query surface gets is not found. -/
theorem status_post_query (s : Service) (now : Time.Instant) {r : Request}
    (hpath : r.path = "/events") : (s.respond now .query r).response.status = 404 := by
  unfold respond
  rw [hpath]
  rfl

/-- The log of a step: the accepted post with its event, if there is one. -/
structure StepLog (s : Service) (a : Action) (log : List (Post × Event)) : Prop where
  /-- The posts are the accepted ones. -/
  posts : log.map Prod.fst = Post.withStatus 204 (a.post? s).toList
  /-- The events are those given to the history. -/
  events : log.map Prod.snd = a.event?.toList
  /-- The body of each post reads as its event. -/
  reads : ∀ x ∈ log, x.1.ReadsAs x.2
  /-- They are counted as accepted. -/
  ingested : (a.write s.store).metrics.ingested = s.store.metrics.ingested + log.length
  /-- The refused posts are counted as refused. -/
  rejected : (a.write s.store).metrics.rejected =
    s.store.metrics.rejected + (Post.withStatus 400 (a.post? s).toList).length

/-- An action without an event that counts nothing and is not answered as an accepted or refused
post. -/
theorem stepLog_nil {s : Service} {a : Action}
    (hstatus : ∀ p ∈ a.post? s, p.status ≠ 204 ∧ p.status ≠ 400) (hevent : a.event? = none)
    (hcounts : SameCounts s.store (a.write s.store)) : StepLog s a [] := by
  have hnone : ∀ n, n = 204 ∨ n = 400 → Post.withStatus n (a.post? s).toList = [] := by
    intro n hn
    refine List.filter_eq_nil_iff.mpr fun p hp => ?_
    have hp := hstatus p (Option.mem_toList.mp hp)
    rcases hn with rfl | rfl
    · simpa using hp.1
    · simpa using hp.2
  refine ⟨(hnone 204 (.inl rfl)).symm, by rw [hevent]; rfl, ?_, hcounts.1, ?_⟩
  · intro x hx
    cases hx
  · rw [hnone 400 (.inr rfl)]
    exact hcounts.2

theorem stepLog_post (s : Service) (now : Time.Instant) {r : Request} (h : IsPost .ingest r)
    (opening : Opening) : ∃ log, StepLog s (.request now .ingest r opening) log := by
  have hpost? : (Action.request now .ingest r opening).post? s =
      some ⟨now, r.body, (s.post now r.body).response.status⟩ := by
    rw [← respond_of_isPost h s now]
    exact post?_of_path s now _ h.2 opening
  rcases post_cases s now r.body with
    ⟨hlong, hstatus, hs⟩ | ⟨hshort, e, he, hstatus, hs⟩ | ⟨hshort, e, he, hstatus, hs⟩
  · refine ⟨[], stepLog_nil (fun p hp => ?_) (event?_of_long hlong now _ opening) ?_⟩
    · rw [hpost?, hstatus] at hp
      cases hp
      exact ⟨show 413 ≠ 204 by decide, show 413 ≠ 400 by decide⟩
    · rw [write_of_isPost h, hs]
      exact ⟨rfl, rfl⟩
  · refine ⟨[], ?_, ?_, fun x hx => absurd hx List.not_mem_nil, ?_, ?_⟩
    · rw [hpost?, hstatus]
      rfl
    · rw [event?_of_isPost h hshort, he]
      rfl
    · rw [write_of_isPost h, hs]
      rfl
    · rw [write_of_isPost h, hs, hpost?, hstatus]
      rfl
  · refine ⟨[(⟨now, r.body, 204⟩, e)], ?_, ?_, fun x hx => ?_, ?_, ?_⟩
    · rw [hpost?, hstatus]
      rfl
    · rw [event?_of_isPost h hshort, he]
      rfl
    · rw [List.mem_singleton.mp hx]
      exact readsAs_of_postedEvent 204 he
    · rw [write_of_isPost h, hs]
      rfl
    · rw [write_of_isPost h, hs, hpost?, hstatus]
      rfl

theorem stepLog_step (s : Service) (a : Action) : ∃ log, StepLog s a log := by
  cases a with
  | request now surface r opening =>
    by_cases hpost : IsPost surface r
    · obtain rfl : surface = .ingest := hpost.1
      exact stepLog_post s now hpost opening
    · refine ⟨[], stepLog_nil (fun p hp => ?_) (event?_of_not_isPost hpost now opening) ?_⟩
      · by_cases hpath : r.path = "/events" ∧ r.method = "POST"
        · obtain rfl : surface = .query := by
            cases surface with
            | query => rfl
            | ingest => exact absurd ⟨rfl, hpath⟩ hpost
          rw [post?_of_path s now _ hpath, status_post_query s now hpath.1] at hp
          cases hp
          exact ⟨show 404 ≠ 204 by decide, show 404 ≠ 400 by decide⟩
        · rw [post?_of_not_path s now _ hpath] at hp
          cases hp
      · rw [write_of_not_isPost hpost]
        exact ⟨rfl, rfl⟩
  | effect e => exact ⟨[], stepLog_nil (fun _ h => nomatch h) rfl (sameCounts_apply _ e)⟩
  | sample | health | advance | receive | disconnect | wait | pump | take =>
    exact ⟨[], stepLog_nil (fun _ h => nomatch h) rfl ⟨rfl, rfl⟩⟩

/-! ### Runs -/

/-- The log of a run: its accepted posts, in order, with their events. -/
theorem log_run (s : Service) (as : List Action) :
    ∃ log : List (Post × Event),
      log.map Prod.fst = Post.withStatus 204 (s.posts as) ∧
      log.map Prod.snd = as.filterMap Action.event? ∧
      (∀ x ∈ log, x.1.ReadsAs x.2) ∧
      (s.run as).store.metrics.ingested = s.store.metrics.ingested + log.length ∧
      (s.run as).store.metrics.rejected =
        s.store.metrics.rejected + (Post.withStatus 400 (s.posts as)).length := by
  induction as generalizing s with
  | nil => exact ⟨[], rfl, rfl, fun x hx => absurd hx List.not_mem_nil, rfl, rfl⟩
  | cons a as ih =>
    obtain ⟨log, hlog⟩ := stepLog_step s a
    obtain ⟨rest, hposts, hevents, hreads, hingested, hrejected⟩ := ih (s.step a)
    obtain ⟨streams, events, hstore⟩ := store_step s a
    rw [hstore] at hingested hrejected
    refine ⟨log ++ rest, ?_, ?_, ?_, ?_, ?_⟩
    · rw [List.map_append, hlog.posts, hposts]
      exact (List.filter_append _ _).symm
    · rw [List.map_append, hlog.events, hevents, filterMap_cons_toList]
    · intro x hx
      rcases List.mem_append.mp hx with hx | hx
      · exact hlog.reads x hx
      · exact hreads x hx
    · rw [run_cons, hingested, List.length_append, ← Nat.add_assoc, ← hlog.ingested]
      rfl
    · show _ = _ + (List.filter _ (_ ++ _)).length
      rw [run_cons, hrejected, List.filter_append, List.length_append, ← Nat.add_assoc]
      exact congrArg (· + _) hlog.rejected

/-! ### Reading the events back -/

/-- A request for the events: the scope is absent, empty or names them. -/
def AsksForEvents (r : Request) : Prop :=
  r.method = "GET" ∧ r.path = "/history" ∧
    (r.queryMembers.filter fun m => m.1 == scopeName).map (·.2) ∈ [[], [""], ["events"]]

instance (r : Request) : Decidable (AsksForEvents r) := inferInstanceAs (Decidable (_ ∧ _ ∧ _))

theorem requestedScope_of_asksForEvents {r : Request} (h : AsksForEvents r) :
    requestedScope r = .ok .events := by
  obtain ⟨-, -, h⟩ := h
  unfold requestedScope
  rcases hms : r.queryMembers.filter fun m => m.1 == scopeName with _ | ⟨m, _ | ⟨m', ms⟩⟩
  · rw [hms]
    rfl
  · rw [hms] at h ⊢
    have hvalue : m.2 = "" ∨ m.2 = "events" := by simpa using h
    show (Scope.ofQuery (some m.2)).mapError QueryError.unknownScope = .ok .events
    rcases hvalue with hvalue | hvalue
    · rw [hvalue]
      rfl
    · rw [hvalue]
      rfl
  · rw [hms] at h
    simp at h

/-- The answer to a request for the events is the array of their texts. -/
theorem respond_asksForEvents (s : Service) (now : Time.Instant) {r : Request}
    (h : AsksForEvents r) :
    (s.respond now .query r).response =
      ⟨200, [("content-type", "application/json")],
        .text ("[" ++ ",".intercalate (s.store.events.entries.map Event.text) ++ "]")⟩ := by
  have hscope := requestedScope_of_asksForEvents h
  obtain ⟨hmethod, hpath, -⟩ := h
  rw [respond_history hmethod hpath hscope]
  show Response.mk 200 [("content-type", "application/json")]
    (Payload.text (Json.arr (s.store.events.entries.map Event.toJson)).compact) = _
  rw [Json.compact_arr, List.map_map]
  congr 5
  exact List.map_congr_left fun e _ => e.compact_toJson

/-- **The events kept are the last accepted posts.** After any run of a service whose event history
was empty and has room for `capacity` events, at least one:

* the history is the end of the list of accepted posts, each being the object that its body reads as,
  with the time of arrival if it says none;
* a request for the events is answered by the compact array of these, oldest first;
* the posts accepted and those refused are counted;
* a request to the path of events that is not accepted changes no record. -/
theorem events_follow_accepted_posts (s : Service) (capacity : Nat)
    (h : s.store.events = .empty capacity) (as : List Action) :
    (∃ log : List (Post × Event),
      log.map Prod.fst = Post.withStatus 204 (s.posts as) ∧
      (∀ x ∈ log, x.1.ReadsAs x.2) ∧
      (s.run as).store.events.entries =
        (log.map Prod.snd).drop (log.length - max capacity 1)) ∧
    (∀ now r, AsksForEvents r →
      ((s.run as).respond now .query r).response =
        ⟨200, [("content-type", "application/json")],
          .text ("[" ++ ",".intercalate ((s.run as).store.events.entries.map Event.text) ++ "]")⟩) ∧
    (s.run as).store.metrics.ingested =
      s.store.metrics.ingested + (Post.withStatus 204 (s.posts as)).length ∧
    (s.run as).store.metrics.rejected =
      s.store.metrics.rejected + (Post.withStatus 400 (s.posts as)).length ∧
    ∀ now surface r opening, r.path = "/events" →
      ((s.run as).respond now surface r).response.status ≠ 204 →
      SameRecords (s.run as).store ((s.run as).step (.request now surface r opening)).store := by
  obtain ⟨log, hposts, hevents, hreads, hingested, hrejected⟩ := log_run s as
  have hentries := History.entries_appendAll_empty capacity (as.filterMap Action.event?)
  rw [← h, ← events_run, ← hevents, List.length_map] at hentries
  refine ⟨⟨log, hposts, hreads, hentries⟩, fun now r => respond_asksForEvents _ now, ?_, hrejected,
    fun now surface r opening _ => sameRecords_of_status_ne _ opening⟩
  rw [hingested, ← hposts, List.length_map]

/-- A post to the ingest surface. -/
def postOf (body : String) : Action :=
  .request ⟨0, 0⟩ .ingest ⟨"POST", "/events", Utf8.ofString body⟩ .left

/-- Three posts: one that gives its kind twice, one without a kind, and one more event. -/
def threePosts : List Action :=
  [postOf "\x7b\"type\":\"a\",\"type\":\"b\",\"ts\":1\x7d", postOf "\x7b\x7d",
    postOf "\x7b\"type\":\"c\",\"n\":[],\"ts\":2\x7d"]

/-- A service with room for one event, after the three posts. -/
def afterThreePosts : Service := (start "node" (.empty 1) 1000).run threePosts

theorem events_follow_three_posts :
    (start "node" (.empty 1) 1000).store.events = .empty 1 ∧
      AsksForEvents ⟨"GET", "/history?scope=", []⟩ ∧
      (afterThreePosts.respond ⟨0, 0⟩ .query ⟨"GET", "/history?scope=", []⟩).response =
        ⟨200, [("content-type", "application/json")],
          .text "[\x7b\"type\":\"c\",\"ts\":2,\"n\":[]\x7d]"⟩ ∧
      afterThreePosts.store.metrics.ingested = 2 ∧
      afterThreePosts.store.metrics.rejected = 1 ∧
      (afterThreePosts.respond ⟨0, 0⟩ .ingest ⟨"PUT", "/events", []⟩).response.status ≠ 204 ∧
      SameRecords afterThreePosts.store
        (afterThreePosts.step (.request ⟨0, 0⟩ .ingest ⟨"PUT", "/events", []⟩ .left)).store := by
  obtain ⟨-, hread, hingested, hrejected, hsame⟩ :=
    events_follow_accepted_posts (start "node" (.empty 1) 1000) 1 rfl threePosts
  have hentries :
      "[" ++ ",".intercalate (afterThreePosts.store.events.entries.map Event.text) ++ "]" =
        "[\x7b\"type\":\"c\",\"ts\":2,\"n\":[]\x7d]" := by decide
  have hput :
      (afterThreePosts.respond ⟨0, 0⟩ .ingest ⟨"PUT", "/events", []⟩).response.status ≠ 204 := by
    decide
  refine ⟨rfl, by decide, ?_, hingested.trans (by decide), hrejected.trans (by decide), hput,
    hsame ⟨0, 0⟩ .ingest ⟨"PUT", "/events", []⟩ .left (by decide) hput⟩
  rw [← hentries]
  exact hread ⟨0, 0⟩ ⟨"GET", "/history?scope=", []⟩ (by decide)

end Service

end NodeTelemetry
