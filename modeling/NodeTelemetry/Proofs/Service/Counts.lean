import NodeTelemetry.Proofs.Service.Ingest

/-!
# Which posts are counted

A post to the ingest surface ends in one of three ways (`post_cases`). If its body brings an event,
one more event is counted as accepted; if it brings none, one more is counted as refused. A body
longer than `bodyLimit` is turned away before anyone looks into it, and neither count knows of it.

So the two counts of a run make up for its posts except for the long ones (`counts_run`), and nothing
else that happens in between counts a post.
-/

namespace NodeTelemetry

/-- How many events were accepted or refused. -/
def Store.postCount (s : Store) : Nat := s.metrics.ingested + s.metrics.rejected

namespace Service

/-- The body of a post to the ingest surface. -/
def Action.body? : Action → Option (List UInt8)
  | .request _ surface r _ => if IsPost surface r then some r.body else none
  | _ => none

/-- A body is too long to be looked into. -/
def TooLong (body : List UInt8) : Prop := bodyLimit < body.length

instance (body : List UInt8) : Decidable (TooLong body) := inferInstanceAs (Decidable (_ < _))

/-- One of the two counts of posts has gone up by one, and the other one has not changed. -/
def OneCounted (s t : Store) : Prop :=
  (t.metrics.ingested = s.metrics.ingested + 1 ∧ t.metrics.rejected = s.metrics.rejected) ∨
    (t.metrics.ingested = s.metrics.ingested ∧ t.metrics.rejected = s.metrics.rejected + 1)

theorem SameCounts.postCount {s t : Store} (h : SameCounts s t) : t.postCount = s.postCount := by
  obtain ⟨hingested, hrejected⟩ := h
  unfold Store.postCount
  rw [hingested, hrejected]

theorem OneCounted.postCount {s t : Store} (h : OneCounted s t) :
    t.postCount = s.postCount + 1 := by
  unfold Store.postCount
  rcases h with ⟨hingested, hrejected⟩ | ⟨hingested, hrejected⟩
  · rw [hingested, hrejected]
    omega
  · rw [hingested, hrejected]
    omega

/-! ### One step -/

theorem body?_of_isPost {surface : Surface} {r : Request} (h : IsPost surface r)
    (now : Time.Instant) (opening : Opening) :
    (Action.request now surface r opening).body? = some r.body := if_pos h

theorem body?_of_not_isPost {surface : Surface} {r : Request} (h : ¬IsPost surface r)
    (now : Time.Instant) (opening : Opening) :
    (Action.request now surface r opening).body? = none := if_neg h

/-- What is no post to the ingest surface counts none. -/
theorem sameCounts_write {a : Action} (h : a.body? = none) (s : Store) :
    SameCounts s (a.write s) := by
  cases a with
  | request now surface r opening =>
    have hpost : ¬IsPost surface r := fun hpost => by
      rw [body?_of_isPost hpost] at h
      cases h
    rw [write_of_not_isPost hpost]
    exact ⟨rfl, rfl⟩
  | effect e => exact sameCounts_apply s e
  | sample | health | advance | receive | disconnect | wait | pump | take => exact ⟨rfl, rfl⟩

theorem sameCounts_step {a : Action} (h : a.body? = none) (s : Service) :
    SameCounts s.store (s.step a).store := by
  obtain ⟨streams, events, hstore⟩ := store_step s a
  rw [hstore]
  exact sameCounts_write h s.store

theorem step_of_isPost {r : Request} (h : IsPost .ingest r) (s : Service) (now : Time.Instant)
    (opening : Opening) :
    s.step (.request now .ingest r opening) = (s.post now r.body).service := by
  show settle (s.respond now .ingest r) opening = _
  rw [respond_of_isPost h, settle_post]

/-- A post is counted once, unless its body is too long: then it is turned away and not counted. -/
theorem counts_post {r : Request} (h : IsPost .ingest r) (s : Service) (now : Time.Instant)
    (opening : Opening) :
    (¬TooLong r.body → OneCounted s.store (s.step (.request now .ingest r opening)).store) ∧
      (TooLong r.body → (s.respond now .ingest r).response.status = 413 ∧
        SameCounts s.store (s.step (.request now .ingest r opening)).store) := by
  rw [step_of_isPost h, respond_of_isPost h]
  rcases post_cases s now r.body with
    ⟨hlong, hstatus, hs⟩ | ⟨hshort, e, -, -, hs⟩ | ⟨hshort, e, -, -, hs⟩
  · rw [hs]
    exact ⟨fun hshort => absurd hlong hshort, fun _ => ⟨hstatus, rfl, rfl⟩⟩
  · rw [hs]
    exact ⟨fun _ => .inr ⟨rfl, rfl⟩, fun hlong => absurd hlong (Nat.not_lt_of_le hshort)⟩
  · rw [hs]
    exact ⟨fun _ => .inl ⟨rfl, rfl⟩, fun hlong => absurd hlong (Nat.not_lt_of_le hshort)⟩

/-- A step counts its post, if it is one with a body that is not too long. -/
theorem postCount_step (s : Service) (a : Action) :
    (s.step a).store.postCount + a.body?.toList.countP TooLong =
      s.store.postCount + a.body?.toList.length := by
  cases hbody : a.body? with
  | none => exact (sameCounts_step hbody s).postCount
  | some body =>
    cases a with
    | request now surface r opening =>
      by_cases hpost : IsPost surface r
      · obtain rfl : surface = .ingest := hpost.1
        obtain rfl : r.body = body := by
          rw [body?_of_isPost hpost] at hbody
          exact Option.some.inj hbody
        obtain ⟨hshort, hlong⟩ := counts_post hpost s now opening
        rw [Option.toList_some, List.countP_singleton]
        by_cases h : TooLong r.body
        · rw [(hlong h).2.postCount, if_pos (decide_eq_true h)]
          rfl
        · rw [(hshort h).postCount, if_neg (by simpa using h)]
          rfl
      · rw [body?_of_not_isPost hpost] at hbody
        cases hbody
    | effect | sample | health | advance | receive | disconnect | wait | pump | take => cases hbody

/-! ### Runs -/

/-- The bodies of the posts of a run to the ingest surface. -/
def postedBodies (as : List Action) : List (List UInt8) := as.filterMap Action.body?

/-- The counts of a run make up for its posts, together with those that are too long. -/
theorem postCount_run (s : Service) (as : List Action) :
    (s.run as).store.postCount + (postedBodies as).countP TooLong =
      s.store.postCount + (postedBodies as).length := by
  induction as generalizing s with
  | nil => rfl
  | cons a as ih =>
    have hstep := postCount_step s a
    have hrest := ih (s.step a)
    have hbodies : postedBodies (a :: as) = a.body?.toList ++ postedBodies as :=
      filterMap_cons_toList Action.body? a as
    rw [run_cons, hbodies, List.countP_append, List.length_append]
    omega

/-- **Each post is counted once, except for those that are too long.** A post to the ingest surface
raises one of the two counts of posts by one, whatever its body says, if the body is not longer than
the limit. A longer one is answered by `413` and raises neither. Over a run, whatever else happens in
between, the two counts grow by the number of posts less that of the long ones; so they make up for
the posts exactly if none of these is too long. -/
theorem posts_counted_unless_long (s : Service) :
    (∀ now r opening, IsPost .ingest r →
      let t := s.step (.request now .ingest r opening)
      (¬TooLong r.body → OneCounted s.store t.store) ∧
        (TooLong r.body →
          (s.respond now .ingest r).response.status = 413 ∧ SameCounts s.store t.store)) ∧
    ∀ as,
      (s.run as).store.postCount + (postedBodies as).countP TooLong =
          s.store.postCount + (postedBodies as).length ∧
        ((s.run as).store.postCount = s.store.postCount + (postedBodies as).length ↔
          ∀ body ∈ postedBodies as, ¬TooLong body) := by
  refine ⟨fun now r opening hpost => counts_post hpost s now opening, fun as => ?_⟩
  have hrun := postCount_run s as
  have hnone : (postedBodies as).countP TooLong = 0 ↔ ∀ body ∈ postedBodies as, ¬TooLong body := by
    simp [List.countP_eq_zero]
  refine ⟨hrun, ?_⟩
  rw [← hnone]
  omega

/-- A post of blanks only. -/
def blankPost (length : Nat) : Request := ⟨"POST", "/events", List.replicate length 32⟩

theorem isPost_blankPost (length : Nat) : IsPost .ingest (blankPost length) := by
  have htarget : (blankPost length).target = (⟨"POST", "/events", []⟩ : Request).target := rfl
  have hpath : (blankPost length).path = "/events" := by
    unfold Request.path Request.resource
    rw [htarget]
    decide
  exact ⟨rfl, hpath, rfl⟩

/-- Of two posts, the first one is refused and the second one has a byte too many: one of them is
counted. -/
theorem posts_counted_unless_long_blank :
    let s := start "node" (.empty 1) 1000
    let long := blankPost (bodyLimit + 1)
    let posts := [postOf "", .request ⟨0, 0⟩ .ingest long .left]
    IsPost .ingest long ∧ TooLong long.body ∧
      (s.respond ⟨0, 0⟩ .ingest long).response.status = 413 ∧
      SameCounts s.store (s.step (.request ⟨0, 0⟩ .ingest long .left)).store ∧
      (postedBodies posts).length = 2 ∧ (s.run posts).store.postCount = 1 := by
  intro s long posts
  obtain ⟨hstep, hrun⟩ := posts_counted_unless_long s
  have hpost : IsPost .ingest long := isPost_blankPost _
  have hlong : TooLong long.body := by
    unfold TooLong
    rw [show long.body.length = bodyLimit + 1 from List.length_replicate]
    exact Nat.lt_succ_self _
  obtain ⟨hstatus, hsame⟩ := (hstep ⟨0, 0⟩ long .left hpost).2 hlong
  have hempty : (postOf "").body? = some [] := body?_of_isPost (by decide) _ _
  have hbody : (Action.request ⟨0, 0⟩ .ingest long .left).body? = some long.body :=
    body?_of_isPost hpost _ _
  have hbodies : postedBodies posts = [[], long.body] := by
    show [postOf "", _].filterMap Action.body? = _
    rw [List.filterMap_cons_some hempty, List.filterMap_cons_some hbody, List.filterMap_nil]
  have hone : [[], long.body].countP TooLong = 1 := by
    rw [List.countP_cons_of_neg (by decide), List.countP_singleton, if_pos (decide_eq_true hlong)]
  have hcount := (hrun posts).1
  rw [hbodies, hone] at hcount
  exact ⟨hpost, hlong, hstatus, hsame, by rw [hbodies]; rfl, Nat.add_right_cancel hcount⟩

end Service

end NodeTelemetry
