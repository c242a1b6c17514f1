import NodeTelemetry.Client.Session
import NodeTelemetry.Proofs.Json.Records
import NodeTelemetry.Proofs.Service.Run
import NodeTelemetry.Proofs.Text.Utf8

/-!
# What the client says of a refusal

The service words its refusals as objects with one member, and the client reads this member again. The
wording may hold anything that the request held, quoted or not; as a string is read from its text
whatever its characters are, the client says what the service said (`complaint_refusal`).

A body that is no such object is shown as it is. That could hide a refusal only if the client could
not read one.
-/

namespace NodeTelemetry

namespace Service

/-- A request is refused with a wording: its scope names no history, or its body brings no event. -/
inductive Refuses (now : Time.Instant) : Surface → Request → String → Prop where
  /-- The scope of a query names no history. -/
  | scope {r : Request} {e : ScopeError} (method : r.method = "GET")
    (path : r.path = "/history" ∨ r.path = "/stream")
    (error : requestedScope r = .error (.unknownScope e)) : Refuses now .query r e.message
  /-- The body of a post is no JSON text, or its value is no event. -/
  | event {r : Request} {e : PostError} (post : IsPost .ingest r)
    (short : r.body.length ≤ bodyLimit) (error : postedEvent now r.body = .error e) :
    Refuses now .ingest r e.message

/-- A request that is refused is answered by an object with the wording. -/
theorem respond_refused (s : Service) {now : Time.Instant} {surface : Surface} {r : Request}
    {message : String} (h : Refuses now surface r message) :
    (s.respond now surface r).response =
      ⟨400, [("content-type", "application/json")],
        .text (Json.obj [("error", .str message)]).compact⟩ := by
  cases h with
  | @scope _ e hmethod hpath herror =>
    rcases hpath with hpath | hpath
    · rw [respond_get hmethod (congrArg (endpoint? .query) hpath) (by decide)]
      show (s.history r).response = _
      unfold history
      rw [herror]
      rfl
    · rw [respond_get hmethod (congrArg (endpoint? .query) hpath) (by decide)]
      show (s.subscribe r).response = _
      unfold subscribe
      rw [herror]
      rfl
  | event hpost hshort herror =>
    rw [respond_of_isPost hpost]
    unfold post
    rw [if_neg (Nat.not_lt_of_le hshort), herror]
    rfl

end Service

namespace Client

open Json in
/-- The wording of a refusal is read as it was written. -/
theorem readText_refusal (message : String) :
    Reply.wrongSchema.readText (Glyph.ofString (obj [("error", .str message)]).compact) =
      .ok message := by
  have htext : (str message).compact = scalarText (.str message) := compact_scalar id
  have hfield (fuel depth : Nat) : List.Forall₂ (Schema.FieldRead .tight compact fuel depth)
      Reply.wrongSchema.fields [(.str message, (· = fun _ => message))] := by
    refine .cons (fun hfuel rest _ => ⟨_, rfl, ?_⟩) .nil
    rw [htext] at hfuel ⊢
    dsimp only
    rw [Reader.text_scalarText Spacing.tight.blank_colon hfuel rest]
    rfl
  have hdistinct : Reply.wrongSchema.Distinct := List.nodup_singleton "error"
  have hfuel := lt_fuelFor (obj [("error", .str message)]).compact
  obtain ⟨_, hmade, hread⟩ :=
    (Schema.readsIf_named lays_compact hdistinct 0 (maxDepth - 1) hfuel (hfield _ _) rfl).ok
      trivial [] .nil
  obtain rfl := Schema.made_nil.mp (Schema.made_eq_cons.mp hmade)
  rw [List.append_nil] at hread
  exact readWhole_eq_ok.mpr ⟨[], hread, rfl⟩

/-- The text of a body that begins with a brace is what its bytes say. -/
theorem text?_brace {status : Nat} {pieces : List (List UInt8)} {rest : String}
    (hbody : Reply.hasBody ⟨status, some "application/json", pieces, false⟩ = true)
    (h : pieces.flatten = Utf8.ofString ("\x7b" ++ rest)) :
    Reply.text? ⟨status, some "application/json", pieces, false⟩ = some ("\x7b" ++ rest) := by
  have hset : Text.Charset.ofContentType (some "application/json") = .utf8 := by decide +kernel
  have hdecode : Text.Charset.utf8.decode (Utf8.ofString ("\x7b" ++ rest)) = "\x7b" ++ rest := by
    have hlossy := Utf8.lossy_ofString ("\x7b" ++ rest)
    rw [Utf8.ofString_append] at hlossy ⊢
    exact hlossy
  unfold Reply.text? Reply.bytes? Reply.breaksOff Reply.body
  rw [hbody, hset]
  simp only [Bool.and_false, Bool.false_eq_true, if_false, if_true, Option.map_some, h, hdecode]

/-- The client says what the service said. -/
theorem complaint_refusal (message : String) {pieces : List (List UInt8)}
    (h : pieces.flatten = Utf8.ofString (Json.obj [("error", .str message)]).compact) :
    Reply.complaint ⟨400, some "application/json", pieces, false⟩ = message := by
  have hread := readText_refusal message
  rw [Json.compact_obj, String.append_assoc] at h hread
  unfold Reply.complaint
  rw [text?_brace rfl h]
  dsimp only [Option.getD_some]
  rw [hread]

theorem report_of_not_good (i : Invocation) (p : Palette) {r : Reply} (hfinal : r.isFinal = true)
    (hgood : r.isGood = false) : i.report p r = ⟨[], some (.refused r.status r.complaint)⟩ := by
  unfold Invocation.report
  rw [hfinal, hgood]
  rfl

/-- **The client says of a refusal what the service said, character for character.** Whatever the
wording is, it is read from the object that carries it, and the client fails with it, whatever it was
asked to do and in whatever pieces the body arrives. Each request that the service refuses with a
wording of its own is answered by such an object. Any other reply without success is shown by its
text: if the text is no such object, the client fails with the text as it is. -/
theorem refusals_are_reported :
    (∀ message : String,
      let body := (Json.obj [("error", .str message)]).compact
      Reply.wrongSchema.readText (Glyph.ofString body) = .ok message ∧
        ∀ (i : Invocation) (p : Palette) (pieces : List (List UInt8)),
          pieces.flatten = Utf8.ofString body →
          let report := i.report p ⟨400, some "application/json", pieces, false⟩
          report.lines = [] ∧
            report.failure.map Failure.layers =
              some ["API error (400 Bad Request): " ++ message]) ∧
    (∀ (s : Service) now surface r message, Service.Refuses now surface r message →
      (s.respond now surface r).response =
        ⟨400, [("content-type", "application/json")],
          .text (Json.obj [("error", .str message)]).compact⟩) ∧
    ∀ (i : Invocation) (p : Palette) (r : Reply), r.isFinal = true → r.isGood = false →
      let text := r.text?.getD ""
      (∀ message, Reply.wrongSchema.readText (Glyph.ofString text) ≠ .ok message) →
      (i.report p r).lines = [] ∧
        (i.report p r).failure.map Failure.layers =
          some ["API error (" ++ statusText r.status ++ "): " ++ text] := by
  refine ⟨fun message => ⟨readText_refusal message, fun i p pieces hpieces => ?_⟩,
    fun s now surface r message h => Service.respond_refused s h,
    fun i p r hfinal hgood htext => ?_⟩
  · have hstatus : "API error (" ++ statusText 400 ++ "): " = "API error (400 Bad Request): " := by
      decide
    dsimp only
    rw [report_of_not_good i p rfl rfl, complaint_refusal message hpieces, ← hstatus]
    exact ⟨rfl, rfl⟩
  · have hcomplaint : r.complaint = r.text?.getD "" := by
      unfold Reply.complaint
      cases hread : Reply.wrongSchema.readText (Glyph.ofString (r.text?.getD "")) with
      | ok message => exact absurd hread (htext message)
      | error e =>
        dsimp only
        rw [hread]
    rw [report_of_not_good i p hfinal hgood, hcomplaint]
    exact ⟨rfl, rfl⟩

/-- A query for a history whose name is a quote, a line feed and a character beyond the first plane. -/
def oddQuery : Service.Request := ⟨"GET", "/history?scope=%22%0A%F0%9F%98%80", []⟩

/-- What the service says of it. -/
def oddScope : String := "invalid scope \"\\\"\\n😀\": expected \"stats\" or \"events\""

/-- The client is asked for a sign of life. -/
def askForLife : Invocation := ⟨defaultQuery, defaultIngest, .table, .ping⟩

/-- The odd name comes back as it is quoted, from a body in two pieces; an object whose member is no
string is shown as it is. -/
theorem refusals_are_reported_odd :
    let body := (Json.obj [("error", .str oddScope)]).compact
    let pieces := [(Utf8.ofString body).take 40, (Utf8.ofString body).drop 40]
    let gone : Reply := ⟨410, some "text/plain", [Utf8.ofString "\x7b\"error\":1\x7d"], false⟩
    Service.Refuses ⟨0, 0⟩ .query oddQuery oddScope ∧
      ((Service.start "node" (.empty 1) 1000).respond ⟨0, 0⟩ .query oddQuery).response =
        ⟨400, [("content-type", "application/json")], .text body⟩ ∧
      pieces.flatten = Utf8.ofString body ∧
      (askForLife.report ⟨false⟩ ⟨400, some "application/json", pieces, false⟩).failure.map
        Failure.layers = some ["API error (400 Bad Request): " ++ oddScope] ∧
      gone.isFinal = true ∧ gone.isGood = false ∧
      (∀ message, Reply.wrongSchema.readText (Glyph.ofString (gone.text?.getD "")) ≠
        .ok message) ∧
      (askForLife.report ⟨false⟩ gone).failure.map Failure.layers =
        some ["API error (410 Gone): \x7b\"error\":1\x7d"] := by
  intro body pieces gone
  obtain ⟨hwords, hservice, hother⟩ := refusals_are_reported
  have hrefuses : Service.Refuses ⟨0, 0⟩ .query oddQuery oddScope := by
    have herror : Service.requestedScope oddQuery = .error (.unknownScope ⟨"\"\n😀"⟩) := by
      decide +kernel
    have hmessage : oddScope = ScopeError.message ⟨"\"\n😀"⟩ := by decide +kernel
    rw [hmessage]
    exact .scope rfl (.inl (by decide)) herror
  have hpieces : pieces.flatten = Utf8.ofString body := by
    show (Utf8.ofString body).take 40 ++ ((Utf8.ofString body).drop 40 ++ []) = _
    rw [List.append_nil, List.take_append_drop]
  have hnumber : ∀ message, Reply.wrongSchema.readText (Glyph.ofString (gone.text?.getD "")) ≠
      .ok message := by
    have hnone : (Reply.wrongSchema.readText (Glyph.ofString (gone.text?.getD ""))).toOption =
        none := by decide +kernel
    intro message hread
    rw [hread] at hnone
    cases hnone
  have hgone := (hother askForLife ⟨false⟩ gone rfl rfl hnumber).2
  have htext : gone.text?.getD "" = "\x7b\"error\":1\x7d" := by decide +kernel
  have hstatus : "API error (" ++ statusText 410 ++ "): " = "API error (410 Gone): " := by decide
  rw [htext] at hgone
  refine ⟨hrefuses, hservice _ _ _ _ _ hrefuses, hpieces,
    ((hwords oddScope).2 askForLife ⟨false⟩ pieces hpieces).2, rfl, rfl, hnumber, hgone.trans ?_⟩
  rw [hstatus]
  rfl

end Client

end NodeTelemetry
