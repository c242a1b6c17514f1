import NodeTelemetry.Proofs.Client.History
import NodeTelemetry.Proofs.Json.Records
import NodeTelemetry.Proofs.Time.Stamp

/-!
# The samples that a client receives

The service writes its samples with instants, a client reads them with texts for these. Both forms of a
sample have the same fields in one order, so that every value is read under the name under which it
was written (`readsIf_sample`): words as they are, the load of the processor as some number, and the
timestamp as a text that is shown as the date and time of the instant in UTC.
-/

namespace NodeTelemetry

/-- A sample that can be written: its load is a number that 64 bits can hold, and the year of its
timestamp has four digits. -/
structure Sample.Writable (x : Sample) : Prop where
  /-- The load is finite. -/
  finite : x.usage.cpuPercent.isFinite = true
  /-- It fits. -/
  fits : x.usage.cpuPercent.Fits
  /-- The timestamp lies in a second or in a leap second. -/
  nanos : x.timestamp.nanos < 2000000000
  /-- It is not before year 0. -/
  low : 0 ≤ x.timestamp.toDateTime.date.year
  /-- It is not after year 9999. -/
  high : x.timestamp.toDateTime.date.year ≤ 9999

/-- A sample of a client is one of the service's: all words are the same, and the timestamp is shown
as the date and time of the instant. -/
structure Sample.ReceivedAs (x : Sample) (y : ReceivedSample) : Prop where
  /-- The numbers are the same, perhaps but for the load. -/
  usage : y.usage = { x.usage with cpuPercent := y.usage.cpuPercent }
  /-- The timestamp is shown in UTC. -/
  shown : ∃ d : Time.DateTime, d.Tells x.timestamp ∧
    Client.timeText y.timestamp = String.ofList d.display

/-- The timestamp of an instant is shown as its date and time. -/
theorem Client.timeText_text {t : Time.Instant} (hnanos : t.nanos < 2000000000)
    (hlow : 0 ≤ t.toDateTime.date.year) (hhigh : t.toDateTime.date.year ≤ 9999) :
    timeText t.text = String.ofList t.toDateTime.display := by
  unfold timeText
  rw [Time.readStrict_text hnanos hlow hhigh]

namespace Stamped

open Json

section Fields

variable {w : Spacing} {fuel depth : Nat}

/-- A text is read into the timestamp. -/
theorem fieldRead_stamp (stamp : String) :
    Schema.FieldRead w compact fuel depth (stampField Reader.text)
      (.str stamp, (· = fun s : ReceivedSample => { s with timestamp := stamp })) := by
  intro hfuel rest _
  refine ⟨_, rfl, ?_⟩
  have htext : (str stamp).compact = scalarText (.str stamp) := compact_scalar id
  rw [htext] at hfuel ⊢
  show (Reader.text fuel _ >>= _) = _
  rw [Reader.text_scalarText w.blank_colon hfuel rest]
  rfl

/-- A finite number is read into the load, as some number. -/
theorem fieldRead_load {load : Binary} (hfinite : load.isFinite = true) (hfits : load.Fits) :
    Schema.FieldRead w compact fuel depth loadField
      (.real load, fun change => ∃ y, change = fun s : ReceivedSample =>
        { s with usage := { s.usage with cpuPercent := y } }) := by
  intro _ rest hrest
  have htext : (real load).compact = scalarText (.real load) := compact_scalar id
  cases load with
  | finite negative m e =>
    obtain ⟨y, hy⟩ := Reader.real_scalarText w.blank_colon hfits hrest
    refine ⟨_, ⟨y, rfl⟩, ?_⟩
    show (Reader.real _ >>= _) = _
    rw [htext, hy]
    rfl
  | infinite | nan => cases hfinite

/-- A word is read into its field. -/
theorem fieldRead_word (name : String) (n : UInt64) (set : UInt64 → Usage → Usage) :
    Schema.FieldRead w compact fuel depth (wordField name set)
      (word n, (· = fun s : ReceivedSample => { s with usage := set n s.usage })) := by
  intro _ rest hrest
  refine ⟨_, rfl, ?_⟩
  have htext : (word n).compact = scalarText (.int n.toNat) := compact_scalar id
  show (Reader.natural _ >>= _) = _
  rw [htext, Reader.natural_scalarText w.blank_colon n hrest]
  rfl

/-- The members of a sample are read field by field, and what they make is this sample. -/
theorem fieldsRead_sample {x : Sample} (h : x.Writable) :
    ∃ vs, List.Forall₂ (Schema.FieldRead w compact fuel depth) ReceivedSample.schema.fields vs ∧
      x.toJson = .obj (Schema.named ReceivedSample.schema.fields vs) ∧
      ∀ y, Schema.Made (vs.map Prod.snd) ReceivedSample.schema.blank y → x.ReceivedAs y := by
  obtain ⟨stamp, usage⟩ := x
  -- both forms have their fields in this order, or the members would not be those of the sample
  refine ⟨_, .cons (fieldRead_stamp stamp.text) (.cons (fieldRead_load h.finite h.fits)
    (.cons (fieldRead_word _ usage.memUsedMb _) (.cons (fieldRead_word _ usage.memTotalMb _)
    (.cons (fieldRead_word _ usage.swapUsedMb _) (.cons (fieldRead_word _ usage.swapTotalMb _)
    (.cons (fieldRead_word _ usage.pswpin _) (.cons (fieldRead_word _ usage.pswpout _)
    (.cons (fieldRead_word _ usage.pgfault _) (.cons (fieldRead_word _ usage.pgmajfault _)
    (.cons (fieldRead_word _ usage.pgpgin _) (.cons (fieldRead_word _ usage.pgpgout _)
    (.cons (fieldRead_word _ usage.diskReadBytes _) (.cons (fieldRead_word _ usage.diskWriteBytes _)
    .nil))))))))))))), rfl, fun y hy => ?_⟩
  obtain ⟨_, ⟨load, rfl⟩, hwords⟩ := Schema.made_cons.mp (Schema.made_eq_cons.mp hy)
  simp only [List.map_cons, List.map_nil, Schema.made_eq_cons, Schema.made_nil] at hwords
  subst hwords
  exact ⟨rfl, _, Time.tells_toDateTime _, Client.timeText_text h.nanos h.low h.high⟩

end Fields

/-- **A sample is read from its text as a client receives it.** -/
theorem readsIf_sample {x : Sample} (h : x.Writable) {fuel : Nat} (depth : Nat)
    (hfuel : x.toJson.compact.toList.length < fuel) :
    Reader.ReadsIf (ReceivedSample.schema.read fuel (depth + 1)) True x.ReceivedAs
      (Glyph.ofString x.toJson.compact) := by
  have hdistinct : ReceivedSample.schema.Distinct := by decide
  obtain ⟨vs, hread, hmembers, hmade⟩ := fieldsRead_sample h
  rw [hmembers] at hfuel ⊢
  exact (Schema.readsIf_named lays_compact hdistinct 0 depth hfuel hread rfl).imp hmade

end Stamped

namespace Client

open Json in
/-- Samples are read from the text of their list, in whatever pieces it arrives. -/
theorem readList_samples {xs : List Sample} (h : ∀ x ∈ xs, x.Writable) {pieces : List (List UInt8)}
    (hpieces : pieces.flatten = Utf8.ofString (arr (xs.map Sample.toJson)).compact) :
    ∃ ys, readList ReceivedSample.schema.read ⟨200, some "application/json", pieces, false⟩ =
      .ok ys ∧ List.Forall₂ Sample.ReceivedAs xs ys := by
  have hfuel := lt_fuelFor (arr (xs.map Sample.toJson)).compact
  obtain ⟨ys, hys, hread⟩ := (Reader.listOf_arr lays_compact 0 hfuel fun x hx =>
    Stamped.readsIf_sample (h x hx) (maxDepth - 2)).1 fun _ _ => trivial
  refine ⟨ys, ?_, hys⟩
  rw [readList_text _ hpieces, readWhole_eq_ok.mpr ⟨[], hread, rfl⟩]
  rfl

end Client

namespace Service

/-- A request for the samples: the scope names them. -/
def AsksForSamples (r : Request) : Prop :=
  r.method = "GET" ∧ r.path = "/history" ∧
    (r.queryMembers.filter fun m => m.1 == scopeName).map (·.2) = ["stats"]

instance (r : Request) : Decidable (AsksForSamples r) := inferInstanceAs (Decidable (_ ∧ _ ∧ _))

/-- The answer to a request for the samples is the compact array of their objects. -/
theorem respond_asksForSamples (s : Service) (now : Time.Instant) {r : Request}
    (h : AsksForSamples r) :
    (s.respond now .query r).response =
      ⟨200, [("content-type", "application/json")],
        .text (Json.arr (s.store.samples.entries.map Sample.toJson)).compact⟩ := by
  obtain ⟨hmethod, hpath, hvalues⟩ := h
  have hscope : requestedScope r = .ok .stats := by
    unfold requestedScope
    obtain ⟨m, hm, hstats⟩ := List.map_eq_singleton_iff.mp hvalues
    rw [hm]
    show (Scope.ofQuery (some m.2)).mapError QueryError.unknownScope = .ok .stats
    rw [hstats]
    rfl
  exact respond_history hmethod hpath hscope s now

end Service

/-- **A client receives the samples that the service keeps.** Let the load of each be a finite number
of 64 bits and the year of its timestamp have four digits. Then a request for the samples is answered
by one text, and a client reads it, in whatever pieces it arrives, as a list of as many samples in the
same order. Each has all words of the one that was kept, up to the largest, and its timestamp is shown
as the date and time in UTC, to the second. -/
theorem Client.samples_are_received (s : Service)
    (h : ∀ x ∈ s.store.samples.entries, x.Writable) (now : Time.Instant) {r : Service.Request}
    (hr : Service.AsksForSamples r) :
    ∃ body, (s.respond now .query r).response =
        ⟨200, [("content-type", "application/json")], .text body⟩ ∧
      ∀ pieces : List (List UInt8), pieces.flatten = Utf8.ofString body →
        ∃ ys, readList ReceivedSample.schema.read
            ⟨200, some "application/json", pieces, false⟩ = .ok ys ∧
          List.Forall₂ Sample.ReceivedAs s.store.samples.entries ys :=
  ⟨_, s.respond_asksForSamples now hr, fun _ hpieces => readList_samples h hpieces⟩

/-- A sample in the middle of a leap second, with the largest word. -/
def leapSample : Sample :=
  ⟨⟨1483228799, 1500000000⟩,
    { Usage.zero with cpuPercent := .ofNat .double 50, memUsedMb := 18446744073709551615 }⟩

/-- A service with the one sample. -/
def afterLeap : Service := (Service.start "node" (.empty 1) 1000).run [.sample leapSample]

/-- A request for the samples. -/
def samplesRequest : Service.Request := ⟨"GET", "/history?scope=stats", []⟩

/-- The largest word arrives, and the leap second is shown. -/
theorem Client.samples_are_received_leap :
    (∀ x ∈ afterLeap.store.samples.entries, x.Writable) ∧
    Service.AsksForSamples samplesRequest ∧
    ∃ body, (afterLeap.respond ⟨0, 0⟩ .query samplesRequest).response =
        ⟨200, [("content-type", "application/json")], .text body⟩ ∧
      ∃ y, readList ReceivedSample.schema.read
          ⟨200, some "application/json", [Utf8.ofString body], false⟩ = .ok [y] ∧
        y.usage.memUsedMb = 18446744073709551615 ∧
        timeText y.timestamp = "2016-12-31 23:59:60" := by
  have hwritable : ∀ x ∈ afterLeap.store.samples.entries, x.Writable := by
    intro x hx
    obtain rfl : x = leapSample := List.mem_singleton.mp hx
    exact ⟨by decide +kernel, Binary.fits_ofNat 50, by decide, by decide +kernel, by decide +kernel⟩
  have hasks : Service.AsksForSamples samplesRequest := by decide
  obtain ⟨body, hbody, hread⟩ := samples_are_received afterLeap hwritable ⟨0, 0⟩ hasks
  obtain ⟨ys, hys, hreceived⟩ := hread [Utf8.ofString body] List.flatten_singleton
  change List.Forall₂ Sample.ReceivedAs [leapSample] ys at hreceived
  obtain ⟨y, _, hy, hnil, rfl⟩ := List.forall₂_cons_left_iff.mp hreceived
  cases hnil
  obtain ⟨d, hd, hshown⟩ := hy.shown
  refine ⟨hwritable, hasks, body, hbody, y, hys, congrArg Usage.memUsedMb hy.usage, ?_⟩
  rw [hshown, Time.tells_iff.mp hd]
  decide +kernel

end NodeTelemetry
