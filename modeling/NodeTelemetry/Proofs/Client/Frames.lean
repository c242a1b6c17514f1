import NodeTelemetry.Client.Frames
import NodeTelemetry.Proofs.Json.Writer
import NodeTelemetry.Proofs.Text.Lines
import NodeTelemetry.Proofs.Text.Utf8
import NodeTelemetry.Service.Basic

/-!
# A stream of entries, sent and read

The service writes each entry of a stream as a line of data and an empty line
(`Service.frameText`); a client pushes what arrives, in whatever chunks, into a `FrameDecoder`. This
module proves that the client gets back the compact texts of the entries, in order and nothing else.

## The decoder byte by byte

A chunk is a fold of `FrameDecoder.step` over its bytes. `feed` is that fold as a recursion on the
bytes, with the frames in the order in which they are completed; it turns concatenation into
composition (`feed_append`), so what several chunks give depends on their concatenation only
(`pushAll_eq_feed`). The rest follows one frame: no byte of its line is a line feed or a carriage
return, since a compact text has no control characters, so the decoder collects the line, meets the
two line feeds and is empty again.
-/

namespace NodeTelemetry.Client.FrameDecoder

/-! ### Chunks -/

/-- Takes bytes one by one: the decoder after them, and the data of the frames that they complete. -/
def feed (d : FrameDecoder) : List UInt8 → FrameDecoder × List String
  | [] => (d, [])
  | b :: bs =>
    let (d, frame) := d.step b
    let (d, datas) := feed d bs
    (d, (frame.bind frameData?).toList ++ datas)

/-- Takes chunks one after the other: the decoder after them, and what each of them completes. -/
def pushAll (d : FrameDecoder) : List (List UInt8) → FrameDecoder × List (List String)
  | [] => (d, [])
  | chunk :: chunks =>
    let (d, datas) := d.push chunk
    let (d, rest) := pushAll d chunks
    (d, datas :: rest)

/-- A fold that keeps the data found so far, the latest first. -/
theorem foldl_eq_feed {f : FrameDecoder × List String → UInt8 → FrameDecoder × List String}
    (hf : ∀ d found b,
      f (d, found) b = ((d.step b).1, ((d.step b).2.bind frameData?).toList ++ found))
    (chunk : List UInt8) (d : FrameDecoder) (found : List String) :
    chunk.foldl f (d, found) = ((d.feed chunk).1, (d.feed chunk).2.reverse ++ found) := by
  induction chunk generalizing d found with
  | nil => rfl
  | cons b bs ih =>
    rw [List.foldl_cons, hf, ih]
    simp only [feed, List.reverse_append, List.append_assoc]
    cases (d.step b).2.bind frameData? with
    | none => rfl
    | some data => rfl

theorem push_eq_feed (d : FrameDecoder) (chunk : List UInt8) : d.push chunk = d.feed chunk := by
  unfold push
  rw [foldl_eq_feed]
  · simp only [List.append_nil, List.reverse_reverse]
  · intro d found b
    cases h : (d.step b).2.bind frameData? with
    | none => simp only [h, Option.toList_none, List.nil_append]
    | some data => simp only [h, Option.toList_some, List.singleton_append]

theorem feed_append (d : FrameDecoder) (bs cs : List UInt8) :
    d.feed (bs ++ cs) =
      (((d.feed bs).1.feed cs).1, (d.feed bs).2 ++ ((d.feed bs).1.feed cs).2) := by
  induction bs generalizing d with
  | nil => rfl
  | cons b bs ih => simp only [List.cons_append, feed, ih, List.append_assoc]

/-- What several chunks give depends on their concatenation only. -/
theorem pushAll_eq_feed (d : FrameDecoder) (chunks : List (List UInt8)) :
    (d.pushAll chunks).1 = (d.feed chunks.flatten).1 ∧
      (d.pushAll chunks).2.flatten = (d.feed chunks.flatten).2 := by
  induction chunks generalizing d with
  | nil => exact ⟨rfl, rfl⟩
  | cons chunk chunks ih =>
    obtain ⟨h1, h2⟩ := ih (d.feed chunk).1
    rw [List.flatten_cons, feed_append]
    simp only [pushAll, push_eq_feed, List.flatten_cons, h1, h2, and_self]

/-! ### One frame -/

/-- The bytes of a line are collected. -/
theorem feed_line (d : FrameDecoder) {bs : List UInt8} (h : ∀ b ∈ bs, 0x20 ≤ b.toNat) :
    d.feed bs = (⟨bs.reverse ++ d.pending⟩, []) := by
  induction bs generalizing d with
  | nil => rfl
  | cons b bs ih =>
    obtain ⟨hb, hbs⟩ := List.forall_mem_cons.mp h
    have hcr : b ≠ 0x0D := fun he => absurd hb (by rw [he]; decide)
    have hlf : b ≠ 0x0A := fun he => absurd hb (by rw [he]; decide)
    have hstep : d.step b = (⟨b :: d.pending⟩, none) := by
      unfold step
      rw [if_neg hcr, if_neg fun h => hlf h.1]
    simp only [feed, hstep, ih _ hbs, List.reverse_cons, List.append_assoc]
    rfl

/-- A line and an empty line are a frame, and nothing of it stays. -/
theorem feed_frame {bs : List UInt8} (h : ∀ b ∈ bs, 0x20 ≤ b.toNat) (hne : bs ≠ []) :
    empty.feed (bs ++ [0x0A, 0x0A]) = (empty, (frameData? (bs ++ [0x0A, 0x0A])).toList) := by
  obtain ⟨last, rest, hrev⟩ := List.exists_cons_of_ne_nil (List.reverse_ne_nil_iff.mpr hne)
  have hlast : last ≠ 0x0A := by
    have hmem : last ∈ bs := List.mem_reverse.mp (hrev ▸ List.mem_cons_self)
    exact fun he => absurd (h last hmem) (by rw [he]; decide)
  have hfirst : step ⟨last :: rest⟩ 0x0A = (⟨0x0A :: last :: rest⟩, none) := by
    unfold step
    rw [if_neg (by decide), if_neg fun h => hlast (Option.some.inj h.2)]
  have hsecond : step ⟨0x0A :: last :: rest⟩ 0x0A =
      (empty, some (0x0A :: 0x0A :: last :: rest).reverse) := by
    unfold step
    rw [if_neg (by decide), if_pos ⟨rfl, rfl⟩]
  have hbytes : (0x0A :: 0x0A :: last :: rest).reverse = bs ++ [0x0A, 0x0A] := by
    rw [← hrev]
    simp
  rw [feed_append, feed_line empty h, show empty.pending = [] from rfl, List.append_nil, hrev]
  simp only [feed, hfirst, hsecond, hbytes]
  simp

/-- The data of the frame of a text without control characters. -/
theorem frameData?_text {text : String} (h : Json.ControlFree text.toList) :
    frameData? (Utf8.ofString ("data: " ++ text ++ "\n\n")) = some text := by
  have hline : Json.ControlFree ("data: ".toList ++ text.toList) := .append (by decide) h
  have hnotMem : ∀ c : Char, c.toNat < 0x20 → c ∉ "data: ".toList ++ text.toList :=
    fun c hc hmem => absurd (hline c hmem) (Nat.not_le_of_lt hc)
  have hlines : Text.lines ("data: " ++ text ++ "\n\n").toList =
      ["data: ".toList ++ text.toList, []] := by
    rw [String.toList_append, String.toList_append,
      show "\n\n".toList = '\n' :: ['\n'] from rfl,
      Text.lines_append_cons (hnotMem '\n' (by decide)),
      Text.dropReturn_of_notMem (hnotMem '\r' (by decide))]
    rfl
  unfold frameData?
  rw [Utf8.lossy_ofString, hlines]
  show some (String.ofList text.toList) = some text
  rw [String.ofList_toList]

/-! ### A stream -/

open Service (frameText)

/-- The bytes of the frame of an entry. -/
def frameBytes (entry : Json) : List UInt8 := Utf8.ofString (frameText entry)

/-- The frame of an entry gives the compact text of the entry, and nothing of it stays. -/
theorem feed_entry (entry : Json) : empty.feed (frameBytes entry) = (empty, [entry.compact]) := by
  have hfree := Json.control_free_compact entry
  have hbytes : frameBytes entry =
      Utf8.ofString ("data: " ++ entry.compact) ++ [0x0A, 0x0A] := by
    unfold frameBytes frameText
    rw [Utf8.ofString_append]
    rfl
  have hdata : frameData? (frameBytes entry) = some entry.compact := frameData?_text hfree
  rw [hbytes] at hdata ⊢
  rw [feed_frame, hdata]
  · rfl
  · refine Utf8.printable_ofString ?_
    rw [String.toList_append]
    exact Json.ControlFree.append (by decide) hfree
  · rw [Utf8.ofString_append]
    exact List.append_ne_nil_of_left_ne_nil (by decide) _

/-- The frames of some entries give their compact texts, and nothing of them stays. -/
theorem feed_entries (entries : List Json) :
    empty.feed (entries.flatMap frameBytes) = (empty, entries.map Json.compact) := by
  induction entries with
  | nil => rfl
  | cons e es ih =>
    rw [List.flatMap_cons, feed_append, feed_entry, ih]
    rfl

/-- The entry that an event or a sample is. -/
def entryOf : Event ⊕ Sample → Json := Sum.elim Event.toJson Sample.toJson

/-- **What is sent is what is read**: however the frames of some events and samples are cut into
chunks, a decoder that takes the chunks in order gives exactly the compact texts of these events and
samples, in order, and has nothing pending in the end. -/
theorem stream_round_trip (records : List (Event ⊕ Sample)) (chunks : List (List UInt8))
    (h : chunks.flatten = records.flatMap fun r => frameBytes (entryOf r)) :
    (empty.pushAll chunks).2.flatten = records.map (fun r => (entryOf r).compact) ∧
      (empty.pushAll chunks).1.pending = [] := by
  have hfeed := feed_entries (records.map entryOf)
  rw [List.flatMap_map, ← h, List.map_map] at hfeed
  obtain ⟨hd, hdatas⟩ := pushAll_eq_feed empty chunks
  rw [hd, hdatas, hfeed]
  exact ⟨rfl, rfl⟩

/-- An event whose kind holds a line break and a letter of two bytes. -/
def brokenLineEvent : Event := ⟨.str "\r\n\u00e9", .null, []⟩

/-- Sent byte by byte, so that the letter is cut and the two line feeds are. -/
theorem stream_round_trip_bytewise :
    ((frameBytes brokenLineEvent.toJson).map fun b => [b]).flatten =
        [Sum.inl brokenLineEvent].flatMap (fun r => frameBytes (entryOf r)) ∧
      (empty.pushAll ((frameBytes brokenLineEvent.toJson).map fun b => [b])).2.flatten =
        ["\x7b\"type\":\"\\r\\n\u00e9\",\"ts\":null\x7d"] ∧
      (empty.pushAll ((frameBytes brokenLineEvent.toJson).map fun b => [b])).1.pending = [] := by
  have h : ((frameBytes brokenLineEvent.toJson).map fun b => [b]).flatten =
      [Sum.inl brokenLineEvent].flatMap (fun r => frameBytes (entryOf r)) := by
    rw [← List.flatMap_def, List.flatMap_singleton', List.flatMap_singleton]
    rfl
  obtain ⟨hdatas, hpending⟩ := stream_round_trip [.inl brokenLineEvent] _ h
  refine ⟨h, ?_, hpending⟩
  rw [hdatas]
  decide

end NodeTelemetry.Client.FrameDecoder
