import Mathlib.Data.List.Basic
import NodeTelemetry.Proofs.Client.Cuts
import NodeTelemetry.Proofs.Client.Frames
import NodeTelemetry.Proofs.Lists
import NodeTelemetry.Proofs.Text.Ascii

/-!
# A stream decoded at once

A `FrameDecoder` takes a stream byte by byte and keeps what has arrived of a frame. What it gives
can be said without it: delete the carriage returns, cut the bytes at each leftmost two line feeds
in a row (`Cut`), and read each piece by itself (`pieceData?`).

While bytes arrive, the decoder holds the tail of what has arrived so far (`feed_eq_cut`). So it
does not matter where the stream is cut into chunks, and a frame comes out of the chunk that brings
the last of its line feeds.
-/

namespace NodeTelemetry.Client.FrameDecoder

/-! ### One piece -/

/-- The value of a line that begins with `data:`: what follows, without one blank at its beginning.
-/
def lineValue? (line : List Char) : Option (List Char) :=
  ("data:".toList.isPrefixOf? line).map fun rest => ([' '].isPrefixOf? rest).getD rest

/-- The values of the lines of a piece, joined by line feeds, if there are any. -/
def pieceData? (piece : List UInt8) : Option String :=
  match ((Utf8.lossy piece).toList.splitOn '\n').filterMap lineValue? with
  | [] => none
  | values => some (String.ofList (['\n'].intercalate values))

theorem lineData?_eq_lineValue? (line : List Char) : lineData? line = lineValue? line := by
  unfold lineValue?
  cases hprefix : "data:".toList.isPrefixOf? line with
  | none =>
    refine if_neg fun hmark => ?_
    have hline : "data:".toList ++ line.drop 5 = line := by
      rw [← show line.take 5 = "data:".toList from hmark, List.take_append_drop]
    rw [List.isPrefixOf?_eq_some_iff_append_eq.mpr hline] at hprefix
    cases hprefix
  | some rest =>
    obtain rfl := List.isPrefixOf?_eq_some_iff_append_eq.mp hprefix
    refine (if_pos rfl).trans ?_
    rw [show ("data:".toList ++ rest).drop 5 = rest from rfl]
    split
    · rfl
    · rename_i hne
      cases h : [' '].isPrefixOf? rest with
      | none => simp only [Option.map_some, h, Option.getD_none]
      | some rest' => exact absurd (List.isPrefixOf?_eq_some_iff_append_eq.mp h).symm (hne rest')

theorem joinLines_eq_intercalate (ls : List (List Char)) :
    joinLines ls = ['\n'].intercalate ls := by
  induction ls with
  | nil => rfl
  | cons l ls ih =>
    cases ls with
    | nil => exact (List.append_nil l).symm
    | cons l' ls => exact congrArg (l ++ '\n' :: ·) ih

/-- Two line feeds at the end make one more line, which is empty. -/
theorem lines_append_feeds {cs : List Char} (h : '\r' ∉ cs) :
    Text.lines (cs ++ ['\n'] ++ ['\n']) = cs.splitOn '\n' ++ [[]] := by
  have hreturn : ∀ line ∈ Text.splitOn (· == '\n') cs, Text.dropReturn line = line :=
    fun line hline =>
      Text.dropReturn_of_notMem fun hmem => h (Text.mem_of_mem_splitOn hline hmem)
  rw [Text.lines_append_feed, Text.splitOn_append_mark rfl, List.map_append,
    List.map_congr_left hreturn, List.map_id', Text.splitOn_eq_splitOnP, List.splitOn_eq_splitOnP]
  rfl

/-- A frame gives what its piece gives. -/
theorem frameData?_eq_pieceData? {piece : List UInt8} (h : 0x0D ∉ piece) :
    frameData? (piece ++ [0x0A, 0x0A]) = pieceData? piece := by
  have hreturn : '\r' ∉ (Utf8.lossy piece).toList :=
    Utf8.notMem_lossy (by decide) (by decide) fun b hb hvalue => h (by
      rwa [show b = 0x0D from UInt8.toNat_inj.mp hvalue] at hb)
  have hlossy : (Utf8.lossy (piece ++ [0x0A, 0x0A])).toList =
      (Utf8.lossy piece).toList ++ ['\n'] ++ ['\n'] := by
    rw [List.append_cons, Utf8.lossy_append_ascii _ (by decide),
      Utf8.lossy_append_ascii _ (by decide)]
    rfl
  unfold frameData? pieceData?
  rw [hlossy, lines_append_feeds hreturn, List.filterMap_append,
    List.filterMap_congr fun line _ => lineData?_eq_lineValue? line]
  rw [show [([] : List Char)].filterMap lineData? = [] from rfl, List.append_nil]
  cases ((Utf8.lossy piece).toList.splitOn '\n').filterMap lineValue? with
  | nil => rfl
  | cons value values => exact congrArg (some ∘ String.ofList) (joinLines_eq_intercalate _)

/-! ### Byte by byte -/

/-- The bytes that count. -/
def withoutReturns (bytes : List UInt8) : List UInt8 := bytes.filter (· ≠ 0x0D)

theorem withoutReturns_append (xs ys : List UInt8) :
    withoutReturns (xs ++ ys) = withoutReturns xs ++ withoutReturns ys := List.filter_append xs ys

theorem notMem_withoutReturns (bytes : List UInt8) : 0x0D ∉ withoutReturns bytes := by
  simp [withoutReturns]

/-- Carriage returns do not count. -/
theorem feed_withoutReturns (d : FrameDecoder) (bytes : List UInt8) :
    d.feed (withoutReturns bytes) = d.feed bytes := by
  induction bytes generalizing d with
  | nil => rfl
  | cons b bs ih =>
    by_cases hb : b = 0x0D
    · have hstep : d.step b = (d, none) := if_pos hb
      simp only [feed, hstep]
      rw [withoutReturns, List.filter_cons_of_neg (by simpa using hb)]
      exact ih d
    · rw [withoutReturns, List.filter_cons_of_pos (by simpa using hb)]
      simp only [feed]
      rw [← ih]
      rfl

/-- **What is pending is the tail of what has arrived**, and what came out are the pieces. -/
theorem feed_eq_cut {pending : List UInt8} (hplain : Plain pending) (hreturn : 0x0D ∉ pending)
    {bytes : List UInt8} (h : 0x0D ∉ bytes) :
    (feed ⟨pending⟩ bytes).1.pending.reverse = (cut (pending.reverse ++ bytes)).2 ∧
      (feed ⟨pending⟩ bytes).2 = (cut (pending.reverse ++ bytes)).1.filterMap pieceData? := by
  induction bytes generalizing pending with
  | nil =>
    rw [List.append_nil, cut_of_plain ((plain_reverse pending).mpr hplain)]
    exact ⟨rfl, rfl⟩
  | cons b bs ih =>
    obtain ⟨hb, hbs⟩ := not_or.mp (mt List.mem_cons.mpr h)
    by_cases hlf : b = 0x0A ∧ pending.head? = some 0x0A
    · -- the second of two line feeds ends the piece
      obtain ⟨rfl, hhead⟩ := hlf
      obtain ⟨piece, rfl⟩ := List.head?_eq_some_iff.mp hhead
      have hstep : step ⟨0x0A :: piece⟩ 0x0A = (empty, some (piece.reverse ++ [0x0A, 0x0A])) := by
        unfold step
        rw [if_neg (by decide), if_pos ⟨rfl, rfl⟩, List.reverse_cons, List.reverse_cons,
          List.append_assoc]
        rfl
      have hpiece : Plain (piece.reverse ++ [0x0A]) := by
        rw [← List.reverse_cons]
        exact (plain_reverse _).mpr hplain
      have hdata : frameData? (piece.reverse ++ [0x0A, 0x0A]) = pieceData? piece.reverse :=
        frameData?_eq_pieceData? fun hmem =>
          hreturn (List.mem_cons_of_mem _ (List.mem_reverse.mp hmem))
      obtain ⟨hpending, hframes⟩ := ih plain_nil List.not_mem_nil hbs
      rw [List.reverse_cons, List.append_assoc, List.singleton_append, cut_piece hpiece,
        filterMap_cons_toList]
      simp only [feed, hstep, Option.bind_some, hdata]
      exact ⟨hpending, congrArg ((pieceData? piece.reverse).toList ++ ·) hframes⟩
    · have hstep : step ⟨pending⟩ b = (⟨b :: pending⟩, none) :=
        (if_neg (Ne.symm hb)).trans (if_neg hlf)
      have hrest := ih ((plain_cons b pending).mpr ⟨hlf, hplain⟩)
        (List.not_mem_cons_of_ne_of_not_mem hb hreturn) hbs
      rw [List.reverse_cons, List.append_assoc] at hrest
      simp only [feed, hstep]
      exact hrest

/-! ### Chunk by chunk -/

theorem getElem?_pushAll (d : FrameDecoder) (before : List (List UInt8)) (chunk : List UInt8)
    (after : List (List UInt8)) :
    (d.pushAll (before ++ chunk :: after)).2[before.length]? =
      some ((d.pushAll before).1.push chunk).2 := by
  induction before generalizing d with
  | nil => rfl
  | cons first before ih => exact ih (d.push first).1

/-- What is pending after some chunks, and what has come out of them. -/
theorem pushAll_eq_cut (chunks : List (List UInt8)) :
    (empty.pushAll chunks).1.pending.reverse = (cut (withoutReturns chunks.flatten)).2 ∧
      (empty.pushAll chunks).2.flatten =
        (cut (withoutReturns chunks.flatten)).1.filterMap pieceData? := by
  obtain ⟨hd, hdatas⟩ := pushAll_eq_feed empty chunks
  rw [hd, hdatas, ← feed_withoutReturns]
  exact feed_eq_cut plain_nil List.not_mem_nil (notMem_withoutReturns chunks.flatten)

/-- What a chunk completes are the pieces that come of it and the tail of what arrived before. -/
theorem push_eq_cut (before : List (List UInt8)) (chunk : List UInt8) :
    ((empty.pushAll before).1.push chunk).2 =
      (cut ((cut (withoutReturns before.flatten)).2 ++ withoutReturns chunk)).1.filterMap
        pieceData? := by
  have hcut := cut_cut (withoutReturns before.flatten)
  have hpending := (pushAll_eq_cut before).1
  generalize (empty.pushAll before).1 = d at hpending
  have hplain : Plain d.pending := by
    rw [← plain_reverse, hpending]
    exact hcut.plain_tail
  have hreturn : 0x0D ∉ d.pending := by
    intro hmem
    have htail := List.mem_reverse.mpr hmem
    rw [hpending] at htail
    refine notMem_withoutReturns before.flatten ?_
    rw [← hcut.joined_eq]
    exact List.mem_append_right _ htail
  rw [push_eq_feed, ← feed_withoutReturns, ← hpending]
  exact (feed_eq_cut hplain hreturn (notMem_withoutReturns chunk)).2

/-- **A stream is decoded as if it were there at once.** For any chunks of any bytes, let `bytes` be
all that arrives without its carriage returns. Then

* `bytes` has one cut only, at each leftmost two line feeds in a row, and the tail has none;
* what comes out of all chunks are the values of the pieces, those without any left out, and what is
  pending in the end is the tail;
* other chunks of the same bytes give the same and leave the same;
* each chunk gives the values of the pieces whose last line feed stands in it. -/
theorem decodes_as_a_whole (chunks : List (List UInt8)) :
    let bytes := withoutReturns chunks.flatten
    let r := empty.pushAll chunks
    (Cut bytes (cut bytes).1 (cut bytes).2 ∧
      ∀ pieces tail, Cut bytes pieces tail → pieces = (cut bytes).1 ∧ tail = (cut bytes).2) ∧
    r.2.flatten = (cut bytes).1.filterMap pieceData? ∧
    r.1.pending.reverse = (cut bytes).2 ∧
    (∀ others, others.flatten = chunks.flatten →
      (empty.pushAll others).2.flatten = r.2.flatten ∧ (empty.pushAll others).1 = r.1) ∧
    ∀ before chunk after, chunks = before ++ chunk :: after →
      let x := withoutReturns before.flatten
      let y := withoutReturns chunk
      r.2[before.length]? =
        some (((placed 0 (cut bytes).1).filter fun e =>
          x.length ≤ e.1 ∧ e.1 < (x ++ y).length).filterMap fun e => pieceData? e.2) := by
  intro bytes r
  obtain ⟨hpending, hframes⟩ := pushAll_eq_cut chunks
  refine ⟨⟨cut_cut bytes, fun pieces tail h => ?_⟩, hframes, hpending, fun others h => ?_,
    fun before chunk after h => ?_⟩
  · rw [h.eq_cut]
    exact ⟨rfl, rfl⟩
  · obtain ⟨hd, hdatas⟩ := pushAll_eq_feed empty chunks
    obtain ⟨hd', hdatas'⟩ := pushAll_eq_feed empty others
    rw [h] at hd' hdatas'
    exact ⟨hdatas'.trans hdatas.symm, hd'.trans hd.symm⟩
  · intro x y
    have hbytes : bytes = x ++ y ++ withoutReturns after.flatten := by
      show withoutReturns chunks.flatten = _
      rw [h, List.flatten_append, List.flatten_cons, withoutReturns_append, withoutReturns_append,
        List.append_assoc]
    have hbetween := placed_between x y (withoutReturns after.flatten)
    rw [← hbytes] at hbetween
    rw [show r.2[before.length]? = some _ from h ▸ getElem?_pushAll empty before chunk after,
      push_eq_cut before chunk, hbetween, ← Function.comp_def, ← List.filterMap_map,
      map_snd_placed]

/-- A comment, a frame of two lines with a letter that is cut, and the beginning of a third one. -/
def cutChunks : List (List UInt8) :=
  [Utf8.ofString ":up\r\n\r", Utf8.ofString "\ndata: " ++ [0xC3],
    0xA9 :: Utf8.ofString "\ndata:b\n", Utf8.ofString "\n\ndata:x"]

theorem decodes_as_a_whole_cut :
    Cut (withoutReturns cutChunks.flatten)
        [Utf8.ofString ":up", Utf8.ofString "data: \u00e9\ndata:b"] (Utf8.ofString "\ndata:x") ∧
      (empty.pushAll cutChunks).2.flatten = ["\u00e9\nb"] ∧
      (empty.pushAll cutChunks).1.pending.reverse = Utf8.ofString "\ndata:x" ∧
      (empty.pushAll [cutChunks.flatten]).2.flatten = (empty.pushAll cutChunks).2.flatten ∧
      (empty.pushAll cutChunks).2[3]? = some ["\u00e9\nb"] := by
  obtain ⟨⟨hcut, hunique⟩, hframes, hpending, hothers, hchunk⟩ := decodes_as_a_whole cutChunks
  have heval : cut (withoutReturns cutChunks.flatten) =
      ([Utf8.ofString ":up", Utf8.ofString "data: \u00e9\ndata:b"], Utf8.ofString "\ndata:x") := by
    decide
  have hwhole : [cutChunks.flatten].flatten = cutChunks.flatten := List.append_nil _
  rw [heval] at hcut hpending
  obtain ⟨hpieces, -⟩ := hunique _ _ hcut
  rw [← hpieces] at hframes hchunk
  exact ⟨hcut, hframes.trans (by decide), hpending, (hothers _ hwhole).1,
    (hchunk (cutChunks.take 3) _ [] rfl).trans (by decide)⟩

end NodeTelemetry.Client.FrameDecoder
