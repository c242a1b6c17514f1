import Mathlib.Data.List.Induction
import NodeTelemetry.Client.Session
import NodeTelemetry.Proofs.Client.Frames

/-!
# A stream that is followed

A client that follows a stream takes its body piece by piece and prints the frames of each piece one
by one, until it has printed as many as it was asked for. `Following` is where it stands between two
pieces or two frames: it wants more, or it has ended, and then it looks at nothing that may still
come. What `follow` reports for a whole body is what such a client has printed when the body ends
(`Following.close_after`).

A client counts a frame after it has printed it, so it prints one even if it was asked for none
(`wanted`). The induction is on the frames as they arrive, the latest one last: before each of them
the client has printed all frames so far, or it has ended (`Following.foldl_frame`). Frames do not
depend on the pieces that bring them, and neither does what is printed.
-/

namespace NodeTelemetry.Client

/-! ### The frames that are printed -/

/-- The frames that are printed of those that arrive: all of them, or the first ones up to a count,
but at least one. -/
def wanted (count : Option Nat) (frames : List String) : List String :=
  match count with
  | none => frames
  | some n => frames.take (max n 1)

/-- So many frames are all that is wanted. -/
def Enough (count : Option Nat) (k : Nat) : Prop := ∃ n ∈ count, max n 1 ≤ k

instance (count : Option Nat) (k : Nat) : Decidable (Enough count k) :=
  match count with
  | none => isFalse nofun
  | some n => decidable_of_iff (max n 1 ≤ k) (by simp [Enough])

theorem Enough.mono {count : Option Nat} {j k : Nat} (h : Enough count j) (hjk : j ≤ k) :
    Enough count k := by
  obtain ⟨n, hn, hle⟩ := h
  exact ⟨n, hn, Nat.le_trans hle hjk⟩

/-- Nothing is wanted of what comes when there are enough. -/
theorem wanted_append_of_enough {count : Option Nat} {frames : List String}
    (h : Enough count frames.length) (more : List String) :
    wanted count (frames ++ more) = wanted count frames := by
  obtain ⟨n, hn, hle⟩ := h
  rw [Option.mem_def.mp hn]
  exact List.take_append_of_le_length hle

/-- What is wanted of the first frames is wanted of all. -/
theorem mem_wanted_append {count : Option Nat} {frames : List String} {data : String}
    (h : data ∈ wanted count frames) (more : List String) : data ∈ wanted count (frames ++ more) := by
  cases count with
  | none => exact List.mem_append_left more h
  | some n =>
    show data ∈ (frames ++ more).take (max n 1)
    rw [List.take_append]
    exact List.mem_append_left _ h

/-- All frames are wanted as long as there were not enough before the last one. -/
theorem wanted_of_not_enough {count : Option Nat} {frames : List String}
    (h : ∀ n ∈ count, frames.length ≤ max n 1) : wanted count frames = frames := by
  cases count with
  | none => rfl
  | some n => exact List.take_of_length_le (h n rfl)

theorem not_enough {count : Option Nat} {k : Nat} (h : ¬Enough count k) :
    ∀ n ∈ count, k < max n 1 := fun n hn => Nat.lt_of_not_le fun hle => h ⟨n, hn, hle⟩

/-- At least one frame is wanted. -/
theorem not_enough_zero (count : Option Nat) : ¬Enough count 0 := by
  rintro ⟨n, -, hle⟩
  omega

/-! ### Where a client stands -/

/-- Where a client stands that follows a stream. -/
inductive Following where
  /-- It wants more frames, and has printed these lines so far. -/
  | wants (printed : List String)
  /-- It has ended. -/
  | ended (report : Report)

namespace Following

variable (render : String → Except Failure String) (count : Option Nat)

/-- Takes a frame, if more are wanted: prints it, and ends if it cannot be shown or if as many as
were asked for are printed now. -/
def frame : Following → String → Following
  | ended report, _ => ended report
  | wants printed, data =>
    match render data with
    | .error failure => ended ⟨printed, some failure⟩
    | .ok line =>
      if count.any (· ≤ (printed ++ [line]).length) then ended ⟨printed ++ [line], none⟩
      else wants (printed ++ [line])

/-- Takes a piece of the body, if more frames are wanted, frame by frame. -/
def piece (s : FrameDecoder × Following) (bytes : List UInt8) : FrameDecoder × Following :=
  match s.2 with
  | ended _ => s
  | wants printed =>
    let (d, frames) := s.1.push bytes
    (d, frames.foldl (frame render count) (wants printed))

/-- Where the client stands when some pieces have arrived. -/
def after (pieces : List (List UInt8)) : Following :=
  (pieces.foldl (piece render count) (.empty, wants [])).2

/-- What the client reports when the body ends. -/
def close (atEnd : Option Failure) : Following → Report
  | wants printed => ⟨printed, atEnd⟩
  | ended report => report

variable {render} {count}

/-- A frame that cannot be shown is the last one. -/
theorem frame_error {data : String} {failure : Failure} (h : render data = .error failure)
    (printed : List String) :
    frame render count (wants printed) data = ended ⟨printed, some failure⟩ := by
  simp only [frame, h]

/-- A frame is printed, and it is the last one if there are enough now. -/
theorem frame_ok {data line : String} (h : render data = .ok line) (printed : List String) :
    frame render count (wants printed) data =
      if Enough count (printed.length + 1) then ended ⟨printed ++ [line], none⟩
      else wants (printed ++ [line]) := by
  have henough : count.any (· ≤ (printed ++ [line]).length) = true ↔
      Enough count (printed.length + 1) := by
    rw [List.length_append, List.length_singleton]
    cases count with
    | none => exact iff_of_false Bool.false_ne_true nofun
    | some n =>
      simp only [Option.any_some, decide_eq_true_eq, Enough, Option.mem_some_iff, exists_eq_left']
      omega
  simp only [frame, h, henough]

/-- A client that has ended takes no more frames. -/
theorem foldl_frame_ended (report : Report) (frames : List String) :
    frames.foldl (frame render count) (ended report) = ended report := by
  induction frames with
  | nil => rfl
  | cons data frames ih => exact ih

/-- Piece by piece is frame by frame. -/
theorem foldl_piece (pieces : List (List UInt8)) (d : FrameDecoder) (f : Following) :
    (pieces.foldl (piece render count) (d, f)).2 =
      (d.pushAll pieces).2.flatten.foldl (frame render count) f := by
  induction pieces generalizing d f with
  | nil => rfl
  | cons bytes pieces ih =>
    cases f with
    | ended report =>
      rw [foldl_frame_ended]
      exact (ih d (ended report)).trans (foldl_frame_ended report _)
    | wants printed =>
      rw [FrameDecoder.pushAll, List.flatten_cons, List.foldl_append]
      exact ih _ _

end Following

/-- The frames of a stream are those that a decoder completes piece after piece. -/
theorem framesOf_eq (pieces : List (List UInt8)) :
    framesOf pieces = (FrameDecoder.empty.pushAll pieces).2.flatten := by
  -- what was completed so far, the latest piece first, stands before the rest
  have hrun : ∀ (pieces : List (List UInt8)) (d : FrameDecoder) (found : List (List String)),
      (pieces.foldl (fun (acc : FrameDecoder × List (List String)) piece =>
        let (d, frames) := acc.1.push piece
        (d, frames :: acc.2)) (d, found)).2.reverse = found.reverse ++ (d.pushAll pieces).2 := by
    intro pieces
    induction pieces with
    | nil => exact fun d found => (List.append_nil _).symm
    | cons piece pieces ih =>
      intro d found
      rw [List.foldl_cons, FrameDecoder.pushAll]
      refine (ih _ _).trans ?_
      rw [List.reverse_cons, List.append_assoc]
      rfl
  exact congrArg List.flatten (hrun pieces .empty [])

/-- It does not matter where a stream is cut into pieces. -/
theorem framesOf_congr {pieces others : List (List UInt8)}
    (h : others.flatten = pieces.flatten) : framesOf others = framesOf pieces := by
  rw [framesOf_eq, framesOf_eq, (FrameDecoder.empty.pushAll_eq_feed others).2,
    (FrameDecoder.empty.pushAll_eq_feed pieces).2, h]

/-- What arrives later does not change the frames that have arrived. -/
theorem framesOf_append (arrived rest : List (List UInt8)) :
    ∃ more, framesOf (arrived ++ rest) = framesOf arrived ++ more := by
  refine ⟨((FrameDecoder.empty.feed arrived.flatten).1.feed rest.flatten).2, ?_⟩
  rw [framesOf_eq, framesOf_eq, (FrameDecoder.empty.pushAll_eq_feed _).2,
    (FrameDecoder.empty.pushAll_eq_feed arrived).2, List.flatten_append,
    FrameDecoder.feed_append]

/-! ### Printing frame by frame -/

section Printing

variable {render : String → Except Failure String} {count : Option Nat}

/-- A frame that can be shown is the last one if there are enough with it, and else the count goes
on. -/
theorem followFrames_cons {atEnd : Option Failure} {data line : String} (h : render data = .ok line)
    (frames : List String) {k : Nat} (hk : ¬Enough count k) :
    followFrames render atEnd (data :: frames) (count.map (· - k)) =
      if Enough count (k + 1) then ⟨[line], none⟩
      else
        let rest := followFrames render atEnd frames (count.map (· - (k + 1)))
        ⟨line :: rest.lines, rest.failure⟩ := by
  cases count with
  | none =>
    have hnone : ¬Enough none (k + 1) := nofun
    rw [if_neg hnone, followFrames]
    simp only [h, Option.map_none]
  | some n =>
    have hroom : k < max n 1 := not_enough hk n rfl
    by_cases henough : max n 1 ≤ k + 1
    · rw [if_pos ⟨n, rfl, henough⟩, Option.map_some, followFrames]
      obtain hzero | hone : n - k = 0 ∨ n - k = 1 := by omega
      · simp only [h, hzero]
      · simp only [h, hone]
    · have hmore : ¬Enough (some n) (k + 1) := by
        rintro ⟨m, hm, hle⟩
        exact henough (Option.some.inj hm ▸ hle)
      obtain ⟨m, hm⟩ : ∃ m, n - k = m + 2 := ⟨n - k - 2, by omega⟩
      have hnext : n - (k + 1) = m + 1 := by omega
      rw [if_neg hmore, Option.map_some, Option.map_some, followFrames, hm, hnext]
      simp only [h, Option.map_some, Nat.add_one_sub_one]

/-- What a client reports at the end of a stream is what is reported for all its frames. -/
theorem Following.close_foldl_frame (atEnd : Option Failure) (frames : List String)
    {printed : List String} (h : ¬Enough count printed.length) :
    (frames.foldl (frame render count) (wants printed)).close atEnd =
      let rest := followFrames render atEnd frames (count.map (· - printed.length))
      ⟨printed ++ rest.lines, rest.failure⟩ := by
  induction frames generalizing printed with
  | nil => simp only [List.foldl_nil, close, followFrames, List.append_nil]
  | cons data frames ih =>
    rw [List.foldl_cons]
    cases hrender : render data with
    | error failure =>
      have hend : followFrames render atEnd (data :: frames) (count.map (· - printed.length)) =
          ⟨[], some failure⟩ := by
        unfold followFrames
        rw [hrender]
      rw [frame_error hrender, foldl_frame_ended, hend]
      simp only [close, List.append_nil]
    | ok line =>
      rw [frame_ok hrender, followFrames_cons hrender frames h]
      by_cases henough : Enough count (printed.length + 1)
      · rw [if_pos henough, if_pos henough, foldl_frame_ended]
        rfl
      · have hlength : (printed ++ [line]).length = printed.length + 1 := by
          rw [List.length_append, List.length_singleton]
        rw [if_neg henough, if_neg henough, ih (hlength ▸ henough), hlength]
        simp only [List.append_assoc, List.singleton_append]

/-- What a client reports is what it has printed when the body ends. -/
theorem Following.close_after (atEnd : Option Failure) (pieces : List (List UInt8)) :
    (after render count pieces).close atEnd =
      followFrames render atEnd (framesOf pieces) count := by
  have hnone : count.map (· - ([] : List String).length) = count := by
    cases count <;> rfl
  have hclose := @close_foldl_frame render count atEnd (framesOf pieces) []
    (not_enough_zero count)
  rw [hnone] at hclose
  unfold after
  rw [foldl_piece, ← framesOf_eq, hclose]
  rfl

/-- **Before each frame the client has printed all frames so far, or it has ended.** -/
theorem Following.foldl_frame {text : String → String} {frames : List String}
    (h : ∀ data ∈ wanted count frames, render data = .ok (text data)) :
    frames.foldl (frame render count) (wants []) =
      if Enough count frames.length then ended ⟨(wanted count frames).map text, none⟩
      else wants (frames.map text) := by
  induction frames using List.reverseRecOn with
  | nil => exact (if_neg (not_enough_zero count)).symm
  | append_singleton frames data ih =>
    rw [List.foldl_append, List.foldl_cons, List.foldl_nil]
    by_cases hbefore : Enough count frames.length
    · have hafter : Enough count (frames ++ [data]).length := hbefore.mono (by simp)
      rw [wanted_append_of_enough hbefore] at h
      rw [ih h, if_pos hbefore, if_pos hafter, wanted_append_of_enough hbefore]
      rfl
    · have hall : wanted count (frames ++ [data]) = frames ++ [data] :=
        wanted_of_not_enough fun n hn => by
          have hlt := not_enough hbefore n hn
          rw [List.length_append, List.length_singleton]
          exact hlt
      have hfirst : wanted count frames = frames :=
        wanted_of_not_enough fun n hn => Nat.le_of_lt (not_enough hbefore n hn)
      rw [hall] at h ⊢
      rw [hfirst] at ih
      obtain ⟨hframes, hdata⟩ := List.forall_mem_append.mp h
      rw [ih hframes, if_neg hbefore,
        frame_ok (hdata data List.mem_cons_self), List.length_map, List.length_append,
        List.length_singleton, List.map_append, List.map_singleton]

/-- **What a client has printed when some pieces have arrived**: all frames so far, or all that are
wanted, and then it has ended. -/
theorem Following.after_eq {text : String → String} {arrived rest : List (List UInt8)}
    (h : ∀ data ∈ wanted count (framesOf (arrived ++ rest)), render data = .ok (text data)) :
    after render count arrived =
      if Enough count (framesOf arrived).length then
        ended ⟨(wanted count (framesOf (arrived ++ rest))).map text, none⟩
      else wants ((framesOf arrived).map text) := by
  obtain ⟨more, hmore⟩ := framesOf_append arrived rest
  rw [hmore] at h ⊢
  unfold after
  rw [foldl_piece, ← framesOf_eq, foldl_frame fun data hdata => h data (mem_wanted_append hdata more)]
  by_cases henough : Enough count (framesOf arrived).length
  · rw [if_pos henough, if_pos henough, wanted_append_of_enough henough]
  · rw [if_neg henough, if_neg henough]

/-- A client that has ended stays where it is, whatever comes. -/
theorem Following.after_append {arrived : List (List UInt8)} {report : Report}
    (h : after render count arrived = ended report) (rest : List (List UInt8)) :
    after render count (arrived ++ rest) = ended report := by
  obtain ⟨more, hmore⟩ := framesOf_append arrived rest
  unfold after at h ⊢
  rw [foldl_piece, ← framesOf_eq] at h ⊢
  rw [hmore, List.foldl_append, h, foldl_frame_ended]

end Printing

/-! ### Reports -/

/-- What is printed before the first frame. -/
def heading (p : Palette) (format : Format) (scope : Scope) : List String :=
  match format with
  | .table => [noticeText p ("Following " ++ scope.label ++ " stream")]
  | .json => []

/-- A good status is that of a reply. -/
theorem Reply.isFinal_of_isGood {r : Reply} (h : r.isGood = true) : r.isFinal = true := by
  unfold isGood at h
  unfold isFinal
  simp only [Bool.and_eq_true, decide_eq_true_eq] at h
  simp only [Bool.or_eq_true, Bool.and_eq_true, decide_eq_true_eq]
  omega

/-- The client reports what it has printed when the body ends. -/
theorem report_of_stream {i : Invocation} {scope : Scope} {count : Option Nat}
    (hcommand : i.command = .stream scope count) (p : Palette) {r : Reply}
    (hgood : r.isGood = true) :
    i.report p r =
      let report := (Following.after (showFrame p i.format scope) count r.body).close
        (if r.breaksOff then some .interrupted else none)
      ⟨heading p i.format scope ++ report.lines, report.failure⟩ := by
  rw [Following.close_after]
  unfold Invocation.report
  rw [Reply.isFinal_of_isGood hgood, hgood, hcommand]
  show follow p i.format scope count r = _
  unfold follow heading
  cases i.format <;> rfl

/-- **A stream is followed up to a count.** Let all frames that are wanted be such as can be shown:
the first ones up to the count, but one if the count is zero, and all if there is no count. Then the
client prints these, in order and once each. It succeeds if they are as many as it was asked for, and
else if the body ends and the connection does not break. When some pieces have arrived it has printed
all frames so far, or it has ended because there were enough, and then no other body that begins with
these pieces gives another report. The report does not depend on where the body is cut into pieces. -/
theorem follow_prints_first_frames {i : Invocation} {scope : Scope} {count : Option Nat}
    (hcommand : i.command = .stream scope count) (p : Palette) {r : Reply}
    (hgood : r.isGood = true) {text : String → String}
    (htext : ∀ data ∈ wanted count (framesOf r.body),
      showFrame p i.format scope data = .ok (text data)) :
    let frames := framesOf r.body
    let printed := (wanted count frames).map text
    ((i.report p r).lines = heading p i.format scope ++ printed ∧
      (i.report p r).failure =
        if Enough count frames.length then none
        else if r.breaksOff then some .interrupted else none) ∧
    (∀ arrived rest, r.body = arrived ++ rest →
      Following.after (showFrame p i.format scope) count arrived =
          (if Enough count (framesOf arrived).length then .ended ⟨printed, none⟩
          else .wants ((framesOf arrived).map text)) ∧
        (Enough count (framesOf arrived).length →
          ∀ (other : Reply) (next : List (List UInt8)), other.isGood = true →
            other.body = arrived ++ next → i.report p other = i.report p r)) ∧
    ∀ other : Reply, other.isGood = true → other.body.flatten = r.body.flatten →
      other.breaksOff = r.breaksOff → i.report p other = i.report p r := by
  intro frames printed
  have hafter : ∀ arrived rest, r.body = arrived ++ rest →
      Following.after (showFrame p i.format scope) count arrived =
        if Enough count (framesOf arrived).length then .ended ⟨printed, none⟩
        else .wants ((framesOf arrived).map text) := by
    intro arrived rest hbody
    have hrest := htext
    rw [hbody] at hrest
    rw [Following.after_eq hrest, ← hbody]
  have hreport := report_of_stream hcommand p hgood
  refine ⟨?_, fun arrived rest hbody => ⟨hafter arrived rest hbody, ?_⟩, ?_⟩
  · rw [hreport, hafter r.body [] (List.append_nil _).symm]
    by_cases henough : Enough count frames.length
    · rw [if_pos henough, if_pos henough]
      exact ⟨rfl, rfl⟩
    · have hall : wanted count frames = frames :=
        wanted_of_not_enough fun n hn => Nat.le_of_lt (not_enough henough n hn)
      have hprinted : printed = frames.map text := congrArg (List.map text) hall
      rw [if_neg henough, if_neg henough, hprinted]
      exact ⟨rfl, rfl⟩
  · intro henough other next hother hnext
    have hended := hafter arrived rest hbody
    rw [if_pos henough] at hended
    rw [hreport, report_of_stream hcommand p hother, hbody, hnext,
      Following.after_append hended, Following.after_append hended]
    rfl
  · intro other hother hflat hbreaks
    rw [hreport, report_of_stream hcommand p hother, hbreaks]
    unfold Following.after
    rw [Following.foldl_piece, Following.foldl_piece, ← framesOf_eq, ← framesOf_eq,
      framesOf_congr hflat]

/-- An invocation that asks for no frame. -/
def askForNone : Invocation :=
  ⟨"http://localhost:3100", "http://localhost:3200", .json, .stream .events (some 0)⟩

/-- Two frames, cut in the middle of the first and of the second, and a broken connection. -/
def twoFrames : Reply :=
  ⟨200, none, [Utf8.ofString "data: 1\n", Utf8.ofString "\ndata: ", Utf8.ofString "2\n\n"], true⟩

/-- A client that is asked for no frame prints the first. -/
theorem follow_prints_first_frames_none :
    (∀ data ∈ wanted (some 0) (framesOf twoFrames.body),
        showFrame ⟨false⟩ .json .events data = .ok data) ∧
      twoFrames.isGood = true ∧ framesOf twoFrames.body = ["1", "2"] ∧
      (askForNone.report ⟨false⟩ twoFrames).lines = ["1"] ∧
      (askForNone.report ⟨false⟩ twoFrames).failure = none := by
  have htext : ∀ data ∈ wanted (some 0) (framesOf twoFrames.body),
      showFrame ⟨false⟩ .json .events data = .ok (id data) := fun _ _ => rfl
  have hframes : framesOf twoFrames.body = ["1", "2"] := by decide +kernel
  obtain ⟨⟨hlines, hfailure⟩, -, -⟩ :=
    follow_prints_first_frames (i := askForNone) rfl ⟨false⟩ (r := twoFrames) rfl htext
  rw [hframes] at hlines hfailure
  exact ⟨htext, rfl, hframes, hlines, hfailure⟩

end NodeTelemetry.Client
