import NodeTelemetry.Proofs.Service.Connections

/-!
# One sender and its client

A `Connection` is a client and a sender with the channel between them. The sender goes on by itself,
step by step (`Connection.poll`): it begins with its first step, waits for its ticks, takes the newest
entry into its hand at each of them, and puts it into the channel when there is room. When the client
drops its response, the receiver is taken from the channel and the sender is told to stop, in whatever
order. The sender then ends at whatever it is doing: it waits for a tick and is told to stop, or it
has a frame in its hand and is told to stop, or it hands the frame over and finds that nobody receives
it.

`poll_cases` says once what a step of a sender can do; that a client which holds its response keeps its
sender (`Sound.poll`) and sees nothing but ticks (`Sound.kept_poll`) follows from it, and that no
sender goes on for ever without time passing (`rest_poll`).
-/

namespace NodeTelemetry.Service

/-- How far a sender is. -/
inductive Phase where
  /-- It waits for its next tick. -/
  | waiting
  /-- It has taken a tick and has a frame in its hand. -/
  | sending (frame : Json)
  /-- It has ended. -/
  | ended

/-- How far a sender is that has taken a tick and found this newest entry. -/
def Phase.ofNewest : Option Json → Phase
  | none => .waiting
  | some frame => .sending frame

/-- A client and its sender. -/
structure Connection where
  /-- The ticks of the sender, and the frames in the channel. -/
  stream : Subscription Json
  /-- How far the sender is. -/
  phase : Phase
  /-- Whether the client holds its response. -/
  held : Bool
  /-- Whether the channel has lost its receiver. -/
  closed : Bool
  /-- Whether the sender has been told to stop. -/
  cancelled : Bool

namespace Connection

/-- A connection that has just been opened. -/
def opened (stream : Subscription Json) (held : Bool) : Connection :=
  ⟨stream, .waiting, held, false, false⟩

/-- Whether the sender has not ended. -/
def live (c : Connection) : Bool :=
  match c.phase with
  | .waiting | .sending _ => true
  | .ended => false

/-- The frame in the hand of the sender, if there is one. -/
def hand (c : Connection) : List Json :=
  match c.phase with
  | .sending frame => [frame]
  | .waiting | .ended => []

/-- There is no more than one. -/
theorem length_hand_le (c : Connection) : c.hand.length ≤ 1 := by
  unfold hand
  cases c.phase <;> simp

/-- The connection as a service keeps it, where a frame in the hand waits behind the others. -/
def kept (c : Connection) : Subscription Json :=
  { c.stream with waiting := c.stream.waiting ++ c.hand }

/-- Whether the sender can go on. -/
def Runnable (c : Connection) (nowMs : Nat) : Prop :=
  match c.phase with
  | .waiting => c.cancelled ∨ c.stream.dueMs nowMs ≤ nowMs
  | .sending _ => c.cancelled ∨ c.closed ∨ c.stream.waiting.length < Subscription.room
  | .ended => False

instance (c : Connection) (nowMs : Nat) : Decidable (c.Runnable nowMs) :=
  match h : c.phase with
  | .waiting =>
    decidable_of_iff (c.cancelled ∨ c.stream.dueMs nowMs ≤ nowMs) (by unfold Runnable; rw [h])
  | .sending _ =>
    decidable_of_iff (c.cancelled ∨ c.closed ∨ c.stream.waiting.length < Subscription.room)
      (by unfold Runnable; rw [h])
  | .ended => .isFalse (by unfold Runnable; rw [h]; exact not_false)

/-- The sender goes on by one step, if it can. -/
def poll (c : Connection) (nowMs : Nat) (newest : Option Json) : Connection :=
  match c.phase with
  | .waiting =>
    if c.cancelled then { c with phase := .ended }
    else if nowMs < c.stream.dueMs nowMs then c
    else
      { c with
        stream := { c.stream with due? := some (c.stream.nextDue nowMs) }
        phase := .ofNewest newest }
  | .sending frame =>
    if c.cancelled then { c with phase := .ended }
    else if c.closed then { c with phase := .ended }
    else if c.stream.waiting.length < Subscription.room then
      { c with
        stream := { c.stream with waiting := c.stream.waiting ++ [frame] }, phase := .waiting }
    else c
  | .ended => c

/-- The client takes a frame from the channel, if it still holds its response. -/
def read (c : Connection) : Connection := if c.held then { c with stream := c.stream.pass.2 } else c

/-- The client drops its response. -/
def leave (c : Connection) : Connection := { c with held := false }

/-- A response that is dropped takes the receiver from the channel. -/
def close (c : Connection) : Connection := if c.held then c else { c with closed := true }

/-- A response that is dropped tells the sender to stop. -/
def cancel (c : Connection) : Connection := if c.held then c else { c with cancelled := true }

/-- A client that holds its response has a sender that goes on, and the channel has room for what is
in it. -/
structure Sound (c : Connection) : Prop where
  /-- The sender has not ended. -/
  live_of_held : c.held → c.live
  /-- The channel has its receiver. -/
  not_closed_of_held : c.held → c.closed = false
  /-- The sender has not been told to stop. -/
  not_cancelled_of_held : c.held → c.cancelled = false
  /-- There are no more frames in the channel than there is room for. -/
  length_le : c.stream.waiting.length ≤ Subscription.room

theorem sound_opened {stream : Subscription Json} (h : stream.waiting = []) (held : Bool) :
    (opened stream held).Sound := by
  refine ⟨fun _ => rfl, fun _ => rfl, fun _ => rfl, ?_⟩
  show stream.waiting.length ≤ _
  rw [h]
  exact Nat.zero_le _

variable {c : Connection} {nowMs : Nat} {newest : Option Json}

/-- **What a step of a sender can do.** It does nothing if the sender cannot go on; it is the
sender's last one, for a client that has left; it takes a tick that is due, or it puts the frame in
the hand into the channel. -/
theorem poll_cases (c : Connection) (nowMs : Nat) (newest : Option Json) :
    (¬c.Runnable nowMs ∧ c.poll nowMs newest = c) ∨
    (c.live ∧ (c.cancelled ∨ c.closed) ∧ c.poll nowMs newest = { c with phase := .ended }) ∨
    (c.phase = .waiting ∧ c.stream.dueMs nowMs ≤ nowMs ∧ c.poll nowMs newest =
      { c with
        stream := { c.stream with due? := some (c.stream.nextDue nowMs) }
        phase := .ofNewest newest }) ∨
    (∃ frame, c.phase = .sending frame ∧ c.stream.waiting.length < Subscription.room ∧
      c.poll nowMs newest =
        { c with
          stream := { c.stream with waiting := c.stream.waiting ++ [frame] }, phase := .waiting }) := by
  obtain ⟨stream, phase, held, closed, cancelled⟩ := c
  cases phase with
  | ended => exact .inl ⟨not_false, rfl⟩
  | waiting =>
    cases cancelled with
    | true => exact .inr (.inl ⟨rfl, .inl rfl, rfl⟩)
    | false =>
      by_cases hdue : nowMs < stream.dueMs nowMs
      · refine .inl ⟨?_, if_pos hdue⟩
        rintro (h | h)
        · cases h
        · exact Nat.not_lt_of_le h hdue
      · refine .inr (.inr (.inl ⟨rfl, Nat.le_of_not_lt hdue, if_neg hdue⟩))
  | sending frame =>
    cases cancelled with
    | true => exact .inr (.inl ⟨rfl, .inl rfl, rfl⟩)
    | false =>
      cases closed with
      | true => exact .inr (.inl ⟨rfl, .inr rfl, rfl⟩)
      | false =>
        by_cases hroom : stream.waiting.length < Subscription.room
        · exact .inr (.inr (.inr ⟨frame, rfl, hroom, if_pos hroom⟩))
        · refine .inl ⟨?_, if_neg hroom⟩
          rintro (h | h | h)
          · cases h
          · cases h
          · exact hroom h

/-- A step of the sender leaves alone what is the client's. -/
theorem poll_frame (c : Connection) (nowMs : Nat) (newest : Option Json) :
    (c.poll nowMs newest).held = c.held ∧ (c.poll nowMs newest).closed = c.closed ∧
      (c.poll nowMs newest).cancelled = c.cancelled := by
  rcases poll_cases c nowMs newest with ⟨-, h⟩ | ⟨-, -, h⟩ | ⟨-, -, h⟩ | ⟨frame, -, -, h⟩
  all_goals rw [h]; exact ⟨rfl, rfl, rfl⟩

/-- A sender that has ended stays so. -/
theorem live_of_live_poll (h : (c.poll nowMs newest).live) : c.live := by
  rcases poll_cases c nowMs newest with
    ⟨-, hpoll⟩ | ⟨hlive, -, -⟩ | ⟨hphase, -, -⟩ | ⟨frame, hphase, -, -⟩
  · rwa [hpoll] at h
  · exact hlive
  · unfold live
    rw [hphase]
  · unfold live
    rw [hphase]

theorem live_ofNewest {c : Connection} (h : c.phase = .ofNewest newest) : c.live = true := by
  unfold live
  rw [h]
  cases newest <;> rfl

/-- A step of the sender goes against no client that holds its response. -/
theorem Sound.poll (h : c.Sound) (nowMs : Nat) (newest : Option Json) :
    (c.poll nowMs newest).Sound := by
  obtain ⟨hheld, hclosed, hcancelled⟩ := poll_frame c nowMs newest
  refine ⟨fun hh => ?_, fun hh => ?_, fun hh => ?_, ?_⟩
  · rw [hheld] at hh
    rcases poll_cases c nowMs newest with
      ⟨-, hpoll⟩ | ⟨-, hleft, -⟩ | ⟨-, -, hpoll⟩ | ⟨frame, -, -, hpoll⟩
    · rw [hpoll]
      exact h.live_of_held hh
    · rw [h.not_cancelled_of_held hh, h.not_closed_of_held hh] at hleft
      simp at hleft
    · rw [hpoll]
      exact live_ofNewest rfl
    · rw [hpoll]
      rfl
  · rw [hclosed]
    exact h.not_closed_of_held (hheld ▸ hh)
  · rw [hcancelled]
    exact h.not_cancelled_of_held (hheld ▸ hh)
  · rcases poll_cases c nowMs newest with
      ⟨-, hpoll⟩ | ⟨-, -, hpoll⟩ | ⟨-, -, hpoll⟩ | ⟨frame, -, hroom, hpoll⟩
    · rw [hpoll]
      exact h.length_le
    · rw [hpoll]
      exact h.length_le
    · rw [hpoll]
      exact h.length_le
    · rw [hpoll]
      show (c.stream.waiting ++ [frame]).length ≤ _
      rw [List.length_append]
      exact hroom

/-- What a client that holds its response gets to see of a step of its sender: a tick, or nothing. -/
theorem Sound.kept_poll (h : c.Sound) (hheld : c.held) (nowMs : Nat) (newest : Option Json) :
    (c.poll nowMs newest).kept =
      match c.phase with
      | .waiting => c.kept.pump nowMs newest
      | .sending _ | .ended => c.kept := by
  rcases poll_cases c nowMs newest with
    ⟨hstill, hpoll⟩ | ⟨-, hleft, -⟩ | ⟨hphase, hdue, hpoll⟩ | ⟨frame, hphase, -, hpoll⟩
  · rw [hpoll]
    cases hphase : c.phase with
    | waiting =>
      have hlate : nowMs < c.kept.dueMs nowMs := by
        unfold Runnable at hstill
        rw [hphase] at hstill
        exact Nat.lt_of_not_le fun hdue => hstill (.inr hdue)
      exact (if_pos (.inr hlate)).symm
    | sending frame => rfl
    | ended => rfl
  · rw [h.not_cancelled_of_held hheld, h.not_closed_of_held hheld] at hleft
    simp at hleft
  · have hempty : c.hand = [] := by
      unfold hand
      rw [hphase]
    have hopen : ¬(c.kept.isBlocked ∨ nowMs < c.kept.dueMs nowMs) := by
      rintro (hblocked | hlate)
      · have hlong := of_decide_eq_true hblocked
        unfold kept at hlong
        rw [hempty, List.append_nil] at hlong
        exact Nat.not_lt_of_le h.length_le hlong
      · exact Nat.not_lt_of_le hdue hlate
    rw [hpoll, hphase]
    refine Eq.trans ?_ (if_neg hopen).symm
    unfold kept
    rw [hempty, List.append_nil]
    cases newest <;> rfl
  · rw [hpoll, hphase]
    unfold kept hand
    rw [hphase]
    simp only [List.append_nil]

/-! ### What the client does -/

theorem live_read (c : Connection) : c.read.live = c.live := by
  unfold read
  split <;> rfl

theorem live_close (c : Connection) : c.close.live = c.live := by
  unfold close
  split <;> rfl

theorem live_cancel (c : Connection) : c.cancel.live = c.live := by
  unfold cancel
  split <;> rfl

theorem held_close (c : Connection) : c.close.held = c.held := by
  unfold close
  split <;> rfl

theorem held_cancel (c : Connection) : c.cancel.held = c.held := by
  unfold cancel
  split <;> rfl

theorem Sound.read (h : c.Sound) : c.read.Sound := by
  unfold Connection.read
  by_cases hheld : c.held
  · rw [if_pos hheld]
    refine ⟨h.live_of_held, h.not_closed_of_held, h.not_cancelled_of_held, ?_⟩
    show (c.stream.waiting.drop 1).length ≤ _
    rw [List.length_drop]
    exact Nat.le_trans (Nat.sub_le _ _) h.length_le
  · rwa [if_neg hheld]

theorem Sound.leave (h : c.Sound) : c.leave.Sound :=
  ⟨fun hheld => absurd hheld Bool.false_ne_true, fun hheld => absurd hheld Bool.false_ne_true,
    fun hheld => absurd hheld Bool.false_ne_true, h.length_le⟩

theorem Sound.close (h : c.Sound) : c.close.Sound := by
  unfold Connection.close
  by_cases hheld : c.held
  · rwa [if_pos hheld]
  · rw [if_neg hheld]
    exact ⟨fun hh => absurd hh hheld, fun hh => absurd hh hheld, fun hh => absurd hh hheld,
      h.length_le⟩

theorem Sound.cancel (h : c.Sound) : c.cancel.Sound := by
  unfold Connection.cancel
  by_cases hheld : c.held
  · rwa [if_pos hheld]
  · rw [if_neg hheld]
    exact ⟨fun hh => absurd hh hheld, fun hh => absurd hh hheld, fun hh => absurd hh hheld,
      h.length_le⟩

/-! ### Going on -/

/-- How much a connection has still to do by itself: the ticks that are due, what the sender is at, and
a response that is half dropped. -/
def rest (c : Connection) (nowMs : Nat) : Nat :=
  2 * (nowMs + 1 - c.stream.dueMs nowMs) +
    (match c.phase with
      | .waiting => 1
      | .sending _ => 2
      | .ended => 0) +
    (if c.held ∨ c.closed then 0 else 1) + (if c.held ∨ c.cancelled then 0 else 1)

/-- A sender that goes on has less to do. -/
theorem rest_poll (h : c.Runnable nowMs) (newest : Option Json) :
    (c.poll nowMs newest).rest nowMs < c.rest nowMs := by
  rcases poll_cases c nowMs newest with
    ⟨hstill, -⟩ | ⟨hlive, -, hpoll⟩ | ⟨hphase, hdue, hpoll⟩ | ⟨frame, hphase, -, hpoll⟩
  · exact absurd h hstill
  · rw [hpoll]
    unfold rest
    unfold live at hlive
    cases hphase : c.phase with
    | waiting | sending => dsimp only; omega
    | ended =>
      rw [hphase] at hlive
      cases hlive
  · have hnext := c.stream.lt_nextDue nowMs
    have hthen : (c.poll nowMs newest).stream.dueMs nowMs = c.stream.nextDue nowMs := by
      rw [hpoll]
      rfl
    unfold rest
    rw [hthen, hpoll, hphase]
    cases newest with
    | none | some => dsimp only [Phase.ofNewest]; omega
  · have hthen : (c.poll nowMs newest).stream.dueMs nowMs = c.stream.dueMs nowMs := by
      rw [hpoll]
      rfl
    unfold rest
    rw [hthen, hpoll, hphase]
    dsimp only
    omega

theorem rest_close (hheld : c.held = false) (hclosed : c.closed = false) (nowMs : Nat) :
    c.close.rest nowMs < c.rest nowMs := by
  unfold close rest
  simp [hheld, hclosed]

theorem rest_cancel (hheld : c.held = false) (hcancelled : c.cancelled = false) (nowMs : Nat) :
    c.cancel.rest nowMs < c.rest nowMs := by
  unfold cancel rest
  simp [hheld, hcancelled]

end Connection

end NodeTelemetry.Service
