import NodeTelemetry.Scope

/-!
# Subscriptions to a history

A client that subscribes to a history is sent its newest entry again and again: once when its sender
begins and then at each tick of a fixed period. A tick that finds the history empty sends nothing.

The client takes frames at its own pace. Up to `Subscription.room` frames wait for it; one more is
held by the sender, which then stands still until the client has taken a frame. Both are the list
`waiting` here: the sender stands still exactly if the list is longer than the room.

## Ticks

A subscription that was opened has no ticks yet: the first one is due when its sender begins, however
late that is, and all others lie a whole number of periods after it.

A tick that is taken in time is followed by the next one a period later. If the sender stood still,
it takes the missed tick late; when it is late by more than `Subscription.slackMs` the ticks in
between are left out, and the next one is again a whole number of periods after the first.

A subscription does not look into its frames, so what holds of frames that carry their place in the
history holds of frames that do not.
-/

namespace NodeTelemetry

/-- A client's subscription, with frames of type `φ`. -/
structure Subscription (φ : Type) where
  /-- The history subscribed to. -/
  scope : Scope
  /-- The time between ticks. -/
  periodMs : Nat
  /-- When the next tick is due, once the sender has begun. -/
  due? : Option Nat
  /-- The frames sent and not yet taken, oldest first. -/
  waiting : List φ
  /-- Ticks are apart. -/
  period_pos : 0 < periodMs

namespace Subscription

variable {φ : Type}

/-- How many frames can wait for the client. -/
def room : Nat := 8

/-- How late a tick may be taken without leaving others out. -/
def slackMs : Nat := 5

/-- A subscription whose sender has not begun. -/
def start (scope : Scope) (periodMs : Nat) (h : 0 < periodMs) : Subscription φ :=
  ⟨scope, periodMs, none, [], h⟩

/-- Whether the sender stands still. -/
def isBlocked (s : Subscription φ) : Bool := decide (room < s.waiting.length)

/-- When the next tick is due if the sender goes on at a time: one that begins has it due at once. -/
def dueMs (s : Subscription φ) (nowMs : Nat) : Nat := s.due?.getD nowMs

/-- A tick is due no earlier for a sender that goes on later. -/
theorem dueMs_mono (s : Subscription φ) {earlierMs laterMs : Nat} (h : earlierMs ≤ laterMs) :
    s.dueMs earlierMs ≤ s.dueMs laterMs := by
  unfold dueMs
  cases s.due? with
  | none => exact h
  | some dueMs => exact Nat.le_refl _

/-- When the next tick is due after the one that is taken now. -/
def nextDue (s : Subscription φ) (nowMs : Nat) : Nat :=
  if s.dueMs nowMs + slackMs < nowMs then
    nowMs + s.periodMs - (nowMs - s.dueMs nowMs) % s.periodMs
  else s.dueMs nowMs + s.periodMs

/-- Each tick is due after the one before. -/
theorem lt_nextDue (s : Subscription φ) (nowMs : Nat) : s.dueMs nowMs < s.nextDue nowMs := by
  have hp := s.period_pos
  have hm := Nat.mod_lt (nowMs - s.dueMs nowMs) hp
  unfold nextDue
  split <;> omega

/-- Takes the tick that is due: the newest entry, if there is one, is sent. -/
def tick (s : Subscription φ) (nowMs : Nat) (newest : Option φ) : Subscription φ :=
  { s with due? := some (s.nextDue nowMs), waiting := s.waiting ++ newest.toList }

/-- A tick brings the sender further. -/
theorem dueMs_lt_dueMs_tick (s : Subscription φ) {fromMs nowMs : Nat} (h : fromMs ≤ nowMs)
    (newest : Option φ) : s.dueMs fromMs < (s.tick nowMs newest).dueMs fromMs :=
  Nat.lt_of_le_of_lt (s.dueMs_mono h) (s.lt_nextDue nowMs)

/-- Takes all ticks that are due until a time, as far as the client has room for them. A tick is
taken when it is due, but none before `fromMs`. -/
def run (s : Subscription φ) (fromMs untilMs : Nat) (newest : Option φ) : Subscription φ :=
  if s.isBlocked ∨ untilMs < s.dueMs fromMs then s
  else (s.tick (max fromMs (s.dueMs fromMs)) newest).run fromMs untilMs newest
termination_by untilMs + 1 - s.dueMs fromMs
decreasing_by
  have := s.dueMs_lt_dueMs_tick (Nat.le_max_left fromMs (s.dueMs fromMs)) newest
  omega

/-- Takes at most `limit` frames at a time, the oldest first; after each one the sender goes on if
it stood still. -/
def receive (nowMs : Nat) (newest : Option φ) : (limit : Nat) → Subscription φ →
    List φ × Subscription φ
  | 0, s => ([], s)
  | limit + 1, s =>
    match s.waiting with
    | [] => ([], s)
    | frame :: rest =>
      let s := run { s with waiting := rest } nowMs nowMs newest
      let (frames, s) := receive nowMs newest limit s
      (frame :: frames, s)

end Subscription

end NodeTelemetry
