import NodeTelemetry.Service.Subscription

/-!
# What a sender sends

Between two entries of its history a sender takes some ticks, and sends the newest entry once for
each of them. `ticks` and `receiveTicks` list the times of the ticks that `run` and `receive` take;
they recur as these do. The laws of this module say that frames are a queue: what the client takes
and what still waits are together what waited before and one frame for each tick.

`pump` and `pass` are the two sides of a subscription by themselves: the sender takes one tick while
the client does nothing, and the client takes one frame while the sender does nothing.
-/

namespace NodeTelemetry.Subscription

variable {φ : Type}

/-! ### Ticks -/

/-- When `run` takes its ticks. -/
def ticks (s : Subscription φ) (fromMs untilMs : Nat) (newest : Option φ) : List Nat :=
  if s.isBlocked ∨ untilMs < s.dueMs fromMs then []
  else
    max fromMs (s.dueMs fromMs) ::
      (s.tick (max fromMs (s.dueMs fromMs)) newest).ticks fromMs untilMs newest
termination_by untilMs + 1 - s.dueMs fromMs
decreasing_by
  have := s.dueMs_lt_dueMs_tick (Nat.le_max_left fromMs (s.dueMs fromMs)) newest
  omega

/-- When `receive` takes its ticks. -/
def receiveTicks (nowMs : Nat) (newest : Option φ) : (limit : Nat) → Subscription φ → List Nat
  | 0, _ => []
  | limit + 1, s =>
    match s.waiting with
    | [] => []
    | _ :: rest =>
      let s := { s with waiting := rest }
      s.ticks nowMs nowMs newest ++ receiveTicks nowMs newest limit (s.run nowMs nowMs newest)

/-- The frames that some ticks send, all of which find the same newest entry. -/
def sent (ticks : List Nat) (newest : Option φ) : List φ := ticks.flatMap fun _ => newest.toList

theorem sent_append (ts us : List Nat) (newest : Option φ) :
    sent (ts ++ us) newest = sent ts newest ++ sent us newest := List.flatMap_append

/-! ### One side by itself -/

/-- Takes the tick that is due, if there is one and the sender does not stand still. -/
def pump (s : Subscription φ) (nowMs : Nat) (newest : Option φ) : Subscription φ :=
  if s.isBlocked ∨ nowMs < s.dueMs nowMs then s else s.tick nowMs newest

/-- When `pump` takes its tick. -/
def pumpTicks (s : Subscription φ) (nowMs : Nat) : List Nat :=
  if s.isBlocked ∨ nowMs < s.dueMs nowMs then [] else [nowMs]

/-- The client takes the oldest frame. -/
def pass (s : Subscription φ) : List φ × Subscription φ :=
  (s.waiting.take 1, { s with waiting := s.waiting.drop 1 })

/-! ### Laws -/

/-- A sender that begins takes its first tick at once, and only that one. -/
theorem ticks_start (scope : Scope) (periodMs nowMs : Nat) (h : 0 < periodMs) (newest : Option φ) :
    (start scope periodMs h : Subscription φ).ticks nowMs nowMs newest = [nowMs] := by
  have hdue : (start scope periodMs h : Subscription φ).dueMs nowMs = nowMs := rfl
  have hnext := lt_nextDue (start scope periodMs h : Subscription φ) nowMs
  rw [hdue] at hnext
  rw [ticks, if_neg (by simp [isBlocked, start, dueMs]), hdue, Nat.max_self, ticks,
    if_pos (.inr hnext)]

/-- A sender that runs sends one frame for each of its ticks. -/
theorem waiting_run (s : Subscription φ) (fromMs untilMs : Nat) (newest : Option φ) :
    (s.run fromMs untilMs newest).waiting =
      s.waiting ++ sent (s.ticks fromMs untilMs newest) newest := by
  induction s using ticks.induct fromMs untilMs newest with
  | case1 s h =>
    rw [run, if_pos h, ticks, if_pos h]
    exact (List.append_nil _).symm
  | case2 s h ih =>
    rw [run, if_neg h, ticks, if_neg h, ih]
    exact List.append_assoc _ _ _

theorem scope_run (s : Subscription φ) (fromMs untilMs : Nat) (newest : Option φ) :
    (s.run fromMs untilMs newest).scope = s.scope := by
  induction s using ticks.induct fromMs untilMs newest with
  | case1 s h => rw [run, if_pos h]
  | case2 s h ih =>
    rw [run, if_neg h, ih]
    rfl

/-- A client that takes frames takes the oldest, and the sender goes on behind them. -/
theorem waiting_receive (nowMs : Nat) (newest : Option φ) (limit : Nat) (s : Subscription φ) :
    (receive nowMs newest limit s).1 ++ (receive nowMs newest limit s).2.waiting =
      s.waiting ++ sent (receiveTicks nowMs newest limit s) newest := by
  induction limit generalizing s with
  | zero => exact (List.append_nil _).symm
  | succ limit ih =>
    unfold receive receiveTicks
    cases hwaiting : s.waiting with
    | nil =>
      simp only [hwaiting]
      rfl
    | cons frame rest =>
      simp only [List.cons_append, ih, waiting_run, sent_append, List.append_assoc]

theorem scope_receive (nowMs : Nat) (newest : Option φ) (limit : Nat) (s : Subscription φ) :
    (receive nowMs newest limit s).2.scope = s.scope := by
  induction limit generalizing s with
  | zero => rfl
  | succ limit ih =>
    unfold receive
    cases s.waiting with
    | nil => rfl
    | cons frame rest => exact (ih _).trans (scope_run _ _ _ _)

theorem waiting_pump (s : Subscription φ) (nowMs : Nat) (newest : Option φ) :
    (s.pump nowMs newest).waiting = s.waiting ++ sent (s.pumpTicks nowMs) newest := by
  unfold pump pumpTicks
  split
  · exact (List.append_nil _).symm
  · exact congrArg (s.waiting ++ ·) (List.append_nil _).symm

theorem scope_pump (s : Subscription φ) (nowMs : Nat) (newest : Option φ) :
    (s.pump nowMs newest).scope = s.scope := by
  unfold pump
  split
  · rfl
  · rfl

theorem waiting_pass (s : Subscription φ) : s.pass.1 ++ s.pass.2.waiting = s.waiting :=
  List.take_append_drop 1 s.waiting

end NodeTelemetry.Subscription
