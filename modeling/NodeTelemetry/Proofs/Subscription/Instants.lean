import Mathlib.Data.List.Forall2
import NodeTelemetry.Proofs.Subscription

/-!
# The instants that ticks consume

A subscription is scheduled at the time at which its sender begins and every whole number of periods
after it. Each tick that is taken consumes the scheduled instant that is due then, and how late it is
taken decides which instant is due next. `instants` lists the instants that ticks at some times
consume; it goes by the schedule alone, whatever becomes of the frames.

Instants are consumed in ascending order and each once, however late the ticks are
(`pairwise_instants`), so that in any time there are no more ticks than whole periods, and one
(`countP_le_periods`). A late tick is followed by the first instant after it (`instants_follow`).
Whatever a subscription does, it takes no tick before its instant and goes on from where its ticks
have brought it (`Reaches`). A subscription that is ahead of its client takes each tick exactly when
it is due (`run_due`).
-/

namespace NodeTelemetry.Subscription

variable {φ : Type}

/-- The schedule after ticks at some times. -/
def after (s : Subscription φ) (times : List Nat) : Subscription φ :=
  times.foldl (fun s t => s.tick t none) s

/-- The scheduled instants that ticks at some times consume: each takes the one that is due. -/
def instants (s : Subscription φ) : List Nat → List Nat
  | [] => []
  | t :: ts => s.dueMs t :: (s.tick t none).instants ts

/-! ### The schedule -/

/-- The instant that is due does not depend on when the sender looks, but for the first one. -/
@[simp] theorem dueMs_dueMs (s : Subscription φ) (nowMs : Nat) :
    s.dueMs (s.dueMs nowMs) = s.dueMs nowMs := by
  unfold dueMs
  cases s.due? <;> rfl

/-- An instant that has come is due when the sender goes on. -/
theorem dueMs_le_self {s : Subscription φ} {fromMs nowMs : Nat} (h : s.dueMs fromMs ≤ nowMs) :
    s.dueMs nowMs ≤ nowMs := by
  unfold dueMs at h ⊢
  cases hs : s.due? with
  | none => exact Nat.le_refl _
  | some dueMs => rwa [hs] at h

/-- The next instant is a whole number of periods later, and at least one. -/
theorem nextDue_eq (s : Subscription φ) (nowMs : Nat) :
    ∃ k, 0 < k ∧ s.nextDue nowMs = s.dueMs nowMs + k * s.periodMs := by
  unfold nextDue
  split
  · refine ⟨(nowMs - s.dueMs nowMs) / s.periodMs + 1, Nat.succ_pos _, ?_⟩
    have hsplit := Nat.div_add_mod (nowMs - s.dueMs nowMs) s.periodMs
    have hmod := Nat.mod_lt (nowMs - s.dueMs nowMs) s.period_pos
    rw [Nat.succ_mul, Nat.mul_comm]
    omega
  · exact ⟨1, Nat.one_pos, by rw [Nat.one_mul]⟩

/-- A tick that is taken when it is due is followed by the next one a period later. -/
theorem nextDue_dueMs (s : Subscription φ) (nowMs : Nat) :
    s.nextDue (s.dueMs nowMs) = s.dueMs nowMs + s.periodMs := by
  unfold nextDue
  rw [dueMs_dueMs, if_neg (by omega)]

/-- A tick that is at most a little late is followed by the next one a period later, and one that is
later than that by the first instant that is still to come. -/
theorem nextDue_follows (s : Subscription φ) (nowMs : Nat) :
    (nowMs ≤ s.dueMs nowMs + 5 → s.nextDue nowMs = s.dueMs nowMs + s.periodMs) ∧
      (s.dueMs nowMs + 5 < nowMs →
        nowMs < s.nextDue nowMs ∧ s.nextDue nowMs ≤ nowMs + s.periodMs) := by
  have hmod := Nat.mod_lt (nowMs - s.dueMs nowMs) s.period_pos
  constructor
  · intro h
    exact if_neg (Nat.not_lt_of_le h)
  · intro h
    have hlate : s.nextDue nowMs = nowMs + s.periodMs - (nowMs - s.dueMs nowMs) % s.periodMs :=
      if_pos h
    omega

@[simp] theorem periodMs_tick (s : Subscription φ) (nowMs : Nat) (newest : Option φ) :
    (s.tick nowMs newest).periodMs = s.periodMs := rfl

@[simp] theorem dueMs_tick (s : Subscription φ) (nowMs : Nat) (newest : Option φ) (atMs : Nat) :
    (s.tick nowMs newest).dueMs atMs = s.nextDue nowMs := rfl

/-- Two subscriptions with the same schedule go on alike. -/
theorem instants_congr {s u : Subscription φ} (hdue : s.due? = u.due?)
    (hperiod : s.periodMs = u.periodMs) (times : List Nat) :
    s.instants times = u.instants times ∧ (s.after times).due? = (u.after times).due? := by
  induction times generalizing s u with
  | nil => exact ⟨rfl, hdue⟩
  | cons t ts ih =>
    have hnow : s.dueMs t = u.dueMs t := by simp only [dueMs, hdue]
    have hnext : s.nextDue t = u.nextDue t := by simp only [nextDue, hnow, hperiod]
    obtain ⟨hinstants, hafter⟩ :=
      ih (s := s.tick t none) (u := u.tick t none) (congrArg some hnext) hperiod
    exact ⟨by rw [instants, instants, hnow, hinstants], hafter⟩

theorem instants_append (s : Subscription φ) (ts us : List Nat) :
    s.instants (ts ++ us) = s.instants ts ++ (s.after ts).instants us := by
  induction ts generalizing s with
  | nil => rfl
  | cons t ts ih => exact congrArg (s.dueMs t :: ·) (ih (s.tick t none))

theorem after_append (s : Subscription φ) (ts us : List Nat) :
    s.after (ts ++ us) = (s.after ts).after us := List.foldl_append

theorem periodMs_after (s : Subscription φ) (times : List Nat) :
    (s.after times).periodMs = s.periodMs := by
  induction times generalizing s with
  | nil => rfl
  | cons t ts ih => exact ih (s.tick t none)

/-- Every instant is a whole number of periods after the first one. -/
theorem mem_instants {s : Subscription φ} {t : Nat} {ts : List Nat} {i : Nat}
    (h : i ∈ s.instants (t :: ts)) : ∃ m, i = s.dueMs t + m * s.periodMs := by
  induction ts generalizing s t with
  | nil => exact ⟨0, by simpa [instants] using h⟩
  | cons u us ih =>
    rcases List.mem_cons.mp h with rfl | h
    · exact ⟨0, by simp⟩
    · obtain ⟨k, -, hk⟩ := s.nextDue_eq t
      obtain ⟨m, rfl⟩ := ih h
      refine ⟨k + m, ?_⟩
      rw [dueMs_tick, periodMs_tick, hk, Nat.add_mul]
      omega

/-- No instant after a tick is before the next one. -/
theorem nextDue_le_of_mem_instants {s : Subscription φ} {t : Nat} {ts : List Nat} {i : Nat}
    (h : i ∈ (s.tick t none).instants ts) : s.nextDue t ≤ i := by
  cases ts with
  | nil => cases h
  | cons u us =>
    obtain ⟨m, rfl⟩ := mem_instants h
    exact Nat.le_add_right _ _

/-- **No instant is consumed twice**, and none after a later one. -/
theorem pairwise_instants (s : Subscription φ) (times : List Nat) :
    (s.instants times).Pairwise (· < ·) := by
  induction times generalizing s with
  | nil => exact List.Pairwise.nil
  | cons t ts ih =>
    refine List.pairwise_cons.mpr ⟨fun i hi => ?_, ih _⟩
    exact Nat.lt_of_lt_of_le (s.lt_nextDue t) (nextDue_le_of_mem_instants hi)

/-- How late a tick is taken decides which instant is consumed after it. -/
theorem instants_follow {s : Subscription φ} {times : List Nat} {k t i j : Nat}
    (ht : times[k]? = some t) (hi : (s.instants times)[k]? = some i)
    (hj : (s.instants times)[k + 1]? = some j) :
    (t ≤ i + 5 → j = i + s.periodMs) ∧ (i + 5 < t → t < j ∧ j ≤ t + s.periodMs) := by
  induction times generalizing s k with
  | nil => cases ht
  | cons u us ih =>
    cases k with
    | succ k => exact ih (s := s.tick u none) ht hi hj
    | zero =>
      obtain rfl := Option.some.inj ht
      obtain rfl := Option.some.inj hi
      cases us with
      | nil => cases hj
      | cons v vs =>
        obtain rfl := Option.some.inj hj
        exact s.nextDue_follows u

/-- Ticks that are taken by a time, none before its instant, are at least a period apart on the whole:
the first one may be taken at once, and each further one needs a period. -/
theorem countP_mul_le {s : Subscription φ} {times : List Nat} {firstMs : Nat}
    (h : List.Forall₂ (· ≤ ·) (s.instants times) times)
    (hfirst : ∀ t ∈ times.head?, firstMs ≤ s.dueMs t) (untilMs : Nat) :
    times.countP (· ≤ untilMs) = 0 ∨
      firstMs + times.countP (· ≤ untilMs) * s.periodMs ≤ untilMs + s.periodMs := by
  induction times generalizing s firstMs with
  | nil => exact .inl rfl
  | cons t ts ih =>
    obtain ⟨hdue, hrest⟩ := List.forall₂_cons.mp h
    have hfirst : firstMs ≤ s.dueMs t := hfirst t rfl
    have hnext : firstMs + s.periodMs ≤ s.nextDue t := by
      obtain ⟨k, hpos, hk⟩ := s.nextDue_eq t
      rw [hk]
      exact Nat.add_le_add hfirst (Nat.le_mul_of_pos_left _ hpos)
    have hlater := ih hrest fun _ _ => hnext
    rw [periodMs_tick] at hlater
    by_cases hcounted : t ≤ untilMs
    · rw [List.countP_cons_of_pos (by simpa using hcounted), Nat.succ_mul]
      refine .inr ?_
      rcases hlater with hnone | hle
      · rw [hnone, Nat.zero_mul]
        omega
      · omega
    · rw [List.countP_cons_of_neg (by simpa using hcounted)]
      exact hlater.imp_right fun hle => by omega

/-- In any time there are no more ticks than whole periods, and one. -/
theorem countP_le_periods {s : Subscription φ} {times : List Nat} {firstMs : Nat}
    (h : List.Forall₂ (· ≤ ·) (s.instants times) times)
    (hfirst : ∀ t ∈ times.head?, firstMs ≤ s.dueMs t) (elapsedMs : Nat) :
    times.countP (· ≤ firstMs + elapsedMs) ≤ elapsedMs / s.periodMs + 1 := by
  rcases countP_mul_le h hfirst (firstMs + elapsedMs) with hnone | hle
  · rw [hnone]
    exact Nat.zero_le _
  · rw [← Nat.add_div_right _ s.period_pos, Nat.le_div_iff_mul_le s.period_pos]
    omega

/-- The schedule of a subscription begins with its first tick, whenever that is taken. -/
theorem headD_le_dueMs_start (scope : Scope) {periodMs : Nat} (h : 0 < periodMs) {times : List Nat}
    (nowMs : Nat) :
    ∀ t ∈ times.head?, times.headD nowMs ≤ (start scope periodMs h : Subscription φ).dueMs t := by
  intro t ht
  cases times with
  | nil => cases ht
  | cons u us =>
    obtain rfl := Option.some.inj ht
    exact Nat.le_refl _

theorem mem_instants_start {scope : Scope} {periodMs : Nat} {h : 0 < periodMs} {times : List Nat}
    {i : Nat} (hi : i ∈ (start scope periodMs h : Subscription φ).instants times) (nowMs : Nat) :
    ∃ m, i = times.headD nowMs + m * periodMs := by
  cases times with
  | nil => cases hi
  | cons t ts => exact mem_instants hi

/-! ### What a subscription does -/

/-- A subscription comes to another one by ticks at some times up to `untilMs`. -/
structure Reaches (s : Subscription φ) (times : List Nat) (untilMs : Nat) (s' : Subscription φ) :
    Prop where
  /-- The next tick is due as the ticks say. -/
  due_eq : s'.due? = (s.after times).due?
  /-- The period stays. -/
  period_eq : s'.periodMs = s.periodMs
  /-- No tick is taken before its instant. -/
  due_le : List.Forall₂ (· ≤ ·) (s.instants times) times
  /-- No tick is taken later than that. -/
  times_le : ∀ t ∈ times, t ≤ untilMs
  /-- No more than one frame waits behind those that there is room for. -/
  length_le : s.waiting.length ≤ room + 1 → s'.waiting.length ≤ room + 1

theorem reaches_self (s : Subscription φ) (untilMs : Nat) : s.Reaches [] untilMs s :=
  ⟨rfl, rfl, .nil, fun _ h => absurd h List.not_mem_nil, id⟩

theorem Reaches.trans {s s' s'' : Subscription φ} {ts us : List Nat} {midMs untilMs : Nat}
    (h : s.Reaches ts midMs s') (hmid : midMs ≤ untilMs) (h' : s'.Reaches us untilMs s'') :
    s.Reaches (ts ++ us) untilMs s'' := by
  have hperiod : s'.periodMs = (s.after ts).periodMs := by rw [h.period_eq, periodMs_after]
  obtain ⟨hinstants, hafter⟩ := instants_congr h.due_eq hperiod us
  refine ⟨?_, h'.period_eq.trans h.period_eq, ?_, ?_, fun hlength => h'.length_le (h.length_le hlength)⟩
  · rw [h'.due_eq, after_append, hafter]
  · rw [instants_append, ← hinstants]
    exact List.rel_append h.due_le h'.due_le
  · intro t ht
    rcases List.mem_append.mp ht with ht | ht
    · exact Nat.le_trans (h.times_le t ht) hmid
    · exact h'.times_le t ht

/-- A sender that does not stand still takes a tick that is due. -/
theorem reaches_tick {s : Subscription φ} (hopen : s.isBlocked = false) {nowMs untilMs : Nat}
    (hdue : s.dueMs nowMs ≤ nowMs) (huntil : nowMs ≤ untilMs) (newest : Option φ) :
    s.Reaches [nowMs] untilMs (s.tick nowMs newest) := by
  refine ⟨rfl, rfl, .cons hdue .nil, ?_, fun _ => ?_⟩
  · intro t ht
    rwa [List.mem_singleton.mp ht]
  · have hroom : s.waiting.length ≤ room := by simpa [isBlocked] using hopen
    have hone : newest.toList.length ≤ 1 := by cases newest <;> simp
    show (s.waiting ++ newest.toList).length ≤ room + 1
    rw [List.length_append]
    omega

theorem reaches_run (s : Subscription φ) {fromMs untilMs : Nat} (h : fromMs ≤ untilMs)
    (newest : Option φ) :
    s.Reaches (s.ticks fromMs untilMs newest) untilMs (s.run fromMs untilMs newest) := by
  induction s using ticks.induct fromMs untilMs newest with
  | case1 s hstop =>
    rw [run, if_pos hstop, ticks, if_pos hstop]
    exact reaches_self s untilMs
  | case2 s hgo ih =>
    obtain ⟨hopen, hdue⟩ := not_or.mp hgo
    have htick := reaches_tick (Bool.eq_false_iff.mpr hopen)
      (dueMs_le_self (Nat.le_max_right fromMs (s.dueMs fromMs)))
      (Nat.max_le.mpr ⟨h, Nat.le_of_not_lt hdue⟩) newest
    rw [run, if_neg hgo, ticks, if_neg hgo]
    exact htick.trans (Nat.le_refl _) ih

/-- Frames that the client takes leave the schedule alone. -/
theorem reaches_rest {s : Subscription φ} {waiting : List φ}
    (h : waiting.length ≤ s.waiting.length) (untilMs : Nat) :
    s.Reaches [] untilMs { s with waiting := waiting } :=
  ⟨rfl, rfl, .nil, fun _ h => absurd h List.not_mem_nil, fun hlength => Nat.le_trans h hlength⟩

theorem reaches_receive (nowMs : Nat) (newest : Option φ) (limit : Nat) (s : Subscription φ) :
    s.Reaches (receiveTicks nowMs newest limit s) nowMs (receive nowMs newest limit s).2 := by
  induction limit generalizing s with
  | zero => exact reaches_self s nowMs
  | succ limit ih =>
    unfold receive receiveTicks
    cases hwaiting : s.waiting with
    | nil => exact reaches_self s nowMs
    | cons frame rest =>
      have htaken : s.Reaches [] nowMs { s with waiting := rest } :=
        reaches_rest (by simp [hwaiting]) nowMs
      have hrun := reaches_run { s with waiting := rest } (Nat.le_refl nowMs) newest
      exact (htaken.trans (Nat.le_refl _) hrun).trans (Nat.le_refl _) (ih _)

theorem reaches_pump (s : Subscription φ) (nowMs : Nat) (newest : Option φ) :
    s.Reaches (s.pumpTicks nowMs) nowMs (s.pump nowMs newest) := by
  unfold pump pumpTicks
  by_cases hstop : s.isBlocked ∨ nowMs < s.dueMs nowMs
  · simp only [if_pos hstop]
    exact reaches_self s nowMs
  · obtain ⟨hopen, hdue⟩ := not_or.mp hstop
    simp only [if_neg hstop]
    exact reaches_tick (Bool.eq_false_iff.mpr hopen) (Nat.le_of_not_lt hdue) (Nat.le_refl _) newest

theorem reaches_pass (s : Subscription φ) (untilMs : Nat) : s.Reaches [] untilMs s.pass.2 :=
  reaches_rest (by simp) untilMs

/-! ### When ticks are taken -/

/-- No tick is taken before the sender goes on. -/
theorem le_of_mem_ticks {s : Subscription φ} {fromMs untilMs : Nat} {newest : Option φ} {t : Nat}
    (h : t ∈ s.ticks fromMs untilMs newest) : fromMs ≤ t := by
  induction s using ticks.induct fromMs untilMs newest with
  | case1 s hstop =>
    rw [ticks, if_pos hstop] at h
    cases h
  | case2 s hgo ih =>
    rw [ticks, if_neg hgo] at h
    rcases List.mem_cons.mp h with rfl | h
    · exact Nat.le_max_left _ _
    · exact ih h

theorem le_of_mem_receiveTicks {s : Subscription φ} {nowMs limit : Nat} {newest : Option φ} {t : Nat}
    (h : t ∈ receiveTicks nowMs newest limit s) : nowMs ≤ t := by
  induction limit generalizing s with
  | zero => cases h
  | succ limit ih =>
    unfold receiveTicks at h
    cases hwaiting : s.waiting with
    | nil =>
      rw [hwaiting] at h
      cases h
    | cons frame rest =>
      rw [hwaiting] at h
      rcases List.mem_append.mp h with h | h
      · exact le_of_mem_ticks h
      · exact ih h

theorem eq_of_mem_pumpTicks {s : Subscription φ} {nowMs t : Nat} (h : t ∈ s.pumpTicks nowMs) :
    t = nowMs := by
  unfold pumpTicks at h
  split at h
  · cases h
  · exact List.mem_singleton.mp h

/-! ### A sender that is ahead of its client -/

/-- A subscription whose sender has taken every tick up to now and does not stand still. -/
structure Ahead (s : Subscription φ) (nowMs dueMs : Nat) : Prop where
  /-- The next tick is fixed. -/
  due_eq : s.due? = some dueMs
  /-- It is due later. -/
  lt_due : nowMs < dueMs
  /-- But no more than a period later. -/
  due_le : dueMs ≤ nowMs + s.periodMs
  /-- There is room for its frame. -/
  length_le : s.waiting.length ≤ room

theorem Ahead.isBlocked {s : Subscription φ} {nowMs dueMs : Nat} (h : s.Ahead nowMs dueMs) :
    s.isBlocked = false := by simpa [Subscription.isBlocked] using h.length_le

/-- The next tick is due at its time whenever the sender looks. -/
theorem Ahead.dueMs_eq {s : Subscription φ} {nowMs dueMs : Nat} (h : s.Ahead nowMs dueMs)
    (atMs : Nat) : s.dueMs atMs = dueMs := by
  unfold Subscription.dueMs
  rw [h.due_eq]
  rfl

/-- Frames that the client takes keep a sender ahead. -/
theorem Ahead.rest {s : Subscription φ} {nowMs dueMs : Nat} (h : s.Ahead nowMs dueMs)
    {waiting : List φ} (hle : waiting.length ≤ s.waiting.length) :
    ({ s with waiting := waiting }).Ahead nowMs dueMs :=
  ⟨h.due_eq, h.lt_due, h.due_le, Nat.le_trans hle h.length_le⟩

/-- Until the next instant nothing happens. -/
theorem run_early {s : Subscription φ} {fromMs untilMs : Nat} (huntil : untilMs < s.dueMs fromMs)
    (newest : Option φ) :
    s.ticks fromMs untilMs newest = [] ∧ s.run fromMs untilMs newest = s := by
  rw [ticks, run, if_pos (.inr huntil), if_pos (.inr huntil)]
  exact ⟨rfl, rfl⟩

/-- **A tick is taken exactly when it is due** by a sender that waits for it. -/
theorem run_due {s : Subscription φ} {fromMs untilMs : Nat} (hopen : s.isBlocked = false)
    (hfrom : fromMs ≤ s.dueMs fromMs) (hdue : s.dueMs fromMs ≤ untilMs)
    (hnext : untilMs < s.dueMs fromMs + s.periodMs) (newest : Option φ) :
    s.ticks fromMs untilMs newest = [s.dueMs fromMs] ∧
      s.run fromMs untilMs newest = s.tick (s.dueMs fromMs) newest := by
  have hgo : ¬(s.isBlocked ∨ untilMs < s.dueMs fromMs) := by simp [hopen, hdue]
  have hstop : untilMs < (s.tick (s.dueMs fromMs) newest).dueMs fromMs := by
    rwa [dueMs_tick, nextDue_dueMs]
  obtain ⟨hticks, hrun⟩ := run_early hstop newest
  rw [ticks, run, if_neg hgo, if_neg hgo, Nat.max_eq_right hfrom, hticks, hrun]
  exact ⟨rfl, rfl⟩

/-- After it the sender is ahead again, if nothing waited for the client. -/
theorem ahead_tick {s : Subscription φ} {fromMs untilMs : Nat} (hdue : s.dueMs fromMs ≤ untilMs)
    (hnext : untilMs < s.dueMs fromMs + s.periodMs) (hdrained : s.waiting = [])
    (newest : Option φ) :
    (s.tick (s.dueMs fromMs) newest).Ahead untilMs (s.dueMs fromMs + s.periodMs) := by
  refine ⟨congrArg some (s.nextDue_dueMs fromMs), hnext, Nat.add_le_add_right hdue _, ?_⟩
  show (s.waiting ++ newest.toList).length ≤ room
  rw [hdrained]
  cases newest <;> simp [room]

/-- A sender that begins takes its first tick, and is ahead. -/
theorem ahead_start (scope : Scope) {periodMs : Nat} (nowMs : Nat) (h : 0 < periodMs)
    (newest : Option φ) :
    ((start scope periodMs h).run nowMs nowMs newest).Ahead nowMs (nowMs + periodMs) ∧
      ((start scope periodMs h).run nowMs nowMs newest).periodMs = periodMs := by
  have hnext : nowMs < nowMs + periodMs := Nat.lt_add_of_pos_right h
  have hdue : (start scope periodMs h : Subscription φ).dueMs nowMs = nowMs := rfl
  obtain ⟨-, hrun⟩ :=
    run_due rfl (Nat.le_of_eq hdue.symm) (Nat.le_of_eq hdue) hnext newest
  rw [hrun]
  exact ⟨ahead_tick (Nat.le_of_eq hdue) hnext rfl newest, rfl⟩

/-- A sender that is ahead does nothing when its client takes frames. -/
theorem Ahead.receive {s : Subscription φ} {nowMs dueMs : Nat} (h : s.Ahead nowMs dueMs)
    (newest : Option φ) (limit : Nat) :
    receiveTicks nowMs newest limit s = [] ∧
      (Subscription.receive nowMs newest limit s).2.Ahead nowMs dueMs := by
  induction limit generalizing s with
  | zero => exact ⟨rfl, h⟩
  | succ limit ih =>
    unfold Subscription.receive receiveTicks
    cases hwaiting : s.waiting with
    | nil => exact ⟨rfl, h⟩
    | cons frame rest =>
      have hrest : ({ s with waiting := rest }).Ahead nowMs dueMs := h.rest (by simp [hwaiting])
      obtain ⟨hticks, hrun⟩ := run_early ((hrest.dueMs_eq nowMs).symm ▸ hrest.lt_due) newest
      simp only [hticks, hrun, List.nil_append]
      exact ih hrest

/-- It takes no tick before the next one is due. -/
theorem Ahead.pump {s : Subscription φ} {nowMs dueMs : Nat} (h : s.Ahead nowMs dueMs)
    (newest : Option φ) : s.pumpTicks nowMs = [] ∧ s.pump nowMs newest = s := by
  have hlate : nowMs < s.dueMs nowMs := (h.dueMs_eq nowMs).symm ▸ h.lt_due
  exact ⟨if_pos (.inr hlate), if_pos (.inr hlate)⟩

end NodeTelemetry.Subscription
