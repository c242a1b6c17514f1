import NodeTelemetry.Proofs.Service.Logs

/-!
# What happens to a connection

What the client of a stream should see is computed from the outside. `trace` lists what happens to a
connection in some actions: the entries given to its history and the ticks of its sender. `captures`
walks through such a list with the log of the history and notes the newest entry at each tick.

The log gives each entry a place, so a capture knows the place of its entry. Logs only grow, so later
captures have no earlier places (`pairwise_captures`).
-/

namespace NodeTelemetry.Service

/-! ### Traces -/

/-- What happens to a connection. -/
inductive Happening where
  /-- An entry is given to the history subscribed to. -/
  | kept (entry : Json)
  /-- The sender takes a tick. -/
  | ticked (atMs : Nat)

/-- An action may open the connection under a name. -/
def Action.Opens (name : String) : Action → Prop
  | .request _ _ _ opening => opening.name? = some name
  | _ => False

/-- The ticks of the sender of a connection, if there is one. -/
def ticksOf (s : Service) (name : String) (f : Subscription Json → Option Json → List Nat) :
    List Nat :=
  match Keyed.find? name s.streams with
  | none => []
  | some stream => f stream (s.store.newest? stream.scope)

/-- When the sender of a connection takes ticks, in an action. -/
def ticks (s : Service) (name : String) : Action → List Nat
  | .request now surface r (.kept other) =>
    match (s.respond now surface r).response.body with
    | .text _ => []
    | .frames stream =>
      if other = name then stream.ticks s.nowMs s.nowMs (s.store.newest? stream.scope) else []
  | .advance ms => s.ticksOf name fun stream => stream.ticks s.nowMs (s.nowMs + ms)
  | .receive other limit =>
    if other = name then
      s.ticksOf name fun stream newest => stream.receiveTicks s.nowMs newest limit
    else []
  | .pump other =>
    if other = name then s.ticksOf name fun stream _ => stream.pumpTicks s.nowMs else []
  | _ => []

/-- The frames that the client of a connection takes, in an action. -/
def output (s : Service) (name : String) : Action → List String
  | .receive other limit => if other = name then (s.receive name limit).1 else []
  | .take other => if other = name then (s.take name).1 else []
  | _ => []

/-- What happens to a connection to a history, in some actions. No action both lets a sender take
ticks and gives an entry. -/
def trace (s : Service) (name : String) (scope : Scope) : List Action → List Happening
  | [] => []
  | a :: as =>
    (s.ticks name a).map .ticked ++ (logOf scope [a]).map .kept ++ (s.step a).trace name scope as

/-- The frames that the client of a connection takes, in some actions. -/
def outputs (s : Service) (name : String) : List Action → List String
  | [] => []
  | a :: as => s.output name a ++ (s.step a).outputs name as

/-! ### What should be sent -/

/-- What a tick finds. -/
structure Capture where
  /-- When the tick is taken. -/
  atMs : Nat
  /-- The place of the newest entry in the log of its history. -/
  place : Nat
  /-- The newest entry. -/
  entry : Json

/-- What a tick finds at a time, with a log of the history. If the log is empty, it finds nothing. -/
def capture (log : List Json) (atMs : Nat) : List Capture :=
  (log.getLast?.map fun entry => ⟨atMs, log.length - 1, entry⟩).toList

/-- What the ticks of a connection find, with the log of the history at first. -/
def captures : (log : List Json) → List Happening → List Capture
  | _, [] => []
  | log, .kept entry :: rest => captures (log ++ [entry]) rest
  | log, .ticked atMs :: rest => capture log atMs ++ captures log rest

/-- The entries given to the history. -/
def keptIn : List Happening → List Json
  | [] => []
  | .kept entry :: rest => entry :: keptIn rest
  | .ticked _ :: rest => keptIn rest

theorem captures_append (log : List Json) (xs ys : List Happening) :
    captures log (xs ++ ys) = captures log xs ++ captures (log ++ keptIn xs) ys := by
  induction xs generalizing log with
  | nil => simp [captures, keptIn]
  | cons x xs ih =>
    cases x with
    | kept entry =>
      show captures (log ++ [entry]) (xs ++ ys) = _ ++ captures (log ++ entry :: keptIn xs) ys
      rw [ih, List.append_assoc]
      rfl
    | ticked atMs => simp only [List.cons_append, captures, keptIn, ih, List.append_assoc]

theorem keptIn_append (xs ys : List Happening) : keptIn (xs ++ ys) = keptIn xs ++ keptIn ys := by
  induction xs with
  | nil => rfl
  | cons x xs ih =>
    cases x with
    | kept entry => exact congrArg (entry :: ·) ih
    | ticked atMs => exact ih

@[simp] theorem captures_kept (log entries : List Json) :
    captures log (entries.map .kept) = [] := by
  induction entries generalizing log with
  | nil => rfl
  | cons entry entries ih => exact ih _

@[simp] theorem keptIn_kept (entries : List Json) : keptIn (entries.map .kept) = entries := by
  induction entries with
  | nil => rfl
  | cons entry entries ih => exact congrArg (entry :: ·) ih

@[simp] theorem keptIn_ticked (ts : List Nat) : keptIn (ts.map .ticked) = [] := by
  induction ts with
  | nil => rfl
  | cons t ts ih => exact ih

/-- Ticks with no entry in between all find the same. -/
theorem entries_captures_ticked (log : List Json) (ts : List Nat) :
    (captures log (ts.map .ticked)).map Capture.entry = Subscription.sent ts log.getLast? := by
  induction ts with
  | nil => rfl
  | cons t ts ih =>
    show (capture log t ++ captures log (ts.map .ticked)).map Capture.entry = _ ++ _
    rw [List.map_append, ih]
    congr 1
    unfold capture
    cases log.getLast? with
    | none => rfl
    | some entry => rfl

/-! ### Places -/

/-- What a tick finds stands at its place, which is the last one. -/
theorem mem_capture {log : List Json} {atMs : Nat} {c : Capture} (h : c ∈ capture log atMs) :
    c.place + 1 = log.length ∧ log[c.place]? = some c.entry := by
  unfold capture at h
  cases hlast : log.getLast? with
  | none =>
    rw [hlast] at h
    cases h
  | some entry =>
    rw [hlast] at h
    obtain rfl := List.mem_singleton.mp h
    have hne : log ≠ [] := by
      rintro rfl
      cases hlast
    have hpos := List.length_pos_iff.mpr hne
    exact ⟨by show log.length - 1 + 1 = _; omega, by rw [← hlast, List.getLast?_eq_getElem?]⟩

/-- What is found later has no earlier place than the newest entry now, and stands at its place in
the log. -/
theorem mem_captures {log : List Json} {xs : List Happening} {c : Capture}
    (h : c ∈ captures log xs) :
    log.length ≤ c.place + 1 ∧ (log ++ keptIn xs)[c.place]? = some c.entry := by
  induction xs generalizing log with
  | nil => cases h
  | cons x xs ih =>
    cases x with
    | kept entry =>
      obtain ⟨hplace, hentry⟩ := ih h
      rw [List.length_append] at hplace
      rw [List.append_assoc] at hentry
      exact ⟨Nat.le_of_succ_le hplace, hentry⟩
    | ticked atMs =>
      rcases List.mem_append.mp h with h | h
      · obtain ⟨hplace, hentry⟩ := mem_capture h
        refine ⟨Nat.le_of_eq hplace.symm, ?_⟩
        rw [List.getElem?_append_left (by omega)]
        exact hentry
      · exact ih h

/-- Later ticks find no earlier places. -/
theorem pairwise_captures (log : List Json) (xs : List Happening) :
    (captures log xs).Pairwise fun c d => c.place ≤ d.place := by
  induction xs generalizing log with
  | nil => exact List.Pairwise.nil
  | cons x xs ih =>
    cases x with
    | kept entry => exact ih _
    | ticked atMs =>
      refine List.pairwise_append.mpr ⟨?_, ih log, fun c hc d hd => ?_⟩
      · unfold capture
        cases log.getLast? with
        | none => exact List.Pairwise.nil
        | some entry => exact List.pairwise_singleton _ _
      · have hc := (mem_capture hc).1
        have hd := (mem_captures hd).1
        omega

end NodeTelemetry.Service
