import NodeTelemetry.Proofs.History

/-!
# Handles on one history

A history is used through handles. Clones of a handle are handles on the same entries; each of them
carries the capacity, and an entry that is given through a handle makes room by the capacity of that
handle. What is read is a copy, which stays with the reader (`Shared.kept`).

The entries that all handles share are told by one `History`, the one that has been given the log:
all entries that were given through any handle, in the order in which that took effect
(`Shared.Tells`). One call keeps this so (`Tells.step`), hence every list of calls does
(`Tells.run`), and each answer can then be read off the log (`shared_shows_end_of_log`).
-/

namespace NodeTelemetry.History

variable {α : Type}

/-! ### Making room -/

/-- Takes the oldest entries out, one at a time, until there is room for one more. -/
def makeRoom (capacity : Nat) : List α → List α
  | [] => []
  | a :: as => if capacity ≤ as.length + 1 then makeRoom capacity as else a :: as

/-- What is taken out is what is too much. -/
theorem makeRoom_eq_drop (capacity : Nat) (as : List α) :
    makeRoom capacity as = as.drop (as.length + 1 - capacity) := by
  induction as with
  | nil => exact List.drop_nil.symm
  | cons a as ih =>
    unfold makeRoom
    by_cases h : capacity ≤ as.length + 1
    · rw [if_pos h, ih, List.length_cons,
        show as.length + 1 + 1 - capacity = as.length + 1 - capacity + 1 by omega,
        List.drop_succ_cons]
    · rw [if_neg h, List.length_cons, show as.length + 1 + 1 - capacity = 0 by omega, List.drop_zero]

theorem entries_append (h : History α) (a : α) :
    (h.append a).entries = makeRoom h.capacity h.entries ++ [a] := by
  rw [makeRoom_eq_drop]
  rfl

/-! ### Calls -/

/-- What is asked of a history through a handle. -/
inductive Call (α : Type) where
  /-- Another handle. -/
  | clone
  /-- To keep an entry. -/
  | append (a : α)
  /-- The entries kept. -/
  | snapshot
  /-- The newest entry. -/
  | latest
  /-- How many entries are kept. -/
  | length
  /-- Whether none is. -/
  | isEmpty
  /-- The capacity. -/
  | capacity

/-- The entry that a call gives, if it gives one. -/
def Call.given : Call α → List α
  | append a => [a]
  | _ => []

/-- What a call answers. -/
inductive Answer (α : Type) where
  /-- Nothing but that it is done. -/
  | done
  /-- Some entries. -/
  | entries (as : List α)
  /-- An entry, if there is one. -/
  | entry (a : Option α)
  /-- A number. -/
  | count (n : Nat)
  /-- A truth value. -/
  | truth (b : Bool)
  deriving DecidableEq

/-- What a history answers. -/
def answer (h : History α) : Call α → Answer α
  | .clone | .append _ => .done
  | .snapshot => .entries h.snapshot
  | .latest => .entry h.latest?
  | .length => .count h.length
  | .isEmpty => .truth h.isEmpty
  | .capacity => .count h.capacity

/-- What is answered if a log has been given and so many entries of it are kept at most. -/
def Answer.ofLog (capacity : Nat) (log : List α) : Call α → Answer α
  | .clone | .append _ => .done
  | .snapshot => .entries (log.drop (log.length - capacity))
  | .latest => .entry log.getLast?
  | .length => .count (min log.length capacity)
  | .isEmpty => .truth log.isEmpty
  | .capacity => .count capacity

theorem Holds.isEmpty {h : History α} {log : List α} (hlog : h.Holds log) :
    h.isEmpty = log.isEmpty := by
  have hlength := hlog.length_eq
  have hpos := h.capacity_pos
  show h.entries.isEmpty = log.isEmpty
  rw [Bool.eq_iff_iff, List.isEmpty_iff_length_eq_zero, List.isEmpty_iff_length_eq_zero]
  omega

/-- A history that holds a log answers from the log. -/
theorem Holds.answer {h : History α} {log : List α} (hlog : h.Holds log) (call : Call α) :
    h.answer call = .ofLog h.capacity log call := by
  cases call with
  | snapshot => exact congrArg Answer.entries hlog
  | latest => exact congrArg Answer.entry hlog.latest?
  | length => exact congrArg Answer.count hlog.length_eq
  | isEmpty => exact congrArg Answer.truth hlog.isEmpty
  | clone | append | capacity => rfl

/-! ### Handles -/

/-- Entries that several handles share. -/
structure Shared (α : Type) where
  /-- The entries, oldest first. -/
  entries : List α
  /-- The capacity that each handle carries, in the order in which the handles were made. -/
  handles : List Nat
  /-- The snapshots that were taken, in order. -/
  kept : List (List α)

namespace Shared

/-- No entries and a first handle. A capacity of zero is raised to one. -/
def create (capacity : Nat) : Shared α := ⟨[], [max capacity 1], []⟩

/-- What is answered through a handle with this capacity. -/
def answer (s : Shared α) (capacity : Nat) : Call α → Answer α
  | .clone | .append _ => .done
  | .snapshot => .entries s.entries
  | .latest => .entry s.entries.getLast?
  | .length => .count s.entries.length
  | .isEmpty => .truth s.entries.isEmpty
  | .capacity => .count capacity

/-- What a call through a handle with this capacity leaves. -/
def after (s : Shared α) (capacity : Nat) : Call α → Shared α
  | .clone => { s with handles := s.handles ++ [capacity] }
  | .append a => { s with entries := makeRoom capacity s.entries ++ [a] }
  | .snapshot => { s with kept := s.kept ++ [s.entries] }
  | _ => s

/-- A call through the handle with a number. A handle that was never made has no calls. -/
def step (s : Shared α) (use : Nat × Call α) : Shared α :=
  match s.handles[use.1]? with
  | none => s
  | some capacity => s.after capacity use.2

/-- Calls through any handles, one after the other. -/
def run (s : Shared α) (uses : List (Nat × Call α)) : Shared α := uses.foldl step s

/-- The entries that some calls give, through whatever handles. -/
def log (s : Shared α) : List (Nat × Call α) → List α
  | [] => []
  | use :: uses =>
    (match s.handles[use.1]? with
      | none => []
      | some _ => use.2.given) ++ (s.step use).log uses

/-- The entries that are shared are those of a history, and each handle carries its capacity. -/
structure Tells (s : Shared α) (h : History α) : Prop where
  /-- The entries are the same. -/
  entries_eq : s.entries = h.entries
  /-- Each handle carries the capacity. -/
  capacity_eq : ∀ capacity ∈ s.handles, capacity = h.capacity

theorem tells_create (capacity : Nat) : (create capacity : Shared α).Tells (empty capacity) :=
  ⟨rfl, fun _ h => List.mem_singleton.mp h⟩

/-- Through every handle the history answers. -/
theorem Tells.answer {s : Shared α} {h : History α} (hs : s.Tells h) {capacity : Nat}
    (hhandle : capacity ∈ s.handles) (call : Call α) : s.answer capacity call = h.answer call := by
  obtain rfl := hs.capacity_eq capacity hhandle
  unfold Shared.answer
  rw [hs.entries_eq]
  rfl

/-- A call through any handle gives its entry to the history. -/
theorem Tells.after {s : Shared α} {h : History α} (hs : s.Tells h) {capacity : Nat}
    (hhandle : capacity ∈ s.handles) (call : Call α) :
    (s.after capacity call).Tells (h.appendAll call.given) := by
  obtain rfl := hs.capacity_eq capacity hhandle
  cases call with
  | clone =>
    refine ⟨hs.entries_eq, fun c hc => ?_⟩
    rcases List.mem_append.mp hc with hc | hc
    · exact hs.capacity_eq c hc
    · exact List.mem_singleton.mp hc
  | append a =>
    refine ⟨?_, hs.capacity_eq⟩
    show makeRoom h.capacity s.entries ++ [a] = (h.append a).entries
    rw [entries_append, hs.entries_eq]
  | snapshot | latest | length | isEmpty | capacity => exact ⟨hs.entries_eq, hs.capacity_eq⟩

/-- So does each step of some calls, in order. -/
theorem Tells.run {s : Shared α} {h : History α} (hs : s.Tells h) (uses : List (Nat × Call α)) :
    (s.run uses).Tells (h.appendAll (s.log uses)) := by
  induction uses generalizing s h with
  | nil => exact hs
  | cons use uses ih =>
    rw [log, appendAll_append]
    show ((s.step use).run uses).Tells _
    unfold step
    cases hhandle : s.handles[use.1]? with
    | none => exact ih hs
    | some capacity => exact ih (hs.after (List.mem_of_getElem? hhandle) use.2)

theorem run_append (s : Shared α) (us vs : List (Nat × Call α)) :
    s.run (us ++ vs) = (s.run us).run vs := List.foldl_append

/-- Snapshots stay as they were when they were taken. -/
theorem kept_run (s : Shared α) (uses : List (Nat × Call α)) : s.kept <+: (s.run uses).kept := by
  induction uses generalizing s with
  | nil => exact List.prefix_refl _
  | cons use uses ih =>
    refine List.IsPrefix.trans ?_ (ih (s.step use))
    unfold step
    cases s.handles[use.1]? with
    | none => exact List.prefix_refl _
    | some capacity =>
      cases use.2 with
      | snapshot => exact List.prefix_append _ _
      | clone | append | latest | length | isEmpty | capacity => exact List.prefix_refl _

/-- A snapshot that is taken is there, whatever is called afterwards. -/
theorem kept_run_snapshot {s : Shared α} {i : Nat} (hi : i < s.handles.length)
    (uses : List (Nat × Call α)) :
    (s.run ((i, .snapshot) :: uses)).kept[s.kept.length]? = some s.entries := by
  obtain ⟨later, hlater⟩ := kept_run (s.step (i, .snapshot)) uses
  have hstep : (s.step (i, .snapshot)).kept = s.kept ++ [s.entries] := by
    unfold step
    rw [List.getElem?_eq_getElem hi]
    rfl
  show ((s.step (i, .snapshot)).run uses).kept[_]? = _
  rw [← hlater, hstep, List.append_assoc, List.getElem?_append_right (Nat.le_refl _), Nat.sub_self]
  rfl

/-- **What is shared is the end of one log.** Take a history of any capacity, at least one entry
being kept in any case, and any calls through its first handle and clones made on the way; let `log`
be all entries that were given, in order. Then every further call through any handle is answered
from `log` alone: by its last entries, as many as the capacity allows; by its last one; by how many
there are; and each handle says the same capacity. This is also what a history answers that was
given `log`. Each snapshot that was taken on the way still is the end of the log as it was then. -/
theorem shared_shows_end_of_log (capacity : Nat) (uses : List (Nat × Call α)) :
    let s := (create capacity).run uses
    let log := (create capacity).log uses
    (∀ (i c : Nat), s.handles[i]? = some c → ∀ call,
      s.answer c call = .ofLog (max capacity 1) log call ∧
        s.answer c call = ((empty capacity).appendAll log).answer call) ∧
    ∀ before i after, uses = before ++ (i, .snapshot) :: after →
      i < ((create capacity : Shared α).run before).handles.length →
        s.kept[((create capacity).run before).kept.length]? =
          some (((create capacity).log before).drop
            (((create capacity).log before).length - max capacity 1)) := by
  intro s log
  have htold (us : List (Nat × Call α)) := (tells_create capacity).run us
  constructor
  · intro i c hhandle call
    have hanswer := (htold uses).answer (List.mem_of_getElem? hhandle) call
    refine ⟨?_, hanswer⟩
    rw [hanswer, ((holds_empty capacity).appendAll log).answer, capacity_appendAll]
    rfl
  · rintro before i after rfl hi
    show ((create capacity).run (before ++ (i, .snapshot) :: after)).kept[_]? = _
    rw [run_append, kept_run_snapshot hi, (htold before).entries_eq, entries_appendAll_empty]

/-- A clone writes and reads, and the first handle writes on after a snapshot. -/
def cloneUses : List (Nat × Call Nat) :=
  [(0, .append 1), (0, .clone), (1, .append 2), (1, .snapshot), (0, .append 3)]

theorem shared_shows_end_of_log_clone :
    ((create 2).run cloneUses).handles[1]? = some 2 ∧
      ((create 2).run cloneUses).answer 2 .snapshot = .entries [2, 3] ∧
      1 < ((create 2 : Shared Nat).run (cloneUses.take 3)).handles.length ∧
      ((create 2).run cloneUses).kept[0]? = some [1, 2] := by
  obtain ⟨hanswer, hkept⟩ := shared_shows_end_of_log 2 cloneUses
  exact ⟨rfl, (hanswer 1 2 rfl .snapshot).1, by decide, hkept (cloneUses.take 3) 1 _ rfl (by decide)⟩

end Shared

end NodeTelemetry.History
