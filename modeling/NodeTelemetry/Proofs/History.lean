import NodeTelemetry.History

/-!
# A history is the end of a log

Let the log of a history be the list of everything that was ever given to it. What the history holds
is the end of its log, as long as its capacity (`History.Holds`). Each entry that is given keeps this
so, and with it everything a reader sees is a matter of the log: the newest entry is the log's last
one, and the history is empty if and only if the log is.
-/

namespace NodeTelemetry.History

variable {α : Type}

/-- The entries kept are the last ones of a log. -/
def Holds (h : History α) (log : List α) : Prop :=
  h.entries = log.drop (log.length - h.capacity)

theorem holds_empty (capacity : Nat) : (empty capacity : History α).Holds [] :=
  List.drop_nil.symm

@[simp] theorem capacity_append (h : History α) (a : α) : (h.append a).capacity = h.capacity := rfl

theorem Holds.length_eq {h : History α} {log : List α} (hlog : h.Holds log) :
    h.entries.length = min log.length h.capacity := by
  rw [hlog, List.length_drop]
  omega

/-- An entry that is given is the next one of the log. -/
theorem Holds.append {h : History α} {log : List α} (hlog : h.Holds log) (a : α) :
    (h.append a).Holds (log ++ [a]) := by
  have hpos := h.capacity_pos
  have hlength := hlog.length_eq
  unfold Holds at hlog ⊢
  rw [capacity_append, List.length_append, List.length_singleton,
    List.drop_append_of_le_length (by omega)]
  show h.entries.drop (h.entries.length + 1 - h.capacity) ++ [a] = _
  rw [hlength, hlog, List.drop_drop]
  congr 2
  omega

theorem appendAll_append (h : History α) (as bs : List α) :
    h.appendAll (as ++ bs) = (h.appendAll as).appendAll bs := List.foldl_append

theorem capacity_appendAll (h : History α) (as : List α) :
    (h.appendAll as).capacity = h.capacity := by
  induction as generalizing h with
  | nil => rfl
  | cons a as ih => exact ih (h.append a)

theorem Holds.appendAll {h : History α} {log : List α} (hlog : h.Holds log) (as : List α) :
    (h.appendAll as).Holds (log ++ as) := by
  induction as generalizing h log with
  | nil => rwa [List.append_nil]
  | cons a as ih =>
    rw [List.append_cons]
    exact ih (hlog.append a)

/-- What an empty history holds after some entries. -/
theorem entries_appendAll_empty (capacity : Nat) (as : List α) :
    ((empty capacity).appendAll as).entries = as.drop (as.length - max capacity 1) := by
  have h := (holds_empty capacity).appendAll as
  rwa [Holds, capacity_appendAll, List.nil_append] at h

/-- The newest entry is the last one of the log. -/
theorem Holds.latest? {h : History α} {log : List α} (hlog : h.Holds log) :
    h.latest? = log.getLast? := by
  have hpos := h.capacity_pos
  unfold History.latest?
  rw [hlog, List.getLast?_drop]
  cases log with
  | nil => rfl
  | cons a log => rw [if_neg (by rw [List.length_cons]; omega)]

end NodeTelemetry.History
