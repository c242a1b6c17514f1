/-!
# Bounded histories

A history keeps the newest entries given to it, up to its capacity, in the order in which they were
given. When it is full, the oldest entry makes room for the next one. Whoever reads a history gets
a list of its own, which later entries do not change.
-/

namespace NodeTelemetry

/-- The number of entries kept unless another capacity is asked for. -/
def defaultCapacity : Nat := 900

/-- The newest entries given, oldest first. -/
structure History (α : Type) where
  /-- The most entries that are kept. -/
  capacity : Nat
  /-- The entries kept, oldest first. -/
  entries : List α
  /-- There is room for an entry. -/
  capacity_pos : 0 < capacity
  /-- No more is kept than there is room for. -/
  length_le : entries.length ≤ capacity

namespace History

variable {α : Type}

/-- An empty history. A capacity of zero is raised to one. -/
def empty (capacity : Nat) : History α :=
  ⟨max capacity 1, [], by omega, by simp⟩

/-- Gives an entry to a history. -/
def append (h : History α) (a : α) : History α :=
  { h with
    entries := h.entries.drop (h.entries.length + 1 - h.capacity) ++ [a]
    length_le := by
      have := h.length_le
      have := h.capacity_pos
      simp only [List.length_append, List.length_drop, List.length_cons, List.length_nil]
      omega }

/-- Gives several entries, one after the other. -/
def appendAll (h : History α) (as : List α) : History α := as.foldl append h

/-- The entries kept, oldest first. -/
def snapshot (h : History α) : List α := h.entries

/-- The newest entry, if there is one. -/
def latest? (h : History α) : Option α := h.entries.getLast?

/-- The number of entries kept. -/
def length (h : History α) : Nat := h.entries.length

/-- Whether nothing is kept. -/
def isEmpty (h : History α) : Bool := h.entries.isEmpty

end History

end NodeTelemetry
