import Mathlib.Data.List.TakeWhile
import NodeTelemetry.Text.Blank

/-!
# Pieces and lines of a text

`Text.splitOn` goes through a text once, with the piece at hand as a state. It gives the pieces that
`List.splitOnP` gives, so the library's laws hold of it. From them come the laws of lines: a line
that a line feed ends is followed by the lines of the rest, and what no line feed ends is a line
unless it is empty.
-/

namespace NodeTelemetry.Text

/-- The pieces of a text are those that the list library splits it into. -/
theorem splitOn_eq_splitOnP (p : Char → Bool) (cs : List Char) :
    splitOn p cs = cs.splitOnP p := by
  -- the pieces found so far stand before those of the rest, the piece at hand begins them
  have hrun : ∀ (cs : List Char) (found : List (List Char)) (piece : List Char),
      (let r := cs.foldl (fun (acc : List (List Char) × List Char) c =>
        if p c then (acc.2.reverse :: acc.1, []) else (acc.1, c :: acc.2)) (found, piece)
      (r.2.reverse :: r.1).reverse) = found.reverse ++ cs.splitOnPPrepend p piece := by
    intro cs
    induction cs with
    | nil =>
      intro found piece
      exact List.reverse_cons
    | cons c cs ih =>
      intro found piece
      rw [List.splitOnPPrepend_cons_eq_if, List.foldl_cons]
      by_cases hc : p c
      · simp only [if_pos hc]
        rw [ih, List.reverse_cons, List.append_assoc]
        rfl
      · simp only [if_neg hc]
        exact ih found (c :: piece)
  exact hrun cs [] []

theorem splitOn_ne_nil (p : Char → Bool) (cs : List Char) : splitOn p cs ≠ [] := by
  rw [splitOn_eq_splitOnP]
  exact List.splitOnP_ne_nil p cs

/-- A line that a line feed ends, and the lines of the rest. -/
theorem lines_append_cons {line : List Char} (h : '\n' ∉ line) (rest : List Char) :
    lines (line ++ '\n' :: rest) = dropReturn line :: lines rest := by
  have hpieces : splitOn (· == '\n') (line ++ '\n' :: rest) = line :: splitOn (· == '\n') rest := by
    rw [splitOn_eq_splitOnP, splitOn_eq_splitOnP]
    refine List.splitOnP_append_cons_of_forall_mem (fun c hc => ?_) _ rfl _
    exact beq_eq_false_iff_ne.mpr fun heq => h (heq ▸ hc)
  have hne := splitOn_ne_nil (· == '\n') rest
  unfold lines
  rw [hpieces]
  simp only
  generalize splitOn (· == '\n') rest = pieces at hne
  obtain ⟨piece, pieces, rfl⟩ := List.exists_cons_of_ne_nil hne
  rw [List.dropLast_cons_cons, List.map_cons, List.getLast?_cons_cons]
  cases (piece :: pieces).getLast? with
  | none => rfl
  | some last => cases last <;> rfl

/-- A mark at the end begins one more piece. -/
theorem splitOn_append_mark {p : Char → Bool} {c : Char} (hc : p c) (cs : List Char) :
    splitOn p (cs ++ [c]) = splitOn p cs ++ [[]] := by
  rw [splitOn_eq_splitOnP, splitOn_eq_splitOnP]
  exact List.splitOnP_append_cons cs [] hc

/-- The lines of a text that a line feed ends. -/
theorem lines_append_feed (cs : List Char) :
    lines (cs ++ ['\n']) = (splitOn (· == '\n') cs).map dropReturn := by
  unfold lines
  rw [splitOn_append_mark rfl]
  simp only [List.dropLast_concat, List.getLast?_concat]

/-- The pieces of a text have no other characters than the text. -/
theorem mem_of_mem_splitOn {p : Char → Bool} {cs piece : List Char} (h : piece ∈ splitOn p cs)
    {c : Char} (hc : c ∈ piece) : c ∈ cs := by
  rw [splitOn_eq_splitOnP] at h
  induction cs generalizing piece with
  | nil =>
    obtain rfl := List.mem_singleton.mp h
    exact hc
  | cons d cs ih =>
    rw [List.splitOnP_cons_eq_if_modifyHead] at h
    by_cases hd : p d
    · rw [if_pos hd] at h
      rcases List.mem_cons.mp h with rfl | h
      · cases hc
      · exact List.mem_cons_of_mem d (ih h hc)
    · rw [if_neg hd] at h
      obtain ⟨first, rest, hsplit⟩ := List.exists_cons_of_ne_nil (List.splitOnP_ne_nil p cs)
      rw [hsplit] at h ih
      rcases List.mem_cons.mp h with rfl | h
      · rcases List.mem_cons.mp hc with rfl | hc
        · exact List.mem_cons_self
        · exact List.mem_cons_of_mem d (ih List.mem_cons_self hc)
      · exact List.mem_cons_of_mem d (ih (List.mem_cons_of_mem first h) hc)

/-- A line feed does not count to its line, and neither does a carriage return before it; a line
without one stays as it is. -/
theorem dropReturn_of_notMem {line : List Char} (h : '\r' ∉ line) : dropReturn line = line := by
  unfold dropReturn
  rw [if_neg]
  exact fun hlast => h (List.mem_of_getLast? hlast)

/-! ### The first separator -/

/-- A text is split at its first separator. -/
theorem splitOnce_append {sep : Char} {before : List Char} (h : sep ∉ before) (after : List Char) :
    splitOnce sep (before ++ sep :: after) = some (before, after) := by
  have hbefore : ∀ c ∈ before, (c != sep) = true := fun c hc => by
    simpa using fun he : c = sep => h (he ▸ hc)
  unfold splitOnce
  rw [List.dropWhile_append_of_pos hbefore, List.takeWhile_append_of_pos hbefore]
  simp

/-- **A text is split at its first separator and nowhere else.** -/
theorem splitOnce_eq_some {sep : Char} {cs before after : List Char} :
    splitOnce sep cs = some (before, after) ↔ sep ∉ before ∧ cs = before ++ sep :: after := by
  constructor
  · intro h
    have hsplit := List.takeWhile_append_dropWhile (p := (· != sep)) (l := cs)
    unfold splitOnce at h
    split at h
    · cases h
    · rename_i c rest hrest
      cases h
      have hc : c = sep := by
        simpa [hrest] using List.head_dropWhile_not (· != sep) (l := cs) (by simp [hrest])
      rw [hrest, hc] at hsplit
      refine ⟨fun hmem => ?_, hsplit.symm⟩
      simpa using List.mem_takeWhile_imp hmem
  · rintro ⟨hbefore, rfl⟩
    exact splitOnce_append hbefore after

/-- A text without the separator is not split. -/
theorem splitOnce_eq_none {sep : Char} {cs : List Char} : splitOnce sep cs = none ↔ sep ∉ cs := by
  constructor
  · intro h hmem
    obtain ⟨before, after, rfl, hbefore⟩ := List.eq_append_cons_of_mem hmem
    rw [splitOnce_append hbefore] at h
    cases h
  · intro h
    cases hsplit : splitOnce sep cs with
    | none => rfl
    | some parts =>
      obtain ⟨-, rfl⟩ := splitOnce_eq_some.mp hsplit
      simp at h

end NodeTelemetry.Text
