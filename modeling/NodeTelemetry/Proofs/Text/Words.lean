import NodeTelemetry.Proofs.Text.Lines

/-!
# Words of a text

`Text.words` splits a text at every blank and drops the empty pieces. Here the same is said of the text
itself: `Spaced ws cs` puts the text `cs` together from the words `ws`, with white space between any two
of them and perhaps before the first and after the last. Every text is put together in this way
(`exists_spaced`), and only from its own words (`words_of_spaced`), so both accounts agree
(`words_eq_iff`). In the same way `Trimmed` says what is left of a text without the white space around
it (`trim_eq_iff`).

## The model

`Spaced` goes by recursion on the list of words, not on the text: a word with the white space before it,
and the rest of the text, which has to begin with white space unless it is empty. A question about a line
of two words is then answered by taking the list apart.
-/

namespace NodeTelemetry.Text

/-- White space and nothing else. -/
def Blanks (cs : List Char) : Prop := ∀ c ∈ cs, isBlank c = true

/-- A word: some characters, and no white space. -/
def IsWord (cs : List Char) : Prop := cs ≠ [] ∧ ∀ c ∈ cs, isBlank c = false

instance (cs : List Char) : Decidable (Blanks cs) :=
  List.decidableBAll (fun c => isBlank c = true) cs

instance (cs : List Char) : Decidable (IsWord cs) :=
  @instDecidableAnd _ _ _ (List.decidableBAll (fun c => isBlank c = false) cs)

/-- A text that a word before it does not run into: it is empty or begins with white space. -/
def Parted (cs : List Char) : Prop := ∀ c ∈ cs.head?, isBlank c = true

/-- A text put together from words and the white space between and around them. -/
def Spaced : List (List Char) → List Char → Prop
  | [], cs => Blanks cs
  | w :: ws, cs =>
    ∃ gap rest, Blanks gap ∧ IsWord w ∧ cs = gap ++ (w ++ rest) ∧ Parted rest ∧ Spaced ws rest

variable {c : Char} {cs w : List Char} {ws : List (List Char)}

theorem blanks_nil : Blanks [] := fun _ h => absurd h List.not_mem_nil

theorem blanks_cons : Blanks (c :: cs) ↔ isBlank c = true ∧ Blanks cs := List.forall_mem_cons

/-! ### The words of what was put together -/

/-- **Words are split at white space.** -/
theorem words_append_blank (hc : isBlank c = true) (before after : List Char) :
    words (before ++ c :: after) = words before ++ words after := by
  simp only [words, splitOn_eq_splitOnP, List.splitOnP_append_cons before after hc,
    List.filter_append]

/-- White space at the front belongs to no word. -/
theorem words_blanks_append (h : Blanks cs) (rest : List Char) : words (cs ++ rest) = words rest := by
  induction cs with
  | nil => rfl
  | cons c cs ih =>
    obtain ⟨hc, hcs⟩ := blanks_cons.mp h
    have hsplit := words_append_blank hc [] (cs ++ rest)
    rw [ih hcs] at hsplit
    simpa [words, splitOn] using hsplit

theorem words_of_blanks (h : Blanks cs) : words cs = [] := by
  simpa [words, splitOn] using words_blanks_append h []

/-- A text without white space is one word. -/
theorem words_of_isWord (h : IsWord w) : words w = [w] := by
  rw [words, splitOn_eq_splitOnP, List.splitOnP_eq_singleton h.2]
  simp [h.1]

/-- A word ends where white space begins. -/
theorem words_append_parted (hw : IsWord w) (hcs : Parted cs) : words (w ++ cs) = w :: words cs := by
  cases cs with
  | nil => simp [words_of_isWord hw, words_of_blanks blanks_nil]
  | cons c cs =>
    have hc : isBlank c = true := hcs c rfl
    have hrest := words_append_blank hc [] cs
    simp only [List.nil_append, words_of_blanks blanks_nil] at hrest
    rw [words_append_blank hc, words_of_isWord hw, hrest]
    rfl

theorem words_of_spaced (h : Spaced ws cs) : words cs = ws := by
  induction ws generalizing cs with
  | nil => exact words_of_blanks h
  | cons w ws ih =>
    obtain ⟨gap, rest, hgap, hw, rfl, hparted, hrest⟩ := h
    rw [words_blanks_append hgap, words_append_parted hw hparted, ih hrest]

/-! ### Every text is put together -/

/-- White space before a text adds no word to it. -/
theorem Spaced.blank_cons (h : Spaced ws cs) (hc : isBlank c = true) : Spaced ws (c :: cs) := by
  cases ws with
  | nil => exact blanks_cons.mpr ⟨hc, h⟩
  | cons w ws =>
    obtain ⟨gap, rest, hgap, hw, rfl, hrest⟩ := h
    exact ⟨c :: gap, rest, blanks_cons.mpr ⟨hc, hgap⟩, hw, rfl, hrest⟩

/-- Any other character before a text begins a word: a new one, or the text's first word goes on from
it. -/
theorem Spaced.cons (h : Spaced ws cs) (hc : isBlank c = false) : ∃ us, Spaced us (c :: cs) := by
  have hone : IsWord [c] := ⟨List.cons_ne_nil c [], by simpa using hc⟩
  by_cases hcs : Parted cs
  · exact ⟨[c] :: ws, [], cs, blanks_nil, hone, rfl, hcs, h⟩
  · cases ws with
    | nil =>
      -- the text is white space throughout, so it would begin with it
      exact absurd (fun d hd => h d (List.mem_of_mem_head? hd)) hcs
    | cons w ws =>
      obtain ⟨gap, rest, hgap, hw, rfl, hrest⟩ := h
      cases gap with
      | cons d gap => exact absurd (fun e he => by
          obtain rfl : d = e := by simpa using he
          exact (blanks_cons.mp hgap).1) hcs
      | nil =>
        have hlonger : IsWord (c :: w) := ⟨List.cons_ne_nil c w, by simpa using ⟨hc, hw.2⟩⟩
        exact ⟨(c :: w) :: ws, [], rest, blanks_nil, hlonger, rfl, hrest⟩

/-- Every text is put together from some words. -/
theorem exists_spaced (cs : List Char) : ∃ ws, Spaced ws cs := by
  induction cs with
  | nil => exact ⟨[], blanks_nil⟩
  | cons c cs ih =>
    obtain ⟨ws, h⟩ := ih
    cases hc : isBlank c with
    | true => exact ⟨ws, h.blank_cons hc⟩
    | false => exact h.cons hc

/-- **The words of a text are those that it is put together from.** -/
theorem words_eq_iff : words cs = ws ↔ Spaced ws cs := by
  constructor
  · rintro rfl
    obtain ⟨us, h⟩ := exists_spaced cs
    exact (words_of_spaced h).symm ▸ h
  · exact words_of_spaced

/-! ### Words of lines -/

/-- A carriage return at the end of a line belongs to no word. -/
theorem words_dropReturn (line : List Char) : words (dropReturn line) = words line := by
  unfold dropReturn
  split
  · rename_i h
    obtain ⟨before, rfl⟩ := List.getLast?_eq_some_iff.mp h
    rw [List.dropLast_concat, words_append_blank (c := '\r') rfl, words_of_blanks blanks_nil,
      List.append_nil]
  · rfl

/-- **What the words of its lines give is what the words between its line feeds give**, as long as a
line without words gives nothing. -/
theorem filterMap_lines {α : Type} {f : List (List Char) → Option α} (hf : f [] = none)
    (cs : List Char) :
    (lines cs).filterMap (fun line => f (words line)) =
      (cs.splitOn '\n').filterMap fun line => f (words line) := by
  obtain ⟨init, last, hpieces⟩ : ∃ init last, splitOn (· == '\n') cs = init ++ [last] :=
    ⟨_, _, (List.dropLast_concat_getLast (splitOn_ne_nil (· == '\n') cs)).symm⟩
  have hsplit : cs.splitOn '\n' = init ++ [last] := by
    rw [List.splitOn_eq_splitOnP, ← splitOn_eq_splitOnP, hpieces]
  have hreturns : (init.map dropReturn).filterMap (fun line => f (words line)) =
      init.filterMap fun line => f (words line) := by
    simp only [List.filterMap_map, Function.comp_def, words_dropReturn]
  simp only [lines, hpieces, hsplit, List.dropLast_concat, List.getLast?_concat,
    List.filterMap_append]
  cases last with
  | nil => simp [hreturns, words_of_blanks blanks_nil, hf]
  | cons c last => simp [List.filterMap_append, hreturns]

/-! ### White space around a text -/

/-- White space around a text is trimmed with the white space at its own ends. -/
theorem trim_padded {before after : List Char} (hbefore : ∀ c ∈ before, isBlank c)
    (hafter : ∀ c ∈ after, isBlank c) (text : List Char) :
    trim (before ++ text ++ after) = trim text := by
  have hend : ∀ cs, trimEnd (cs ++ after) = trimEnd cs := by
    intro cs
    unfold trimEnd
    rw [List.reverse_append, List.dropWhile_append_of_pos fun c hc => hafter c (List.mem_reverse.mp hc)]
  unfold trim trimStart
  rw [List.append_assoc, List.dropWhile_append_of_pos hbefore, List.dropWhile_append]
  split
  · -- the text is white space throughout
    next hblank =>
      have hnone : after.dropWhile isBlank = [] := List.dropWhile_eq_nil_iff.mpr hafter
      rw [hnone, List.isEmpty_iff.mp hblank]
  · exact hend _

/-- A text is another one without the white space around it. -/
def Trimmed (cs text : List Char) : Prop :=
  (∃ before after, Blanks before ∧ Blanks after ∧ cs = before ++ text ++ after) ∧
    (∀ c ∈ text.head?, isBlank c = false) ∧ ∀ c ∈ text.getLast?, isBlank c = false

/-- What is left when white space at the front is dropped does not begin with white space. -/
theorem head?_dropWhile_isBlank (cs : List Char) :
    ∀ c ∈ (cs.dropWhile isBlank).head?, isBlank c = false := by
  intro c hc
  have hnot := List.head?_dropWhile_not isBlank cs
  rwa [Option.mem_def.mp hc] at hnot

/-- A text with no white space at its ends stays as it is. -/
theorem trim_self {text : List Char} (hhead : ∀ c ∈ text.head?, isBlank c = false)
    (hlast : ∀ c ∈ text.getLast?, isBlank c = false) : trim text = text := by
  have hdrop : ∀ cs : List Char, (∀ c ∈ cs.head?, isBlank c = false) →
      cs.dropWhile isBlank = cs := by
    intro cs hcs
    cases cs with
    | nil => rfl
    | cons c cs => simp [hcs c rfl]
  rw [trim, trimStart, hdrop text hhead, trimEnd, hdrop text.reverse (by simpa using hlast),
    List.reverse_reverse]

/-- **Trimming takes the white space around a text, and no more.** -/
theorem trim_eq_iff {cs text : List Char} : trim cs = text ↔ Trimmed cs text := by
  constructor
  · rintro rfl
    have hstart : cs.takeWhile isBlank ++ trimStart cs = cs := List.takeWhile_append_dropWhile
    have hend : trim cs ++ ((trimStart cs).reverse.takeWhile isBlank).reverse = trimStart cs := by
      rw [trim, trimEnd, ← List.reverse_append, List.takeWhile_append_dropWhile, List.reverse_reverse]
    have hbefore : Blanks (cs.takeWhile isBlank) := fun c hc => List.mem_takeWhile_imp hc
    have hafter : Blanks ((trimStart cs).reverse.takeWhile isBlank).reverse :=
      fun c hc => List.mem_takeWhile_imp (List.mem_reverse.mp hc)
    refine ⟨⟨_, _, hbefore, hafter, ?_⟩, fun c hc => ?_, fun c hc => ?_⟩
    · rw [List.append_assoc, hend, hstart]
    · have hhead : c ∈ (trimStart cs).head? := by
        rw [← hend, List.head?_append, Option.mem_def.mp hc]
        rfl
      exact head?_dropWhile_isBlank cs c hhead
    · rw [trim, trimEnd, List.getLast?_reverse] at hc
      exact head?_dropWhile_isBlank _ c hc
  · rintro ⟨⟨before, after, hbefore, hafter, rfl⟩, hhead, hlast⟩
    rw [trim_padded hbefore hafter, trim_self hhead hlast]

end NodeTelemetry.Text
