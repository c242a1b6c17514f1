import NodeTelemetry.Collector.Config
import NodeTelemetry.Proofs.Text.Digits

/-!
# What the text of a variable is read as

A text that writes an integer (`WritesInteger`) is read as this integer if 64 bits can hold it, and else
as the number nearest to it (`ofText_eq`): a word for a truth value begins with a letter, and so do the
words for numbers. Whatever a text is read as, a natural number that comes out of it is a word
(`toNatural_le`), and a text comes out of it always (`toText_ofText`).
-/

namespace NodeTelemetry.Collector

open Text

/-- Whether a text begins with a `-`, and what stands behind its sign if it has one. -/
def behindSign : List Char → Bool × List Char
  | '-' :: ds => (true, ds)
  | '+' :: ds => (false, ds)
  | ds => (false, ds)

/-- A text writes an integer: it is digits, at least one of them, perhaps behind a sign. -/
def WritesInteger (cs : List Char) (i : Int) : Prop :=
  (behindSign cs).2 ≠ [] ∧ AllDigits (behindSign cs).2 ∧
    i = if (behindSign cs).1 then -(ofDigits (behindSign cs).2 : Int) else ofDigits (behindSign cs).2

instance (cs : List Char) (i : Int) : Decidable (WritesInteger cs i) :=
  inferInstanceAs (Decidable (_ ∧ _ ∧ _))

/-- An integer that 64 bits can hold. -/
def Short (i : Int) : Prop := -(maxInteger + 1) ≤ i ∧ i ≤ maxInteger

instance (i : Int) : Decidable (Short i) := inferInstanceAs (Decidable (_ ∧ _))

/-! ### The first character -/

theorem toLower_digit {c : Char} (h : c.isDigit = true) : c.toLower = c := by
  rw [Char.isDigit, Bool.and_eq_true, decide_eq_true_eq, decide_eq_true_eq] at h
  have hle : c.val ≤ 57 := h.2
  unfold Char.toLower
  rw [dif_neg]
  intro hupper
  exact absurd (UInt32.le_trans hupper.1 hle) (by decide)

/-- Digits begin with a digit. -/
theorem head_of_allDigits {ds : List Char} (hne : ds ≠ []) (h : AllDigits ds) :
    ∃ c rest, ds = c :: rest ∧ c.isDigit = true := by
  cases ds with
  | nil => exact absurd rfl hne
  | cons c rest => exact ⟨c, rest, rfl, (allDigits_cons.mp h).1⟩

/-- A character that an integer can begin with. -/
def isFirst (c : Char) : Bool := c.isDigit || c == '+' || c == '-'

/-- An integer begins with a digit or a sign, which has one case only. -/
theorem WritesInteger.first {cs : List Char} {i : Int} (h : WritesInteger cs i) :
    ∃ c rest, cs = c :: rest ∧ isFirst c = true ∧ c.toLower = c := by
  obtain ⟨hne, hdigits, -⟩ := h
  revert hne hdigits
  fun_cases behindSign cs with
  | case1 ds => exact fun _ _ => ⟨'-', ds, rfl, rfl, rfl⟩
  | case2 ds => exact fun _ _ => ⟨'+', ds, rfl, rfl, rfl⟩
  | case3 =>
    intro hne hdigits
    obtain ⟨c, rest, rfl, hc⟩ := head_of_allDigits hne hdigits
    exact ⟨c, rest, rfl, by rw [isFirst, hc]; rfl, toLower_digit hc⟩

/-- So no word with letters is one, in any case. -/
theorem lower_ne_word {c d : Char} {rest ds : List Char} (hc : isFirst c = true)
    (hlower : c.toLower = c) (hd : isFirst d = false) :
    String.ofList ((c :: rest).map Char.toLower) ≠ String.ofList (d :: ds) := by
  intro h
  have hlist := String.ofList_injective h
  rw [List.map_cons, hlower] at hlist
  rw [(List.cons.inj hlist).1, hd] at hc
  cases hc

/-! ### Integers -/

theorem all_isDigit {ds : List Char} : ds.all Char.isDigit = true ↔ AllDigits ds := List.all_eq_true

/-- **An integer is read if 64 bits can hold it.** -/
theorem integer?_eq {s : String} {i : Int} (h : WritesInteger s.toList i) :
    integer? s = if Short i then some i else none := by
  obtain ⟨hne, hdigits, rfl⟩ := h
  have hgood : ¬((behindSign s.toList).2.isEmpty ∨
      (!(behindSign s.toList).2.all Char.isDigit) = true) := by
    rintro (hempty | hbad)
    · exact hne (List.isEmpty_iff.mp hempty)
    · rw [all_isDigit.mpr hdigits] at hbad
      cases hbad
  exact if_neg hgood

theorem short_of_integer? {s : String} {i : Int} (h : integer? s = some i) : Short i := by
  unfold integer? at h
  split at h
  rename_i negative ds _
  dsimp only at h
  generalize (if negative = true then -(ofDigits ds : Int) else ofDigits ds) = j at h
  split at h
  · cases h
  · split at h
    · rename_i hshort
      exact Option.some.inj h ▸ hshort
    · cases h

/-- What begins with a digit or a sign is no word for a number, so its digits are read. -/
theorem readSize_digits (negative : Bool) {ds : List Char} (hne : ds ≠ []) (h : AllDigits ds) :
    Binary.readSize .double negative ds =
      some (Binary.ofDecimal .double negative (ofDigits ds) 0) := by
  obtain ⟨c, rest, rfl, hc⟩ := head_of_allDigits hne h
  have hfirst : isFirst c = true := by rw [isFirst, hc]; rfl
  have hword (d : Char) (ds : List Char) (hd : isFirst d = false) :
      String.ofList ((c :: rest).map Char.toLower) ≠ String.ofList (d :: ds) :=
    lower_ne_word hfirst (toLower_digit hc) hd
  obtain ⟨htake, hdrop⟩ := takeWhile_digits h [] rfl
  rw [List.append_nil] at htake hdrop
  unfold Binary.readSize
  split
  · rename_i hinf
    exact absurd hinf (hword 'i' ['n', 'f'] rfl)
  · rename_i hinf
    exact absurd hinf (hword 'i' _ rfl)
  · rename_i hnan
    exact absurd hnan (hword 'n' ['a', 'n'] rfl)
  · simp only [htake, hdrop, List.append_nil]
    rfl

/-- **An integer is read as the number nearest to it, of whatever length.** -/
theorem read?_integer {cs : List Char} {i : Int} (h : WritesInteger cs i) (hne : i ≠ 0) :
    Binary.read? .double cs = some (Binary.ofDecimal .double (decide (i < 0)) i.natAbs 0) := by
  obtain ⟨hnil, hdigits, rfl⟩ := h
  have hread : Binary.read? .double cs =
      Binary.readSize .double (behindSign cs).1 (behindSign cs).2 := by
    fun_cases behindSign cs with
    | case1 => rfl
    | case2 => rfl
    | case3 _ hminus hplus =>
      unfold Binary.read?
      split
      · exact absurd rfl (hminus _)
      · exact absurd rfl (hplus _)
      · rfl
  rw [hread, readSize_digits _ hnil hdigits]
  generalize (behindSign cs).1 = negative at hne
  generalize ofDigits (behindSign cs).2 = n at hne
  cases negative with
  | false =>
    have hsign : decide ((n : Int) < 0) = false := decide_eq_false (by omega)
    simp only [Bool.false_eq_true, if_false, hsign, Int.natAbs_natCast]
  | true =>
    have hsign : decide (-(n : Int) < 0) = true := decide_eq_true (by
      rw [if_pos rfl] at hne
      omega)
    simp only [if_true, hsign, Int.natAbs_neg, Int.natAbs_natCast]

/-- **A text that writes an integer is read as it, or as the nearest number if it is too long.** -/
theorem ofText_eq {s : String} {i : Int} (h : WritesInteger s.toList i) :
    Setting.ofText s =
      if Short i then .int i else .real (Binary.ofDecimal .double (decide (i < 0)) i.natAbs 0) := by
  obtain ⟨c, rest, hs, hc, hlower⟩ := h.first
  have hword (d : Char) (ds : List Char) (hd : isFirst d = false) :
      asciiLower s ≠ String.ofList (d :: ds) := by
    unfold asciiLower
    rw [hs]
    exact lower_ne_word hc hlower hd
  unfold Setting.ofText
  split
  · rename_i htrue
    exact absurd htrue (hword 't' ['r', 'u', 'e'] rfl)
  · rename_i hfalse
    exact absurd hfalse (hword 'f' ['a', 'l', 's', 'e'] rfl)
  · rw [integer?_eq h]
    by_cases hshort : Short i
    · rw [if_pos hshort, if_pos hshort]
    · have hne : i ≠ 0 := by
        rintro rfl
        exact hshort (by decide)
      rw [if_neg hshort, if_neg hshort, read?_integer h hne]

/-! ### What comes out of a text -/

theorem toNatSaturating_le (bound : Nat) (x : Binary) : x.toNatSaturating bound ≤ bound := by
  cases x with
  | nan => exact Nat.zero_le _
  | infinite s =>
    cases s
    · exact Nat.le_refl _
    · exact Nat.zero_le _
  | finite s m e =>
    cases s
    · exact Nat.min_le_left _ _
    · exact Nat.zero_le _

/-- What a text is read as is simple, and its integers are short. -/
theorem ofText_cases (s : String) :
    (∃ b, Setting.ofText s = .bool b) ∨ (∃ i, Setting.ofText s = .int i ∧ Short i) ∨
      (∃ x, Setting.ofText s = .real x) ∨ Setting.ofText s = .text s := by
  unfold Setting.ofText
  split
  · exact .inl ⟨true, rfl⟩
  · exact .inl ⟨false, rfl⟩
  · split
    · rename_i i hi
      exact .inr (.inl ⟨i, rfl, short_of_integer? hi⟩)
    · split
      · exact .inr (.inr (.inl ⟨_, rfl⟩))
      · exact .inr (.inr (.inr rfl))

/-- **A natural number that comes out of a text is a word.** -/
theorem toNatural_le {key s : String} {n : Nat} (h : (Setting.ofText s).toNatural key = .ok n) :
    n ≤ maxWord := by
  rcases ofText_cases s with ⟨b, hb⟩ | ⟨i, hi, hshort⟩ | ⟨x, hx⟩ | htext
  · rw [hb] at h
    cases h
    cases b <;> decide
  · rw [hi, Setting.toNatural] at h
    split_ifs at h with hneg
    cases h
    unfold Short maxInteger at hshort
    unfold maxWord
    omega
  · rw [hx] at h
    cases h
    exact toNatSaturating_le _ _
  · rw [htext, Setting.toNatural] at h
    split at h
    · cases h
      decide
    · cases h
      decide
    · cases h
      decide
    · cases h
      decide
    · cases h

/-- **A text comes out of every text.** -/
theorem toText_ofText (key s : String) : ∃ t, (Setting.ofText s).toText key = .ok t := by
  rcases ofText_cases s with ⟨b, hb⟩ | ⟨i, hi, -⟩ | ⟨x, hx⟩ | htext
  · exact ⟨_, by rw [hb]; rfl⟩
  · exact ⟨_, by rw [hi]; rfl⟩
  · exact ⟨_, by rw [hx]; rfl⟩
  · exact ⟨_, by rw [htext]; rfl⟩

end NodeTelemetry.Collector
