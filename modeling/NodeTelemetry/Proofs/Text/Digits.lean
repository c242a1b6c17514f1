import Mathlib.Algebra.Order.Ring.Nat
import NodeTelemetry.Text.Digits

/-!
# What digits write

The digits of a number write that number (`ofDigits_decimal`), they are digits, and the first of
them is no zero unless the number is (`canonical_decimal`). A list of digits that goes on from a
number `n` writes `Nat.ofDigitChars 10 cs n`; leaving out the last of them leaves out no more than
they add (`take_mul_le`).
-/

namespace NodeTelemetry.Text

/-- A list of digits. -/
def AllDigits (cs : List Char) : Prop := ∀ c ∈ cs, c.isDigit = true

instance (cs : List Char) : Decidable (AllDigits cs) :=
  List.decidableBAll (fun c : Char => c.isDigit = true) cs

/-- Digits as they are written: a single zero, or a first digit that is none. -/
def Canonical (cs : List Char) : Prop := cs = ['0'] ∨ ∃ c rest, cs = c :: rest ∧ c ≠ '0'

theorem allDigits_nil : AllDigits [] := fun _ h => absurd h List.not_mem_nil

theorem allDigits_cons {c : Char} {cs : List Char} :
    AllDigits (c :: cs) ↔ c.isDigit = true ∧ AllDigits cs := List.forall_mem_cons

theorem AllDigits.append {cs ds : List Char} (hc : AllDigits cs) (hd : AllDigits ds) :
    AllDigits (cs ++ ds) := fun c h => (List.mem_append.mp h).elim (hc c) (hd c)

theorem AllDigits.sublist {cs ds : List Char} (hd : AllDigits ds) (h : cs.Sublist ds) :
    AllDigits cs := fun c hc => hd c (h.subset hc)

theorem allDigits_zeros (n : Nat) : AllDigits (List.replicate n '0') := fun c h => by
  rw [List.eq_of_mem_replicate h]
  rfl

theorem allDigits_decimal (n : Nat) : AllDigits (decimal n) := fun _ h =>
  Nat.isDigit_of_mem_toDigits (by decide) (by decide) h

/-- Digits are cut off where something else follows. -/
theorem takeWhile_digits {ds : List Char} (h : AllDigits ds) (rest : List Char)
    (hrest : rest.head?.all (fun c => !c.isDigit)) :
    (ds ++ rest).takeWhile Char.isDigit = ds ∧ (ds ++ rest).dropWhile Char.isDigit = rest := by
  rw [List.takeWhile_append_of_pos h, List.dropWhile_append_of_pos h]
  cases rest with
  | nil => exact ⟨List.append_nil ds, rfl⟩
  | cons c rest =>
    have hc : ¬c.isDigit = true := by simpa using hrest
    rw [List.takeWhile_cons_of_neg hc, List.dropWhile_cons_of_neg hc]
    exact ⟨List.append_nil ds, rfl⟩

theorem decimal_ne_nil (n : Nat) : decimal n ≠ [] := Nat.toDigits_ne_nil

theorem ofDigits_decimal (n : Nat) : ofDigits (decimal n) = n := Nat.ofDigitChars_ten_toDigits

/-- The value of a digit is at most nine, and zero only for the zero. -/
theorem digitValue_spec {c : Char} (h : c.isDigit = true) :
    digitValue c ≤ 9 ∧ (digitValue c = 0 → c = '0') := by
  rw [Char.isDigit, Bool.and_eq_true, decide_eq_true_eq, decide_eq_true_eq] at h
  have hle : 48 ≤ c.toNat := UInt32.le_iff_toNat_le.mp h.1
  have hge : c.toNat ≤ 57 := UInt32.le_iff_toNat_le.mp h.2
  refine ⟨?_, fun hzero => ?_⟩
  · show c.toNat - 48 ≤ 9
    omega
  · have hnat : c.toNat = 48 := by
      have hsub : c.toNat - 48 = 0 := hzero
      omega
    rw [← Char.ofNat_toNat c, hnat]

/-- Digits begin with a zero only if it is the only one. -/
theorem canonical_cons {c : Char} {cs : List Char} : Canonical (c :: cs) ↔ (c = '0' → cs = []) := by
  constructor
  · rintro (h | ⟨d, tail, h, hne⟩) hc
    · exact (List.cons.inj h).2
    · exact absurd ((List.cons.inj h).1.symm.trans hc) hne
  · intro h
    by_cases hc : c = '0'
    · rw [hc, h hc]
      exact .inl rfl
    · exact .inr ⟨c, cs, rfl, hc⟩

/-- The digits of a number begin with a zero only if the number is zero. -/
theorem canonical_decimal (n : Nat) : Canonical (decimal n) := by
  induction n using Nat.strongRecOn with
  | ind n ih =>
    by_cases hsmall : n < 10
    · have hdigit : ∀ k < 10, Canonical [k.digitChar] := by
        intro k hk
        by_cases hzero : k = 0
        · exact .inl (by rw [hzero]; rfl)
        · refine .inr ⟨_, [], rfl, ?_⟩
          have hne : ∀ j < 10, j ≠ 0 → j.digitChar ≠ '0' := by decide
          exact hne k hk hzero
      unfold decimal
      rw [Nat.toDigits_of_lt_base hsmall]
      exact hdigit n hsmall
    · have hmore : 10 ≤ n := Nat.le_of_not_lt hsmall
      have hsplit : decimal n = decimal (n / 10) ++ [(n % 10).digitChar] :=
        Nat.toDigits_of_base_le (by decide) hmore
      rw [hsplit]
      rcases ih (n / 10) (by omega) with h | ⟨c, rest, h, hc⟩
      · -- a quotient of zero is that of a single digit
        have hzero := ofDigits_decimal (n / 10)
        rw [h] at hzero
        have hzero' : 0 = n / 10 := hzero
        omega
      · exact .inr ⟨c, rest ++ [(n % 10).digitChar], by rw [h]; rfl, hc⟩

/-! ### Digits that go on from a number -/

/-- The next digit. -/
theorem ofDigitChars_cons (c : Char) (cs : List Char) (n : Nat) :
    Nat.ofDigitChars 10 (c :: cs) n = Nat.ofDigitChars 10 cs (n * 10 + digitValue c) := by
  rw [Nat.ofDigitChars_cons, Nat.mul_comm]
  rfl

theorem ofDigits_cons (c : Char) (cs : List Char) :
    ofDigits (c :: cs) = Nat.ofDigitChars 10 cs (digitValue c) := by
  rw [ofDigits, ofDigitChars_cons, Nat.zero_mul, Nat.zero_add]

/-- Digits after others count for themselves, and shift what stands before them. -/
theorem ofDigitChars_eq (cs : List Char) (n : Nat) :
    Nat.ofDigitChars 10 cs n = 10 ^ cs.length * n + ofDigits cs :=
  Nat.ofDigitChars_eq_ofDigitChars_zero

theorem le_ofDigitChars (cs : List Char) (n : Nat) : n ≤ Nat.ofDigitChars 10 cs n := by
  rw [ofDigitChars_eq]
  exact Nat.le_add_right_of_le (Nat.le_mul_of_pos_left n (Nat.pow_pos (by decide)))

theorem ofDigits_lt {cs : List Char} (h : AllDigits cs) : ofDigits cs < 10 ^ cs.length := by
  induction cs with
  | nil => decide
  | cons c cs ih =>
    obtain ⟨hc, hcs⟩ := allDigits_cons.mp h
    have hnine := Nat.mul_le_mul_left (10 ^ cs.length) (digitValue_spec hc).1
    have hrest := ih hcs
    rw [ofDigits_cons, ofDigitChars_eq, List.length_cons, Nat.pow_succ]
    omega

/-- Sixteen digits write a word. -/
theorem ofDigits_le_maxWord {cs : List Char} (h : AllDigits cs) (hlength : cs.length ≤ 16) :
    ofDigits cs ≤ maxWord := by
  have hlt := ofDigits_lt h
  have hpow : 10 ^ cs.length ≤ 10 ^ 16 := Nat.pow_le_pow_right (by decide) hlength
  unfold maxWord
  omega

/-- The first digits, shifted by the number of those left out, write no more than all of them. -/
theorem take_mul_le (cs : List Char) (n j : Nat) :
    Nat.ofDigitChars 10 (cs.take j) n * 10 ^ (cs.length - j) ≤ Nat.ofDigitChars 10 cs n := by
  have hsplit := Nat.ofDigitChars_append (b := 10) (l := cs.take j) (m := cs.drop j) n
  rw [List.take_append_drop] at hsplit
  rw [hsplit, ofDigitChars_eq (cs.drop j), List.length_drop, Nat.mul_comm]
  exact Nat.le_add_right _ _

/-! ### Words of 64 bits -/

/-- What stands behind one sign `+`, if a text begins with it. -/
def behindPlus : List Char → List Char
  | '+' :: cs => cs
  | cs => cs

/-- Digits that go on from a word are read if they do not lead beyond the largest one, and anything
else is refused. -/
theorem readDigits_eq_ok {cs : List Char} {n k : Nat} (hn : n ≤ maxWord) :
    readDigits cs n = .ok k ↔
      AllDigits cs ∧ Nat.ofDigitChars 10 cs n = k ∧ k ≤ maxWord := by
  induction cs generalizing n with
  | nil =>
    constructor
    · intro h
      cases h
      exact ⟨allDigits_nil, rfl, hn⟩
    · rintro ⟨-, rfl, -⟩
      rfl
  | cons c cs ih =>
    rw [allDigits_cons, readDigits, ofDigitChars_cons]
    by_cases hc : c.isDigit = true
    · simp only [hc, if_true, true_and]
      by_cases hnext : maxWord < n * 10 + digitValue c
      · -- the number only grows from here on
        rw [if_pos hnext]
        refine iff_of_false nofun fun h => ?_
        have hgrows := le_ofDigitChars cs (n * 10 + digitValue c)
        omega
      · rw [if_neg hnext]
        exact ih (Nat.le_of_not_lt hnext)
    · rw [if_neg hc]
      exact iff_of_false nofun fun h => hc h.1.1

/-- **A text writes a word** if it is digits, at least one and perhaps behind a sign `+`, and the
number that they write is not too large. -/
theorem word?_eq_some (cs : List Char) (n : Nat) :
    word? cs = some n ↔
      behindPlus cs ≠ [] ∧ AllDigits (behindPlus cs) ∧ ofDigits (behindPlus cs) = n ∧
        n ≤ maxWord := by
  have hok : word? cs = some n ↔ readWord cs = .ok n := by
    unfold word?
    cases readWord cs <;> simp
  rw [hok]
  unfold readWord behindPlus
  split
  · exact iff_of_false nofun fun h => h.1 rfl
  · exact iff_of_false nofun fun h => h.1 rfl
  · rename_i cs hcs
    rw [readDigits_eq_ok (Nat.zero_le _)]
    exact (and_iff_right hcs).symm
  · rename_i hnil _ hplus
    rw [readDigits_eq_ok (Nat.zero_le _)]
    split
    · exact absurd rfl (hplus _)
    · exact (and_iff_right hnil).symm

/-! ### Digits of a fixed width -/

theorem length_padded {width n : Nat} (hwidth : 0 < width) (h : n < 10 ^ width) :
    (padded width n).length = width := by
  have hle := (Nat.length_toDigits_le_iff (by decide) hwidth).mpr h
  change (decimal n).length ≤ width at hle
  unfold padded
  rw [List.length_append, List.length_replicate]
  omega

theorem allDigits_padded (width n : Nat) : AllDigits (padded width n) :=
  (allDigits_zeros _).append (allDigits_decimal n)

/-- Zeros in front write nothing. -/
theorem ofDigits_padded (width n : Nat) : ofDigits (padded width n) = n := by
  have hzeros : ∀ k cs, ofDigits (List.replicate k '0' ++ cs) = ofDigits cs := by
    intro k cs
    induction k with
    | zero => rfl
    | succ k ih =>
      rw [List.replicate_succ, List.cons_append, ofDigits_cons]
      exact ih
  exact (hzeros _ _).trans (ofDigits_decimal n)

end NodeTelemetry.Text
