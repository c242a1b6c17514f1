import Mathlib.Algebra.Order.Floor.Semifield
import Mathlib.Data.Rat.Floor
import NodeTelemetry.Proofs.Binary.Rounding

/-!
# What operations are exactly

Which quotient of natural numbers an operation rounds does not matter, only which rational number it is
(`ofQuotient_congr`). So the operations can be told on numbers that are known to be some rational number
(`Is`): a natural number below `2 ^ 53` is itself (`is_ofNat`), and a sum or a quotient is what rounding
the rational sum or quotient gives.

Rounding a quotient and then rounding the result to a natural number is rounding twice. With a halves-up
rule in the second step this goes wrong if the first step reaches a half from below. It does not for
quotients of less than `2 ^ 52` (`is_ofQuotient_near`): a quotient that lies below a half stays away from
it by more than half a unit, since a unit is smaller than what the denominator can tell apart.
-/

namespace NodeTelemetry.Binary

variable {num den num' den' : Nat}

/-! ### Quotients -/

/-- A number that is at least a natural number is rounded to at least this one. -/
theorem le_roundQuotient {n : Nat} (hden : 0 < den) (h : (n : ℚ) ≤ num / den) :
    n ≤ roundQuotient num den := by
  have hfloor : n ≤ num / den := by
    rw [le_div_iff₀ (by exact_mod_cast hden)] at h
    exact (Nat.le_div_iff_mul_le hden).mpr (by exact_mod_cast h)
  unfold roundQuotient
  dsimp only
  split_ifs <;> omega

/-- A number that is more than a half below a natural number is rounded to less than this one. -/
theorem roundQuotient_lt {n : Nat} (hden : 0 < den) (h : (num / den : ℚ) + 1 / 2 < n) :
    roundQuotient num den < n := by
  have hlt : (roundQuotient num den : ℚ) < n := (roundQuotient_le hden).trans_lt h
  exact_mod_cast hlt

/-- A natural number is rounded to itself. -/
theorem roundQuotient_eq {n : Nat} (hden : 0 < den) (h : (num / den : ℚ) = n) :
    roundQuotient num den = n := by
  have hlow := le_roundQuotient hden h.ge
  have hhigh : roundQuotient num den < n + 1 :=
    roundQuotient_lt hden (by rw [h]; push_cast; linarith)
  omega

theorem roundQuotient_mul_left {k : Nat} (hk : 0 < k) (num den : Nat) :
    roundQuotient (k * num) (k * den) = roundQuotient num den := by
  have hscale (m n : Nat) : 2 * (k * m) < k * n ↔ 2 * m < n := by
    rw [Nat.mul_left_comm, Nat.mul_lt_mul_left hk]
  have hscale' (m n : Nat) : k * n < 2 * (k * m) ↔ n < 2 * m := by
    rw [Nat.mul_left_comm, Nat.mul_lt_mul_left hk]
  simp only [roundQuotient, Nat.mul_div_mul_left _ _ hk, Nat.mul_mod_mul_left, hscale, hscale']

/-- Equal quotients are rounded alike. -/
theorem roundQuotient_congr (hden : 0 < den) (hden' : 0 < den')
    (h : (num / den : ℚ) = num' / den') : roundQuotient num den = roundQuotient num' den' := by
  have hcross : den' * num = den * num' := by
    rw [div_eq_div_iff (by positivity) (by positivity)] at h
    have hnat : num * den' = num' * den := by exact_mod_cast h
    rw [Nat.mul_comm, hnat, Nat.mul_comm]
  rw [← roundQuotient_mul_left hden', hcross, Nat.mul_comm den' den, roundQuotient_mul_left hden]

/-- A power of two and the next one have only one place for a number between them. -/
theorem zpow_two_unique {x : ℚ} {j k : ℤ} (hj : (2 : ℚ) ^ j ≤ x ∧ x < 2 ^ (j + 1))
    (hk : (2 : ℚ) ^ k ≤ x ∧ x < 2 ^ (k + 1)) : j = k := by
  have hlt : ∀ {j k : ℤ}, (2 : ℚ) ^ j ≤ x → x < 2 ^ (k + 1) → j ≤ k := fun hj hk =>
    Int.lt_add_one_iff.mp ((zpow_lt_zpow_iff_right₀ one_lt_two).mp (hj.trans_lt hk))
  exact le_antisymm (hlt hj.1 hk.2) (hlt hk.1 hj.2)

/-- **Equal quotients give one number.** -/
theorem ofQuotient_congr (negative : Bool) (hden : 0 < den) (hden' : 0 < den')
    (h : (num / den : ℚ) = num' / den') :
    ofQuotient .double negative num den = ofQuotient .double negative num' den' := by
  rcases Nat.eq_zero_or_pos num with rfl | hnum
  · have hzero : num' = 0 := by
      rw [Nat.cast_zero, zero_div, eq_comm, div_eq_zero_iff] at h
      exact_mod_cast h.resolve_right (by positivity)
    rw [hzero]
    rfl
  · have hnum' : 0 < num' := by
      have hpos : (0 : ℚ) < num' / den' := h ▸ by positivity
      exact_mod_cast (div_pos_iff_of_pos_right (by positivity)).mp hpos
    have hlog : floorLog num den = floorLog num' den' :=
      zpow_two_unique (floorLog_spec hnum hden) (h ▸ floorLog_spec hnum' hden')
    have hunit : unitOf num den = unitOf num' den' := by simp only [unitOf, hlog]
    have hunits : unitsOf num den = unitsOf num' den' := by
      unfold unitsOf
      rw [hunit]
      refine roundQuotient_congr (scaled_pos hden _ _) (scaled_pos hden' _ _) ?_
      rw [scaled_eq, scaled_eq, h]
    have hcarried : carried num den = carried num' den' := by
      unfold carried
      rw [hunit, hunits]
    rw [ofQuotient_eq negative hnum, ofQuotient_eq negative hnum', hcarried]

/-- Rounding a quotient to a natural number, a half going up, in natural numbers. -/
theorem floor_half (hden : 0 < den) :
    ⌊(num / den + 1 / 2 : ℚ)⌋₊ = (2 * num + den) / (2 * den) := by
  have hd : (den : ℚ) ≠ 0 := by positivity
  have hhalf : (num / den + 1 / 2 : ℚ) = (2 * num + den : Nat) / (2 * den : Nat) := by
    push_cast
    field_simp
  rw [hhalf, Nat.floor_div_eq_div]

/-! ### Numbers that are some rational number -/

/-- A number without a sign that is a rational number. -/
def Is (x : Binary) (q : ℚ) : Prop := ∃ m e, x = finite false m e ∧ (m * 2 ^ e : ℚ) = q

/-- Zero is zero. -/
theorem is_zero : (zero false).Is 0 := ⟨0, -1074, rfl, by simp⟩

/-- What is rounded to a number of units that is not zero is that number of units. -/
theorem is_ofQuotient (hnum : 0 < num) (hunits : unitsOf num den ≠ 0)
    (hunit : unitOf num den < 971) :
    (ofQuotient .double false num den).Is (unitsOf num den * 2 ^ unitOf num den) := by
  have hsize := carried_size num den
  have hpos : (carried num den).1 ≠ 0 := by
    unfold carried
    split
    · exact Nat.two_pow_pos 52 |>.ne'
    · exact hunits
  have hexponent : ¬971 < (carried num den).2 := by
    unfold carried
    split <;> simp only <;> omega
  refine ⟨_, _, ?_, hsize⟩
  rw [ofQuotient_eq false hnum, if_neg hpos, if_neg hexponent]

/-- A number that is not below `2 ^ (-1022)` has 52 places after its first one. -/
theorem unitOf_eq (hlog : -1022 ≤ floorLog num den) : unitOf num den = floorLog num den - 52 := by
  unfold unitOf
  omega

/-- The unit of a positive number, as a part of it. -/
theorem unit_le (hnum : 0 < num) (hden : 0 < den) (hlog : -1022 ≤ floorLog num den) :
    (2 : ℚ) ^ 52 * 2 ^ unitOf num den ≤ num / den := by
  rw [unitOf_eq hlog, ← zpow_natCast, ← zpow_add₀ two_ne_zero]
  refine le_trans (le_of_eq ?_) (floorLog_spec hnum hden).1
  congr 1
  push_cast
  omega

/-- The logarithm of a quotient lies below a power that is above it. -/
theorem floorLog_lt {k : ℤ} (hnum : 0 < num) (hden : 0 < den) (h : (num / den : ℚ) < 2 ^ k) :
    floorLog num den < k :=
  (zpow_lt_zpow_iff_right₀ one_lt_two).mp ((floorLog_spec hnum hden).1.trans_lt h)

/-- It is at least the exponent of a power that is at most the quotient. -/
theorem le_floorLog {k : ℤ} (hnum : 0 < num) (hden : 0 < den) (h : (2 : ℚ) ^ k ≤ num / den) :
    k ≤ floorLog num den :=
  Int.lt_add_one_iff.mp
    ((zpow_lt_zpow_iff_right₀ one_lt_two).mp (h.trans_lt (floorLog_spec hnum hden).2))

/-- **A natural number below `2 ^ 53` is itself.** -/
theorem is_ofNat {n : Nat} (h : n < 2 ^ 53) : (ofNat .double n).Is n := by
  rcases Nat.eq_zero_or_pos n with rfl | hn
  · exact_mod_cast is_zero
  · have hone : ((n : ℚ) / (1 : Nat)) = n := by simp
    have hlow : 0 ≤ floorLog n 1 := le_floorLog hn one_pos (by
      rw [hone, zpow_zero]
      exact_mod_cast hn)
    have hhigh : floorLog n 1 < 53 := floorLog_lt hn one_pos (by
      rw [hone]
      exact_mod_cast h)
    have hunit := unitOf_eq (show -1022 ≤ floorLog n 1 by omega)
    obtain ⟨k, hk⟩ : ∃ k : Nat, unitOf n 1 = -k := ⟨(-unitOf n 1).toNat, by omega⟩
    have hunits : unitsOf n 1 = n * 2 ^ k := by
      refine roundQuotient_eq (scaled_pos one_pos _ _) ?_
      rw [scaled_eq, hone, hk, zpow_neg, zpow_natCast]
      push_cast
      field_simp
    have his := is_ofQuotient hn (by rw [hunits]; positivity) (show unitOf n 1 < 971 by omega)
    have hvalue : (unitsOf n 1 * 2 ^ unitOf n 1 : ℚ) = n := by
      rw [hunits, hk, zpow_neg, zpow_natCast]
      push_cast
      field_simp
    exact hvalue ▸ his

namespace Is

variable {x y : Binary} {a b : ℚ}

/-- A quotient is what rounding the rational quotient gives. -/
theorem div_eq (hx : x.Is a) (hy : y.Is b) (hb : b ≠ 0) (hden : 0 < den)
    (h : (num / den : ℚ) = a / b) : x.div .double y = ofQuotient .double false num den := by
  obtain ⟨m, e, rfl, rfl⟩ := hx
  obtain ⟨n, f, rfl, rfl⟩ := hy
  have hn : n ≠ 0 := by
    rintro rfl
    simp at hb
  have hfraction : 0 < (fraction n f).1 := Nat.mul_pos (Nat.pos_of_ne_zero hn) (Nat.two_pow_pos _)
  have hdiv : div .double (finite false m e) (finite false n f) =
      ofQuotient .double false ((fraction m e).1 * (fraction n f).2)
        ((fraction m e).2 * (fraction n f).1) := if_neg hn
  rw [hdiv]
  refine ofQuotient_congr false (Nat.mul_pos (fraction_pos m e) hfraction) hden ?_
  rw [h, ← fraction_eq, ← fraction_eq]
  push_cast
  rw [div_div_div_eq]

/-- A sum is what rounding the rational sum gives. -/
theorem add_eq (hx : x.Is a) (hy : y.Is b) (hden : 0 < den) (h : (num / den : ℚ) = a + b) :
    x.add .double y = ofQuotient .double false num den := by
  obtain ⟨m, e, rfl, rfl⟩ := hx
  obtain ⟨n, f, rfl, rfl⟩ := hy
  have hpos := fraction_pos m e
  have hpos' := fraction_pos n f
  have hadd : add .double (finite false m e) (finite false n f) =
      ofQuotient .double false
        ((fraction m e).1 * (fraction n f).2 + (fraction n f).1 * (fraction m e).2)
        ((fraction m e).2 * (fraction n f).2) := by
    show (if ((fraction m e).1 * (fraction n f).2 : Nat) +
        ((fraction n f).1 * (fraction m e).2 : Nat) = (0 : ℤ) then zero false else _) = _
    split
    · rename_i hzero
      have hnum : (fraction m e).1 * (fraction n f).2 + (fraction n f).1 * (fraction m e).2 = 0 := by
        exact_mod_cast hzero
      rw [hnum]
      rfl
    · congr 1
  rw [hadd]
  refine ofQuotient_congr false (Nat.mul_pos hpos hpos') hden ?_
  rw [h, ← fraction_eq, ← fraction_eq]
  push_cast
  rw [div_add_div _ _ (by positivity) (by positivity)]
  ring

/-- Numbers are compared as the rational numbers are. -/
theorem lt_iff (hx : x.Is a) (hy : y.Is b) : x.lt y = true ↔ a < b := by
  obtain ⟨m, e, rfl, rfl⟩ := hx
  obtain ⟨n, f, rfl, rfl⟩ := hy
  have hpos : (0 : ℚ) < (fraction m e).2 := by exact_mod_cast fraction_pos m e
  have hpos' : (0 : ℚ) < (fraction n f).2 := by exact_mod_cast fraction_pos n f
  have hlt : lt (finite false m e) (finite false n f) = true ↔
      (fraction m e).1 * (fraction n f).2 < (fraction n f).1 * (fraction m e).2 := by
    show decide (((fraction m e).1 * (fraction n f).2 : Nat) <
      ((fraction n f).1 * (fraction m e).2 : Int)) = true ↔ _
    rw [decide_eq_true_eq]
    exact Int.ofNat_lt
  rw [hlt, ← fraction_eq, ← fraction_eq, div_lt_div_iff₀ hpos hpos']
  exact_mod_cast Iff.rfl

theorem le_iff (hx : x.Is a) (hy : y.Is b) : x.le y = true ↔ a ≤ b := by
  have heq : x.eq y = true ↔ ¬a < b ∧ ¬b < a := by
    rw [← hx.lt_iff hy, ← hy.lt_iff hx]
    obtain ⟨m, e, rfl, rfl⟩ := hx
    obtain ⟨n, f, rfl, rfl⟩ := hy
    simp [eq]
  rw [le, Bool.or_eq_true, hx.lt_iff hy, heq]
  constructor
  · rintro (hlt | ⟨-, hge⟩)
    · exact hlt.le
    · exact not_lt.mp hge
  · intro hle
    rcases hle.lt_or_eq with hlt | rfl
    · exact .inl hlt
    · exact .inr ⟨lt_irrefl a, lt_irrefl a⟩

/-- The nearest natural number, a half going up. -/
theorem toNatSaturating_eq (hx : x.Is a) (bound : Nat) :
    x.toNatSaturating bound = min bound ⌊a + 1 / 2⌋₊ := by
  obtain ⟨m, e, rfl, rfl⟩ := hx
  rw [← fraction_eq, floor_half (fraction_pos m e)]
  rfl

end Is

/-! ### Rounding twice -/

/-- The half above a natural number is a whole number of units, if the unit is below one. -/
theorem half_eq_units {unit : ℤ} (hunit : unit < 0) (n : Nat) :
    ∃ count : Nat, (count * 2 ^ unit : ℚ) = n + 1 / 2 := by
  obtain ⟨k, rfl⟩ : ∃ k : Nat, unit = -(k + 1 : Nat) := ⟨(-unit - 1).toNat, by omega⟩
  refine ⟨(2 * n + 1) * 2 ^ k, ?_⟩
  rw [zpow_neg, zpow_natCast]
  push_cast
  field_simp
  ring

/-- Rounding does not lead below a half. -/
theorem half_le_units {n : Nat} (hden : 0 < den) (hunit : unitOf num den < 0)
    (h : (n + 1 / 2 : ℚ) ≤ num / den) :
    (n + 1 / 2 : ℚ) ≤ unitsOf num den * 2 ^ unitOf num den := by
  obtain ⟨count, hcount⟩ := half_eq_units hunit n
  have hpos : (0 : ℚ) < 2 ^ unitOf num den := by positivity
  have hle : count ≤ unitsOf num den := by
    refine le_roundQuotient (scaled_pos hden _ _) ?_
    rw [scaled_eq, le_div_iff₀ hpos, hcount]
    exact h
  rw [← hcount]
  exact mul_le_mul_of_nonneg_right (by exact_mod_cast hle) hpos.le

/-- **Nor does it lead up to a half**, if the number is below `2 ^ 52`: it is then further below the half
than half a unit. -/
theorem units_lt_half {n : Nat} (hnum : 0 < num) (hden : 0 < den) (hsmall : num < 2 ^ 52)
    (hlog : -1022 ≤ floorLog num den) (hunit : unitOf num den < 0)
    (h : (num / den : ℚ) < n + 1 / 2) :
    (unitsOf num den * 2 ^ unitOf num den : ℚ) < n + 1 / 2 := by
  obtain ⟨count, hcount⟩ := half_eq_units hunit n
  have hd : (0 : ℚ) < den := by exact_mod_cast hden
  have hpos : (0 : ℚ) < 2 ^ unitOf num den := by positivity
  -- what the denominator can tell apart
  have hgap : (num / den + 1 / (2 * den) : ℚ) ≤ n + 1 / 2 := by
    rw [div_lt_iff₀ hd] at h
    have hnat : 2 * num + 1 ≤ (2 * n + 1) * den := by
      have hlt : (2 * num : ℚ) < (2 * n + 1) * den := by linarith
      exact_mod_cast hlt
    have hcast : (2 * num + 1 : ℚ) ≤ (2 * n + 1) * den := by exact_mod_cast hnat
    rw [← sub_nonneg]
    have hdiff : (n + 1 / 2 - (num / den + 1 / (2 * den)) : ℚ) =
        ((2 * n + 1) * den - (2 * num + 1)) / (2 * den) := by
      field_simp
    rw [hdiff]
    exact div_nonneg (by linarith) (by linarith)
  -- a unit is smaller than that
  have hless : (2 : ℚ) ^ unitOf num den < 1 / den := by
    have hle := unit_le hnum hden hlog
    have hbound : (num : ℚ) / den < 2 ^ 52 / den :=
      div_lt_div_of_pos_right (by exact_mod_cast hsmall) hd
    have hlt : (2 : ℚ) ^ 52 * 2 ^ unitOf num den < 2 ^ 52 * (1 / den) := by
      rw [mul_one_div]
      exact hle.trans_lt hbound
    exact lt_of_mul_lt_mul_left hlt (by positivity)
  have hlt : unitsOf num den < count := by
    refine roundQuotient_lt (scaled_pos hden _ _) ?_
    rw [scaled_eq, div_add' _ _ _ hpos.ne', div_lt_iff₀ hpos, hcount]
    have hhalf : (1 : ℚ) / (2 * den) = 1 / den / 2 := by
      rw [div_div, mul_comm]
    linarith
  rw [← hcount]
  exact mul_lt_mul_of_pos_right (by exact_mod_cast hlt) hpos

/-- **Rounding a quotient below `2 ^ 52` to 64 bits and then to a natural number is rounding it once.** -/
theorem is_ofQuotient_near (hsmall : num < 2 ^ 52) (hden : 0 < den) (hlarge : den < 2 ^ 53) :
    ∃ q : ℚ, (ofQuotient .double false num den).Is q ∧
      ⌊q + 1 / 2⌋₊ = ⌊(num / den + 1 / 2 : ℚ)⌋₊ := by
  have hd : (0 : ℚ) < den := by exact_mod_cast hden
  rcases Nat.eq_zero_or_pos num with rfl | hnum
  · exact ⟨0, is_zero, by simp⟩
  · have hone : (1 : ℚ) ≤ num := by exact_mod_cast hnum
    have hone' : (1 : ℚ) ≤ den := by exact_mod_cast hden
    have hlow : -53 ≤ floorLog num den := le_floorLog hnum hden (by
      rw [le_div_iff₀ hd, show (-53 : ℤ) = -(53 : Nat) from rfl, zpow_neg, zpow_natCast,
        inv_mul_le_iff₀ (by positivity)]
      have hcast : (den : ℚ) < 2 ^ 53 := by exact_mod_cast hlarge
      nlinarith)
    have hhigh : floorLog num den < 52 := floorLog_lt hnum hden (by
      rw [div_lt_iff₀ hd, show ((2 : ℚ) ^ (52 : ℤ)) = 2 ^ 52 from rfl]
      have hcast : (num : ℚ) < 2 ^ 52 := by exact_mod_cast hsmall
      nlinarith)
    have hlog : -1022 ≤ floorLog num den := by omega
    have hunit := unitOf_eq hlog
    have hbelow : unitOf num den < 0 := by omega
    have hpos : (0 : ℚ) < 2 ^ unitOf num den := by positivity
    have hmany : 2 ^ 52 ≤ unitsOf num den := by
      refine le_roundQuotient (scaled_pos hden _ _) ?_
      rw [scaled_eq, le_div_iff₀ hpos]
      exact_mod_cast unit_le hnum hden hlog
    refine ⟨_, is_ofQuotient hnum (by omega) (by omega), ?_⟩
    have hfloor := Nat.floor_le (show (0 : ℚ) ≤ num / den + 1 / 2 by positivity)
    have hnext := Nat.lt_floor_add_one (num / den + 1 / 2 : ℚ)
    generalize ⌊(num / den + 1 / 2 : ℚ)⌋₊ = n at hfloor hnext
    rw [Nat.floor_eq_iff (by positivity)]
    constructor
    · cases n with
      | zero => simpa using by positivity
      | succ n =>
        have hhalf := half_le_units (n := n) hden hbelow (by push_cast at hfloor; linarith)
        push_cast
        linarith
    · have hhalf := units_lt_half (n := n) hnum hden hsmall hlog hbelow (by linarith)
      linarith

end NodeTelemetry.Binary
