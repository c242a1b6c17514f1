import Mathlib.Tactic.Linarith
import Mathlib.Tactic.Positivity
import Mathlib.Tactic.FieldSimp
import Mathlib.Tactic.NormNum
import Mathlib.Tactic.Ring
import Mathlib.Algebra.Order.Field.Power
import Mathlib.Data.Rat.Cast.Order
import NodeTelemetry.Binary.Basic

/-!
# How far rounding goes

Every operation computes a quotient of natural numbers and rounds it once. Here the quotient is told
as a rational number, and what rounding does to it is bounded: a number that is not tiny grows by at
most one part in `2 ^ 53` (`size_ofQuotient_le`), and nothing becomes infinite that lies below the
middle between the greatest number and the next power of two (`isFinite_ofQuotient`).
-/

namespace NodeTelemetry.Binary

/-! ### Quotients as rational numbers -/

/-- A power as the quotient that stands for it. -/
theorem zpow_eq (b : Nat) (k : Int) :
    (b : ℚ) ^ k = (b ^ k.toNat : Nat) / (b ^ (-k).toNat : Nat) := by
  rcases le_total 0 k with h | h
  · rw [Int.toNat_of_nonpos (by omega : -k ≤ 0)]
    lift k to Nat using h
    simp
  · rw [Int.toNat_of_nonpos h]
    obtain ⟨n, rfl⟩ : ∃ n : Nat, k = -n := ⟨k.natAbs, by omega⟩
    simp

theorem zpow_two_eq (e : Int) : (2 : ℚ) ^ e = (2 ^ e.toNat : Nat) / (2 ^ (-e).toNat : Nat) :=
  zpow_eq 2 e

/-- Whether a power is at most a quotient, asked in natural numbers. -/
theorem zpow_le_quotient {b : Nat} (hb : 0 < b) {num den : Nat} (hden : 0 < den) (k : Int) :
    den * b ^ k.toNat ≤ num * b ^ (-k).toNat ↔ (b : ℚ) ^ k ≤ num / den := by
  have hd : (0 : ℚ) < den := Nat.cast_pos.mpr hden
  have hpow : (0 : ℚ) < (b ^ (-k).toNat : Nat) := Nat.cast_pos.mpr (Nat.pow_pos hb)
  rw [zpow_eq b, div_le_div_iff₀ hpow hd, ← Nat.cast_mul, ← Nat.cast_mul, Nat.cast_le,
    Nat.mul_comm den]

/-- The quotient of a finite number is its size. -/
theorem fraction_eq (m : Nat) (e : Int) :
    ((fraction m e).1 : ℚ) / (fraction m e).2 = m * 2 ^ e := by
  rw [zpow_two_eq]
  show ((m * 2 ^ e.toNat : Nat) : ℚ) / (2 ^ (-e).toNat : Nat) = _
  push_cast
  ring

theorem fraction_pos (m : Nat) (e : Int) : 0 < (fraction m e).2 := Nat.two_pow_pos _

/-- A quotient in units of a power of two. -/
theorem scaled_eq (num den : Nat) (e : Int) :
    ((scaled num den e).1 : ℚ) / (scaled num den e).2 = num / den / 2 ^ e := by
  rw [zpow_two_eq]
  show ((num * 2 ^ (-e).toNat : Nat) : ℚ) / (den * 2 ^ e.toNat : Nat) = _
  push_cast
  field_simp

theorem scaled_pos {den : Nat} (h : 0 < den) (num : Nat) (e : Int) : 0 < (scaled num den e).2 :=
  Nat.mul_pos h (Nat.two_pow_pos _)

/-- The nearest natural number is at most a half above. -/
theorem roundQuotient_le {num den : Nat} (h : 0 < den) :
    (roundQuotient num den : ℚ) ≤ num / den + 1 / 2 := by
  have hdiv := Nat.div_add_mod num den
  have hmod := Nat.mod_lt num h
  have hnat : 2 * (den * roundQuotient num den) ≤ 2 * num + den := by
    unfold roundQuotient
    dsimp only
    split
    · omega
    · have hsucc : den * (num / den + 1) = den * (num / den) + den := Nat.mul_succ _ _
      split
      · omega
      · split
        · omega
        · omega
  have hden : (0 : ℚ) < den := Nat.cast_pos.mpr h
  rw [div_add' _ _ _ hden.ne', le_div_iff₀ hden]
  have hcast : (2 : ℚ) * (den * roundQuotient num den) ≤ 2 * num + den := by exact_mod_cast hnat
  linarith

/-- The binary logarithm of a quotient. -/
theorem floorLog_spec {num den : Nat} (hnum : 0 < num) (hden : 0 < den) :
    (2 : ℚ) ^ floorLog num den ≤ num / den ∧ (num / den : ℚ) < 2 ^ (floorLog num den + 1) := by
  have hd : (0 : ℚ) < den := Nat.cast_pos.mpr hden
  have hnumlog : (2 : ℚ) ^ (num.log2 : Int) ≤ num ∧ (num : ℚ) < 2 ^ ((num.log2 : Int) + 1) := by
    constructor
    · exact_mod_cast Nat.log2_self_le hnum.ne'
    · exact_mod_cast Nat.lt_log2_self
  have hdenlog : (2 : ℚ) ^ (den.log2 : Int) ≤ den ∧ (den : ℚ) < 2 ^ ((den.log2 : Int) + 1) := by
    constructor
    · exact_mod_cast Nat.log2_self_le hden.ne'
    · exact_mod_cast Nat.lt_log2_self
  unfold floorLog
  generalize hk : (num.log2 : Int) - den.log2 = k
  have hupper : (num / den : ℚ) < 2 ^ (k + 1) := by
    rw [div_lt_iff₀ hd]
    calc (num : ℚ) < 2 ^ ((num.log2 : Int) + 1) := hnumlog.2
      _ = 2 ^ (k + 1) * 2 ^ (den.log2 : Int) := by
        rw [← zpow_add₀ two_ne_zero]
        congr 1
        omega
      _ ≤ 2 ^ (k + 1) * den := by gcongr; exact hdenlog.1
  have hlower : (2 : ℚ) ^ (k - 1) ≤ num / den := by
    rw [le_div_iff₀ hd]
    calc (2 : ℚ) ^ (k - 1) * den ≤ 2 ^ (k - 1) * 2 ^ ((den.log2 : Int) + 1) := by
          gcongr; exact hdenlog.2.le
      _ = 2 ^ (num.log2 : Int) := by
        rw [← zpow_add₀ two_ne_zero]
        congr 1
        omega
      _ ≤ num := hnumlog.1
  have hiff : den * Nat.pow 2 k.toNat ≤ num * Nat.pow 2 (-k).toNat ↔ (2 : ℚ) ^ k ≤ num / den :=
    zpow_le_quotient two_pos hden k
  dsimp only
  by_cases h : den * Nat.pow 2 k.toNat ≤ num * Nat.pow 2 (-k).toNat
  · rw [if_pos h]
    exact ⟨hiff.mp h, hupper⟩
  · rw [if_neg h, Int.sub_add_cancel]
    exact ⟨hlower, not_le.mp fun hle => h (hiff.mpr hle)⟩

/-! ### Rounding to 64 bits -/

/-- The power of two in whose units a quotient is rounded. -/
def unitOf (num den : Nat) : Int := max (-1074) (floorLog num den - 52)

/-- A quotient rounded to a whole number of its units. -/
def unitsOf (num den : Nat) : Nat :=
  roundQuotient (scaled num den (unitOf num den)).1 (scaled num den (unitOf num den)).2

variable {num den : Nat}

/-- Rounding adds at most half a unit. -/
theorem unitsOf_le (num : Nat) (hden : 0 < den) :
    (unitsOf num den : ℚ) ≤ num / den / 2 ^ unitOf num den + 1 / 2 := by
  rw [← scaled_eq]
  exact roundQuotient_le (scaled_pos hden _ _)

/-- A quotient has less than `2 ^ 53` of its units. -/
theorem quotient_lt (hnum : 0 < num) (hden : 0 < den) :
    (num / den / 2 ^ unitOf num den : ℚ) < 2 ^ 53 := by
  rw [div_lt_iff₀ (by positivity), ← zpow_natCast, ← zpow_add₀ two_ne_zero]
  refine lt_of_lt_of_le (floorLog_spec hnum hden).2 (zpow_le_zpow_right₀ one_le_two ?_)
  unfold unitOf
  omega

theorem unitsOf_le_pow (hnum : 0 < num) (hden : 0 < den) : unitsOf num den ≤ 2 ^ 53 := by
  have hunits := unitsOf_le num hden
  have hquotient := quotient_lt hnum hden
  have hlt : (unitsOf num den : ℚ) < (2 ^ 53 + 1 : Nat) := by
    push_cast
    linarith
  exact Nat.lt_succ_iff.mp (Nat.cast_lt.mp hlt)

/-- The units and their power of two, one more of it when the units carry. -/
def carried (num den : Nat) : Nat × Int :=
  if unitsOf num den = 2 ^ 53 then (2 ^ 52, unitOf num den + 1)
  else (unitsOf num den, unitOf num den)

theorem ofQuotient_eq (negative : Bool) (hnum : 0 < num) :
    ofQuotient .double negative num den =
      if (carried num den).1 = 0 then zero negative
      else if 971 < (carried num den).2 then infinite negative
      else finite negative (carried num den).1 (carried num den).2 := by
  unfold ofQuotient
  exact if_neg hnum.ne'

/-- Units that carry are as many as the next power of two. -/
theorem carried_size (num den : Nat) :
    ((carried num den).1 * 2 ^ (carried num den).2 : ℚ) = unitsOf num den * 2 ^ unitOf num den := by
  unfold carried
  split
  · rename_i hcarry
    rw [hcarry]
    show ((2 ^ 52 : Nat) : ℚ) * 2 ^ (unitOf num den + 1) = (2 ^ 53 : Nat) * 2 ^ unitOf num den
    rw [zpow_add₀ two_ne_zero]
    push_cast
    ring
  · rfl

theorem carried_bounds (hnum : 0 < num) (hden : 0 < den) :
    (carried num den).1 < 2 ^ 53 ∧ -1074 ≤ (carried num den).2 := by
  have hle := unitsOf_le_pow hnum hden
  have hleast : -1074 ≤ unitOf num den := le_max_left _ _
  unfold carried
  split
  · exact ⟨by norm_num, by dsimp only; omega⟩
  · rename_i hcarry
    exact ⟨lt_of_le_of_ne hle hcarry, hleast⟩

/-- A number that 64 bits can hold. -/
def Fits : Binary → Prop
  | finite _ m e => m < 2 ^ 53 ∧ -1074 ≤ e ∧ e ≤ 971
  | infinite _ | nan => True

theorem fits_zero (negative : Bool) : (zero negative).Fits := ⟨by decide, by decide, by decide⟩

/-- What is rounded fits. -/
theorem fits_ofQuotient (negative : Bool) (num : Nat) (hden : 0 < den) :
    (ofQuotient .double negative num den).Fits := by
  rcases Nat.eq_zero_or_pos num with rfl | hnum
  · exact fits_zero negative
  · obtain ⟨hlt, hleast⟩ := carried_bounds hnum hden
    rw [ofQuotient_eq negative hnum]
    split
    · exact fits_zero negative
    · split
      · trivial
      · exact ⟨hlt, hleast, by omega⟩

/-- The greatest size that is not rounded to an infinity. -/
def overflow : ℚ := (2 ^ 53 - 1 / 2) * 2 ^ (971 : Int)

/-- It lies between two powers of ten. -/
theorem overflow_between : (10 : ℚ) ^ (308 : Int) < overflow ∧ overflow < 10 ^ (309 : Int) := by
  have hnat : 10 ^ 308 < (2 ^ 54 - 1) * 2 ^ 970 ∧ (2 ^ 54 - 1) * 2 ^ 970 < 10 ^ 309 := by
    decide +kernel
  have heq : overflow = ((2 ^ 54 - 1) * 2 ^ 970 : Nat) := by
    rw [Nat.cast_mul, Nat.cast_pow, ← zpow_natCast]
    unfold overflow
    rw [show (971 : Int) = 1 + (970 : Nat) by norm_num, zpow_add₀ two_ne_zero, ← mul_assoc]
    congr 1
    norm_num
  have hten : ∀ k : Nat, (10 : ℚ) ^ (k : Int) = (10 ^ k : Nat) := by
    intro k
    rw [Nat.cast_pow, zpow_natCast]
    rfl
  rw [heq]
  refine ⟨?_, ?_⟩
  · exact (hten 308).trans_lt (Nat.cast_lt.mpr hnat.1)
  · exact (Nat.cast_lt.mpr hnat.2).trans_eq (hten 309).symm

/-- **Below the middle between the greatest number and the next power of two nothing becomes
infinite.** -/
theorem isFinite_ofQuotient (negative : Bool) (hden : 0 < den) (h : (num / den : ℚ) < overflow) :
    (ofQuotient .double negative num den).isFinite := by
  rcases Nat.eq_zero_or_pos num with rfl | hnum
  · rfl
  · have hlog : floorLog num den ≤ 1023 := by
      by_contra hlarge
      have hpow : (2 : ℚ) ^ (1024 : Int) ≤ 2 ^ floorLog num den :=
        zpow_le_zpow_right₀ one_le_two (by omega)
      have hle := hpow.trans (floorLog_spec hnum hden).1
      have hover : overflow < (2 : ℚ) ^ (1024 : Int) := by
        rw [show (1024 : Int) = 53 + 971 by norm_num, zpow_add₀ two_ne_zero]
        exact mul_lt_mul_of_pos_right (by norm_num) (by positivity)
      linarith
    have hunit : unitOf num den ≤ 971 := by
      unfold unitOf
      omega
    have hcarried : (carried num den).2 ≤ 971 := by
      unfold carried
      split
      · rename_i hcarry
        show unitOf num den + 1 ≤ 971
        by_contra hlarge
        have heq : unitOf num den = 971 := by omega
        have hunits := unitsOf_le num hden
        rw [hcarry, heq] at hunits
        have hquotient : (num / den / 2 ^ (971 : Int) : ℚ) < 2 ^ 53 - 1 / 2 := by
          rw [div_lt_iff₀ (by positivity)]
          exact h
        generalize (num / den / 2 ^ (971 : Int) : ℚ) = quotient at hunits hquotient
        push_cast at hunits
        linarith
      · exact hunit
    rw [ofQuotient_eq negative hnum, if_neg (not_lt.mpr hcarried)]
    split
    · rfl
    · rfl

/-- The size of a number; what is not finite has none. -/
def size : Binary → ℚ
  | finite _ m e => m * 2 ^ e
  | infinite _ | nan => 0

/-- **Rounding lets a number of at least one grow by at most one part in `2 ^ 53`.** -/
theorem size_ofQuotient_le (negative : Bool) (hden : 0 < den) (h : (1 : ℚ) ≤ num / den) :
    (ofQuotient .double negative num den).size ≤ num / den * (1 + 1 / 2 ^ 53) := by
  have hd : (0 : ℚ) < den := Nat.cast_pos.mpr hden
  have hnum : 0 < num := by
    rcases Nat.eq_zero_or_pos num with rfl | hnum
    · norm_num at h
    · exact hnum
  obtain ⟨hlow, hhigh⟩ := floorLog_spec hnum hden
  have hlog : 0 ≤ floorLog num den := by
    by_contra hneg
    have hpow : (2 : ℚ) ^ (floorLog num den + 1) ≤ 2 ^ (0 : Int) :=
      zpow_le_zpow_right₀ one_le_two (by omega)
    rw [zpow_zero] at hpow
    linarith
  have hunit : unitOf num den = floorLog num den - 52 := by
    unfold unitOf
    omega
  -- the whole units are at most half a unit above, and there are at least `2 ^ 52` of them
  have hround : (unitsOf num den : ℚ) * 2 ^ unitOf num den ≤ num / den * (1 + 1 / 2 ^ 53) := by
    have hpos : (0 : ℚ) < 2 ^ unitOf num den := by positivity
    have hunits := mul_le_mul_of_nonneg_right (unitsOf_le num hden) hpos.le
    rw [add_mul, div_mul_cancel₀ _ hpos.ne'] at hunits
    have hmany : (2 : ℚ) ^ 52 * 2 ^ unitOf num den ≤ num / den := by
      rw [← zpow_natCast, ← zpow_add₀ two_ne_zero, hunit]
      refine le_trans (le_of_eq ?_) hlow
      congr 1
      push_cast
      omega
    linarith
  have hnonneg : (0 : ℚ) ≤ num / den * (1 + 1 / 2 ^ 53) := by positivity
  rw [← carried_size] at hround
  rw [ofQuotient_eq negative hnum]
  split
  · show ((0 : Nat) : ℚ) * _ ≤ _
    rw [Nat.cast_zero, zero_mul]
    exact hnonneg
  · split
    · exact hnonneg
    · exact hround

/-! ### Operations -/

theorem fits_ofNat (n : Nat) : (ofNat .double n).Fits := fits_ofQuotient false n Nat.one_pos

theorem Fits.neg {x : Binary} (h : x.Fits) : x.neg.Fits := by
  cases x with
  | finite s m e => exact h
  | infinite s => exact h
  | nan => exact h

/-- What comes of an infinity fits. -/
theorem fits_infinite (p : Prop) [Decidable p] (negative : Bool) :
    (if p then nan else infinite negative).Fits := by
  split
  · exact trivial
  · exact trivial

theorem fits_mul (x y : Binary) : (mul .double x y).Fits := by
  cases x with
  | nan => exact trivial
  | infinite s =>
    cases y with
    | nan | infinite => exact trivial
    | finite t n f => exact fits_infinite (n = 0) _
  | finite s m e =>
    cases y with
    | nan => exact trivial
    | infinite t => exact fits_infinite (m = 0) _
    | finite t n f => exact fits_ofQuotient _ _ (Nat.mul_pos (fraction_pos m e) (fraction_pos n f))

theorem fits_div (x y : Binary) : (div .double x y).Fits := by
  cases x with
  | nan => exact trivial
  | infinite s =>
    cases y with
    | nan | infinite | finite => exact trivial
  | finite s m e =>
    cases y with
    | nan => exact trivial
    | infinite t => exact fits_zero _
    | finite t n f =>
      show Fits (if n = 0 then (if m = 0 then nan else infinite (s != t)) else
        ofQuotient .double (s != t) ((fraction m e).1 * (fraction n f).2)
          ((fraction m e).2 * (fraction n f).1))
      by_cases hn : n = 0
      · rw [if_pos hn]
        exact fits_infinite (m = 0) _
      · rw [if_neg hn]
        have hpos : 0 < (fraction n f).1 := Nat.mul_pos (Nat.pos_of_ne_zero hn) (Nat.two_pow_pos _)
        exact fits_ofQuotient _ _ (Nat.mul_pos (fraction_pos m e) hpos)

/-- A natural number below the greatest ones stays finite and grows by little. -/
theorem ofNat_bounds {n : Nat} (h : (n : ℚ) < overflow) :
    (ofNat .double n).isFinite ∧ (ofNat .double n).size ≤ n * (1 + 1 / 2 ^ 53) := by
  have hquotient : (n : ℚ) = (n : Nat) / (1 : Nat) := by rw [Nat.cast_one, div_one]
  rcases Nat.eq_zero_or_pos n with rfl | hn
  · refine ⟨rfl, ?_⟩
    show ((0 : Nat) : ℚ) * _ ≤ _
    rw [Nat.cast_zero, zero_mul, zero_mul]
  · have hone : (1 : ℚ) ≤ n := Nat.one_le_cast.mpr hn
    rw [hquotient] at h hone ⊢
    exact ⟨isFinite_ofQuotient false Nat.one_pos h, size_ofQuotient_le false Nat.one_pos hone⟩

/-- A product is finite if the product of the sizes is below the greatest ones. -/
theorem isFinite_mul {x y : Binary} (hx : x.isFinite) (hy : y.isFinite)
    (h : x.size * y.size < overflow) : (mul .double x y).isFinite := by
  cases x with
  | nan | infinite => cases hx
  | finite s m e =>
    cases y with
    | nan | infinite => cases hy
    | finite t n f =>
      show (ofQuotient .double (s != t) ((fraction m e).1 * (fraction n f).1)
        ((fraction m e).2 * (fraction n f).2)).isFinite
      refine isFinite_ofQuotient _ (Nat.mul_pos (fraction_pos m e) (fraction_pos n f)) ?_
      rw [Nat.cast_mul, Nat.cast_mul, mul_div_mul_comm, fraction_eq, fraction_eq]
      exact h

theorem size_nonneg (x : Binary) : 0 ≤ x.size := by
  cases x with
  | finite s m e => exact mul_nonneg (Nat.cast_nonneg m) (by positivity)
  | infinite | nan => exact le_refl 0

end NodeTelemetry.Binary
