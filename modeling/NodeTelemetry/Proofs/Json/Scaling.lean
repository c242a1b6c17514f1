import NodeTelemetry.Json.Writer
import NodeTelemetry.Json.Scan
import NodeTelemetry.Proofs.Binary.Shortest
import NodeTelemetry.Proofs.Text.Digits

/-!
# Which decimals the reader can scale

The reader of numbers rounds a significand to a binary number, rounds a power of ten, rounds the
product of both, and refuses the text if this is infinite. So even the digits of a finite number
might be refused. They are not (`scalable_digits`).

The shortest digits write a decimal that is at most half a unit above the number
(`Binary.Shortest.digits_near`). Two roundings and the one of the product let a size grow by less
than three parts in `2 ^ 53`, which is not enough to become infinite below `reachable`
(`scalable_of_le`). Only the two greatest numbers lie above this bound; for them the reader is run
(`greatest_scalable`).
-/

namespace NodeTelemetry.Json

open Text

namespace Reader

/-! ### Bounds -/

/-- A negative power of ten makes nothing too large. -/
theorem scale_isSome_of_neg (x : Binary) {exponent : Int} (h : exponent < 0) (fuel : Nat) :
    (scale x exponent fuel).isSome := by
  induction fuel generalizing x exponent with
  | zero => rfl
  | succ fuel ih =>
    unfold scale
    split
    · rw [if_neg (not_le.mpr h)]
      rfl
    · split
      · rfl
      · rw [if_neg (not_le.mpr h)]
        exact ih _ (by omega)

/-- A size from which two roundings reach no infinity. -/
def reachable : ℚ := (2 ^ 53 - 5 / 2) * 2 ^ (971 : Int)

theorem reachable_lt :
    reachable < Binary.overflow ∧ reachable * (1 + 1 / 2 ^ 53) ^ 2 < Binary.overflow := by
  have hpos : (0 : ℚ) < 2 ^ (971 : Int) := by positivity
  unfold reachable Binary.overflow
  refine ⟨mul_lt_mul_of_pos_right (by norm_num) hpos, ?_⟩
  rw [mul_right_comm]
  exact mul_lt_mul_of_pos_right (by norm_num) hpos

/-- The reader finds a number for a significand and an exponent. -/
def Scalable (n : Nat) (exponent : Int) : Prop :=
  ∀ negative, (ofParts negative n exponent).isSome

theorem scalable_of_neg (n : Nat) {exponent : Int} (h : exponent < 0) : Scalable n exponent := by
  intro negative
  rw [ofParts, Option.isSome_map]
  exact scale_isSome_of_neg _ h 4

/-- What is at most reachable is found: the significand and the power are rounded, and their product
once more. -/
theorem scalable_of_le {n : Nat} {exponent : Int} (h : (n * 10 ^ exponent : ℚ) ≤ reachable) :
    Scalable n exponent := by
  intro negative
  rcases lt_or_ge exponent 0 with hneg | hnonneg
  · exact scalable_of_neg n hneg negative
  rw [ofParts, Option.isSome_map]
  obtain ⟨hbelow, hgrown⟩ := reachable_lt
  obtain ⟨hten, htop⟩ := Binary.overflow_between
  have hpow : (1 : ℚ) ≤ 10 ^ exponent := one_le_zpow₀ (by norm_num) hnonneg
  unfold scale
  by_cases hsmall : exponent ≤ 308
  · rw [if_pos (by omega), if_pos hnonneg]
    have hcast : ((10 ^ exponent.toNat : Nat) : ℚ) = 10 ^ exponent := by
      lift exponent to Nat using hnonneg
      simp
    have hn : (n : ℚ) < Binary.overflow :=
      (le_mul_of_one_le_right (Nat.cast_nonneg n) hpow).trans_lt (h.trans_lt hbelow)
    have hpower : ((10 ^ exponent.toNat : Nat) : ℚ) < Binary.overflow := by
      rw [hcast]
      exact (zpow_le_zpow_right₀ (by norm_num) hsmall).trans_lt hten
    obtain ⟨hfinite, hsize⟩ := Binary.ofNat_bounds hn
    obtain ⟨hfinitePower, hsizePower⟩ := Binary.ofNat_bounds hpower
    rw [hcast] at hsizePower
    have hproduct :
        (Binary.ofNat .double n).size * (powerOfTen exponent.toNat).size < Binary.overflow := by
      calc (Binary.ofNat .double n).size * (powerOfTen exponent.toNat).size
          ≤ (n * (1 + 1 / 2 ^ 53)) * (10 ^ exponent * (1 + 1 / 2 ^ 53)) :=
            mul_le_mul hsize hsizePower (Binary.size_nonneg _) (by positivity)
        _ = n * 10 ^ exponent * (1 + 1 / 2 ^ 53) ^ 2 := by ring
        _ ≤ reachable * (1 + 1 / 2 ^ 53) ^ 2 := mul_le_mul_of_nonneg_right h (by positivity)
        _ < Binary.overflow := hgrown
    have hmul : ((Binary.ofNat .double n).mul .double (powerOfTen exponent.toNat)).isFinite :=
      Binary.isFinite_mul hfinite hfinitePower hproduct
    dsimp only
    rw [if_pos hmul]
    rfl
  · rw [if_neg (by omega)]
    rcases Nat.eq_zero_or_pos n with rfl | hn
    · rfl
    · have hone : (1 : ℚ) ≤ n := Nat.one_le_cast.mpr hn
      have hlarge : (10 : ℚ) ^ (309 : Int) ≤ n * 10 ^ exponent :=
        (zpow_le_zpow_right₀ (by norm_num) (by omega)).trans
          (le_mul_of_one_le_left (by positivity) hone)
      exact absurd (hlarge.trans h) (not_le.mpr (hbelow.trans htop))

/-- A whole word is found as it is. -/
theorem scalable_word {n : Nat} (h : n ≤ maxWord) : Scalable n 0 := by
  have hword : (n : ℚ) ≤ 2 ^ (64 : Int) := by
    exact_mod_cast h.trans (by decide : maxWord ≤ 2 ^ 64)
  refine scalable_of_le ?_
  calc (n : ℚ) * 10 ^ (0 : Int) = n := by rw [zpow_zero, mul_one]
    _ ≤ 2 ^ (64 : Int) := hword
    _ ≤ 2 ^ (971 : Int) := zpow_le_zpow_right₀ one_le_two (by norm_num)
    _ ≤ reachable := le_mul_of_one_le_left (by positivity) (by norm_num)

/-- An exponent is held within 32 bits, which leaves those alone that could be too large. -/
theorem Scalable.clamp {n : Nat} {exponent : Int} (h : Scalable n exponent)
    (hsmall : exponent ≤ 308) : Scalable n (clamp exponent) := by
  rcases lt_or_ge exponent 0 with hneg | hnonneg
  · refine scalable_of_neg n ?_
    unfold Reader.clamp maxExponent
    omega
  · have heq : Reader.clamp exponent = exponent := by
      unfold Reader.clamp maxExponent
      omega
    rwa [heq]

/-! ### Shortest digits -/

/-- The two greatest numbers lie beyond what is reachable by the bound, and are reached. -/
theorem greatest_scalable :
    Binary.Shortest.digits .double (2 ^ 53 - 1) 971 = ⟨17976931348623157, 292⟩ ∧
    Binary.Shortest.digits .double (2 ^ 53 - 2) 971 = ⟨17976931348623155, 292⟩ ∧
    Scalable 17976931348623157 292 ∧ Scalable 17976931348623155 292 := by
  refine ⟨by decide +kernel, by decide +kernel, ?_, ?_⟩
  · unfold Scalable
    decide +kernel
  · unfold Scalable
    decide +kernel

/-- A positive decimal is at least the power of ten of its first digit. -/
theorem zpow_top_le_value {d : Binary.Decimal} (hpos : 0 < d.digits) :
    (10 : ℚ) ^ ((decimal d.digits).length - 1 + d.exponent : Int) ≤ d.value := by
  have hnat : 10 ^ ((decimal d.digits).length - 1) ≤ d.digits := by
    by_cases hone : (decimal d.digits).length - 1 = 0
    · rw [hone]
      exact hpos
    · refine Nat.le_of_not_lt fun hlt => ?_
      have hle := (Nat.length_toDigits_le_iff (by decide) (Nat.pos_of_ne_zero hone)).mpr hlt
      change (decimal d.digits).length ≤ _ at hle
      omega
  have hlength := List.length_pos_iff.mpr (decimal_ne_nil d.digits)
  have hcast : ((decimal d.digits).length - 1 : Int) = ((decimal d.digits).length - 1 : Nat) := by
    omega
  rw [hcast, zpow_add₀ (by norm_num), zpow_natCast]
  exact mul_le_mul_of_nonneg_right (by exact_mod_cast hnat) (by positivity)

/-- The shortest digits of a positive number can be scaled, and so can their first ones. -/
theorem scalable_digits {m : Nat} {e : Int} (hm : 0 < m)
    (hfits : (Binary.finite false m e).Fits) {n k : Nat}
    (hn : n * 10 ^ k ≤ (Binary.Shortest.digits .double m e).digits)
    (hword : (Binary.Shortest.digits .double m e).digits ≤ maxWord →
      k = 0 ∧ n = (Binary.Shortest.digits .double m e).digits) :
    Scalable n ((Binary.Shortest.digits .double m e).exponent + k) := by
  obtain ⟨hbits, hleast, hgreatest⟩ := id hfits
  have hpos : (0 : ℚ) < 2 ^ e := by positivity
  by_cases hbelow : e < 971 ∨ m < 2 ^ 53 - 2
  · obtain ⟨-, hnear⟩ := Binary.Shortest.digits_near hm hfits
    have hreach : (m * 2 ^ e + 2 ^ e / 2 : ℚ) ≤ reachable := by
      rw [show (m * 2 ^ e + 2 ^ e / 2 : ℚ) = (m + 1 / 2) * 2 ^ e by ring]
      unfold reachable
      rcases hbelow with hless | hless
      · have hm' : (m : ℚ) + 1 ≤ 2 ^ 53 := by exact_mod_cast hbits
        calc (m + 1 / 2 : ℚ) * 2 ^ e ≤ (2 ^ 53 - 5 / 2) * 2 * 2 ^ e :=
              mul_le_mul_of_nonneg_right (by linarith) hpos.le
          _ = (2 ^ 53 - 5 / 2) * 2 ^ (e + 1) := by rw [zpow_add_one₀ two_ne_zero]; ring
          _ ≤ (2 ^ 53 - 5 / 2) * 2 ^ (971 : Int) :=
            mul_le_mul_of_nonneg_left (zpow_le_zpow_right₀ one_le_two (by omega)) (by norm_num)
      · have hm' : (m : ℚ) + 3 ≤ 2 ^ 53 := by
          exact_mod_cast (by omega : m + 3 ≤ 2 ^ 53)
        exact mul_le_mul (by linarith) (zpow_le_zpow_right₀ one_le_two hgreatest) hpos.le
          (by norm_num)
    refine scalable_of_le (le_trans ?_ (hnear.trans hreach))
    unfold Binary.Decimal.value
    rw [zpow_add₀ (by norm_num), mul_left_comm, zpow_natCast, mul_comm]
    refine mul_le_mul_of_nonneg_right ?_ (by positivity)
    exact_mod_cast hn
  · obtain ⟨hlast, hlessLast, hscalable, hscalableLess⟩ := greatest_scalable
    obtain rfl : e = 971 := by omega
    obtain rfl | rfl : m = 2 ^ 53 - 1 ∨ m = 2 ^ 53 - 2 := by omega
    · rw [hlast] at hword ⊢
      obtain ⟨rfl, rfl⟩ := hword (by decide)
      exact hscalable
    · rw [hlessLast] at hword ⊢
      obtain ⟨rfl, rfl⟩ := hword (by decide)
      exact hscalableLess

/-- The shortest digits of a positive number are none of zero, and its first digit stands at a power
of ten that the reader knows. -/
theorem digits_range {m : Nat} {e : Int} (hm : 0 < m) (hfits : (Binary.finite false m e).Fits)
    {d : Binary.Decimal} (hd : d = Binary.Shortest.digits .double m e) :
    0 < d.digits ∧ ((decimal d.digits).length - 1 + d.exponent : Int) ≤ 308 := by
  obtain ⟨hbits, -, hgreatest⟩ := id hfits
  obtain ⟨hlow, hhigh⟩ := hd ▸ Binary.Shortest.digits_near hm hfits
  have hpos : (0 : ℚ) < 2 ^ e := by positivity
  have hone : (1 : ℚ) ≤ m := Nat.one_le_cast.mpr hm
  have hm' : (m : ℚ) + 1 ≤ 2 ^ 53 := by exact_mod_cast hbits
  have hdigits : 0 < d.digits := by
    refine Nat.pos_of_ne_zero fun hzero => ?_
    have hvalue : d.value = 0 := by
      unfold Binary.Decimal.value
      rw [hzero, Nat.cast_zero, zero_mul]
    nlinarith
  have hbelow : d.value ≤ Binary.overflow := by
    calc d.value ≤ (m + 1 / 2) * 2 ^ e := hhigh.trans (le_of_eq (by ring))
      _ ≤ (2 ^ 53 - 1 / 2) * 2 ^ (971 : Int) :=
        mul_le_mul (by linarith) (zpow_le_zpow_right₀ one_le_two hgreatest) hpos.le (by norm_num)
  have hlt := ((zpow_top_le_value hdigits).trans hbelow).trans_lt Binary.overflow_between.2
  rw [zpow_lt_zpow_iff_right₀ (by norm_num)] at hlt
  exact ⟨hdigits, by omega⟩

end Reader

end NodeTelemetry.Json
