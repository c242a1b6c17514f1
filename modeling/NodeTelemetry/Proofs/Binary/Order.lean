import NodeTelemetry.Binary.Layout
import NodeTelemetry.Proofs.Binary.Exact

/-!
# Rounding keeps order

A greater quotient is never rounded to a smaller number. This holds of rounding to natural numbers
(`roundQuotient_mono`) and of rounding to 64 bits (`nearest_mono`): quotients with one unit are rounded
to natural numbers of this unit, and where the units differ there is a power of two between them, which
neither of them crosses. A number that 64 bits can hold is not changed (`nearest_eq`), so what lies on
one side of it stays there. Division by a power of two only moves the exponent (`Is.div_pow`).
-/

namespace NodeTelemetry.Binary

variable {num den num' den' : Nat}

/-! ### Natural numbers -/

theorem roundQuotient_mono_num {n m : Nat} (h : n ≤ m) :
    roundQuotient n den ≤ roundQuotient m den := by
  have hdiv : n / den ≤ m / den := Nat.div_le_div_right h
  have hn := Nat.div_add_mod n den
  have hm := Nat.div_add_mod m den
  rcases hdiv.lt_or_eq with hlt | heq
  · have hup : roundQuotient n den ≤ n / den + 1 := by
      unfold roundQuotient
      dsimp only
      split_ifs <;> omega
    have hlow : m / den ≤ roundQuotient m den := by
      unfold roundQuotient
      dsimp only
      split_ifs <;> omega
    omega
  · -- with one quotient, the greater remainder belongs to the greater number
    rw [heq] at hn
    have hmod : n % den ≤ m % den := by omega
    unfold roundQuotient
    dsimp only
    rw [heq]
    split_ifs <;> omega

/-- **A greater quotient is rounded to no smaller number.** -/
theorem roundQuotient_mono (hden : 0 < den) (hden' : 0 < den')
    (h : (num / den : ℚ) ≤ num' / den') : roundQuotient num den ≤ roundQuotient num' den' := by
  rw [div_le_div_iff₀ (by positivity) (by positivity)] at h
  have hcross : den' * num ≤ den * num' := by
    rw [Nat.mul_comm den' num, Nat.mul_comm den num']
    exact_mod_cast h
  calc roundQuotient num den = roundQuotient (den' * num) (den' * den) :=
        (roundQuotient_mul_left hden' num den).symm
    _ ≤ roundQuotient (den * num') (den' * den) := roundQuotient_mono_num hcross
    _ = roundQuotient (den * num') (den * den') := by rw [Nat.mul_comm den' den]
    _ = roundQuotient num' den' := roundQuotient_mul_left hden num' den'

/-- The nearest natural number is at most a half below. -/
theorem le_roundQuotient_add_half (hden : 0 < den) :
    (num / den : ℚ) ≤ roundQuotient num den + 1 / 2 := by
  have hdiv := Nat.div_add_mod num den
  have hnat : 2 * num ≤ 2 * (den * roundQuotient num den) + den := by
    unfold roundQuotient
    dsimp only
    have hsucc : den * (num / den + 1) = den * (num / den) + den := Nat.mul_succ _ _
    have hmod := Nat.mod_lt num hden
    split_ifs
    all_goals omega
  have hd : (0 : ℚ) < den := by exact_mod_cast hden
  have hcast : (2 : ℚ) * num ≤ 2 * (den * roundQuotient num den) + den := by exact_mod_cast hnat
  rw [div_le_iff₀ hd]
  linarith

/-- The natural number nearest to a rational number that is not negative, a tie going to the even
one. -/
def roundEven (q : ℚ) : Nat := roundQuotient q.num.toNat q.den

theorem cast_num_toNat {q : ℚ} (hq : 0 ≤ q) : ((q.num.toNat : ℚ) / q.den) = q := by
  have hnum : ((q.num.toNat : ℤ) : ℚ) = q.num := by
    rw [Int.toNat_of_nonneg (Rat.num_nonneg.mpr hq)]
  rw [← Int.cast_natCast, hnum, Rat.num_div_den]

/-- Which quotient stands for the rational number does not matter. -/
theorem roundQuotient_eq_roundEven (hden : 0 < den) :
    roundQuotient num den = roundEven (num / den) :=
  roundQuotient_congr hden (Rat.den_pos _) (cast_num_toNat (by positivity)).symm

theorem roundEven_mono {q r : ℚ} (hq : 0 ≤ q) (h : q ≤ r) : roundEven q ≤ roundEven r := by
  refine roundQuotient_mono (Rat.den_pos q) (Rat.den_pos r) ?_
  rwa [cast_num_toNat hq, cast_num_toNat (hq.trans h)]

theorem roundEven_natCast (n : Nat) : roundEven n = n :=
  roundQuotient_eq (Rat.den_pos _) (cast_num_toNat (Nat.cast_nonneg n))

theorem abs_roundEven_sub_le {q : ℚ} (hq : 0 ≤ q) : |(roundEven q : ℚ) - q| ≤ 1 / 2 := by
  have hup : (roundEven q : ℚ) ≤ q.num.toNat / q.den + 1 / 2 := roundQuotient_le (Rat.den_pos q)
  have hlow : (q.num.toNat / q.den : ℚ) ≤ roundEven q + 1 / 2 :=
    le_roundQuotient_add_half (Rat.den_pos q)
  rw [cast_num_toNat hq] at hup hlow
  rw [abs_le]
  constructor
  · linarith
  · linarith

/-! ### Numbers of 64 bits -/

/-- The number that a quotient is rounded to, unless it is too large. -/
def nearest (num den : Nat) : ℚ := unitsOf num den * 2 ^ unitOf num den

theorem nearest_le_pow (hnum : 0 < num) (hden : 0 < den) :
    nearest num den ≤ 2 ^ (unitOf num den + 53) := by
  have hunits : (unitsOf num den : ℚ) ≤ 2 ^ 53 := by exact_mod_cast unitsOf_le_pow hnum hden
  rw [zpow_add₀ two_ne_zero, mul_comm]
  exact mul_le_mul_of_nonneg_right hunits (by positivity)

/-- A number with all its places is at least the power of two that it begins with. -/
theorem pow_le_nearest (hnum : 0 < num) (hden : 0 < den) (hlog : -1022 ≤ floorLog num den) :
    (2 : ℚ) ^ (unitOf num den + 52) ≤ nearest num den := by
  have hpos : (0 : ℚ) < 2 ^ unitOf num den := by positivity
  have hunits : 2 ^ 52 ≤ unitsOf num den := by
    refine le_roundQuotient (scaled_pos hden _ _) ?_
    rw [scaled_eq, le_div_iff₀ hpos]
    exact_mod_cast unit_le hnum hden hlog
  rw [zpow_add₀ two_ne_zero, mul_comm]
  exact mul_le_mul_of_nonneg_right (by exact_mod_cast hunits) hpos.le

/-- **A greater quotient is rounded to no smaller number of 64 bits.** -/
theorem nearest_mono (hnum : 0 < num) (hden : 0 < den) (hden' : 0 < den')
    (h : (num / den : ℚ) ≤ num' / den') : nearest num den ≤ nearest num' den' := by
  have hnum' : 0 < num' := by
    have hpos : (0 : ℚ) < num' / den' := lt_of_lt_of_le (by positivity) h
    exact_mod_cast (div_pos_iff_of_pos_right (by positivity)).mp hpos
  have hlog : floorLog num den ≤ floorLog num' den' :=
    le_floorLog hnum' hden' ((floorLog_spec hnum hden).1.trans h)
  have hunit : unitOf num den ≤ unitOf num' den' := by
    unfold unitOf
    omega
  rcases hunit.lt_or_eq with hlt | heq
  · -- the power of two where the greater unit begins lies between the two numbers
    have hnormal : -1022 ≤ floorLog num' den' := by
      unfold unitOf at hlt
      omega
    calc nearest num den ≤ 2 ^ (unitOf num den + 53) := nearest_le_pow hnum hden
      _ ≤ 2 ^ (unitOf num' den' + 52) := zpow_le_zpow_right₀ one_le_two (by omega)
      _ ≤ nearest num' den' := pow_le_nearest hnum' hden' hnormal
  · have hunits : unitsOf num den ≤ unitsOf num' den' := by
      unfold unitsOf
      rw [heq]
      refine roundQuotient_mono (scaled_pos hden _ _) (scaled_pos hden' _ _) ?_
      rw [scaled_eq, scaled_eq]
      exact div_le_div_of_nonneg_right h (by positivity)
    unfold nearest
    rw [heq]
    exact mul_le_mul_of_nonneg_right (by exact_mod_cast hunits) (by positivity)

/-- **A number that 64 bits can hold is rounded to itself.** -/
theorem nearest_eq {m : Nat} {e : Int} (hm : m < 2 ^ 53) (he : -1074 ≤ e) (hnum : 0 < num)
    (hden : 0 < den) (h : (num / den : ℚ) = m * 2 ^ e) :
    unitOf num den ≤ e ∧ nearest num den = num / den := by
  have hlog : floorLog num den < e + 53 := floorLog_lt hnum hden (by
    rw [h, zpow_add₀ two_ne_zero, mul_comm]
    exact mul_lt_mul_of_pos_left (by exact_mod_cast hm) (by positivity))
  have hunit : unitOf num den ≤ e := by
    unfold unitOf
    omega
  obtain ⟨k, hk⟩ : ∃ k : Nat, e = unitOf num den + k := ⟨(e - unitOf num den).toNat, by omega⟩
  have hpos : (2 : ℚ) ^ unitOf num den ≠ 0 := by positivity
  have hsplit : (m * 2 ^ e : ℚ) = (m * 2 ^ k : Nat) * 2 ^ unitOf num den := by
    rw [hk, zpow_add₀ two_ne_zero, zpow_natCast]
    push_cast
    ring
  have hunits : unitsOf num den = m * 2 ^ k := by
    refine roundQuotient_eq (scaled_pos hden _ _) ?_
    rw [scaled_eq, h, hsplit, mul_div_cancel_right₀ _ hpos]
  refine ⟨hunit, ?_⟩
  unfold nearest
  rw [hunits, h, hsplit]

/-- What is rounded to some units is too large or is its nearest number. -/
theorem infinite_or_is_nearest (hnum : 0 < num) (hunits : unitsOf num den ≠ 0) :
    ofQuotient .double false num den = infinite false ∨
      (ofQuotient .double false num den).Is (nearest num den) := by
  have hpos : (carried num den).1 ≠ 0 := by
    unfold carried
    split
    · exact (Nat.two_pow_pos 52).ne'
    · exact hunits
  rw [ofQuotient_eq false hnum, if_neg hpos]
  split
  · exact .inl rfl
  · exact .inr ⟨_, _, rfl, carried_size num den⟩

/-- What 64 bits can hold is what it is after rounding. -/
theorem is_ofQuotient_of_eq {m : Nat} {e : Int} (hm : m < 2 ^ 53) (he : -1074 ≤ e) (he' : e < 971)
    (hnum : 0 < num) (hden : 0 < den) (h : (num / den : ℚ) = m * 2 ^ e) :
    (ofQuotient .double false num den).Is (num / den) := by
  obtain ⟨hunit, hnearest⟩ := nearest_eq hm he hnum hden h
  have hunits : unitsOf num den ≠ 0 := by
    intro hzero
    have hpos : (0 : ℚ) < num / den := by positivity
    rw [← hnearest, nearest, hzero, Nat.cast_zero, zero_mul] at hpos
    exact lt_irrefl _ hpos
  rw [← hnearest]
  exact is_ofQuotient hnum hunits (hunit.trans_lt he')

/-- A natural number that is a word is rounded to its nearest number. -/
theorem is_ofNat_nearest {n : Nat} (hn : 0 < n) (hword : n < 2 ^ 64) :
    (ofNat .double n).Is (nearest n 1) := by
  have hone : ((n : ℚ) / (1 : Nat)) = n := by simp
  have hlow : 0 ≤ floorLog n 1 := le_floorLog hn one_pos (by
    rw [hone, zpow_zero]
    exact_mod_cast hn)
  have hhigh : floorLog n 1 < 64 := floorLog_lt hn one_pos (by
    rw [hone]
    exact_mod_cast hword)
  refine is_ofQuotient hn ?_ (by unfold unitOf; omega)
  intro hzero
  have hpow := pow_le_nearest hn one_pos (by omega)
  rw [nearest, hzero, Nat.cast_zero, zero_mul] at hpow
  exact absurd hpow (not_le.mpr (by positivity))

theorem nearest_zero : nearest 0 1 = 0 := by
  have hunits : unitsOf 0 1 = 0 := roundQuotient_eq (scaled_pos one_pos _ _) (by
    rw [scaled_eq]
    simp)
  rw [nearest, hunits, Nat.cast_zero, zero_mul]

/-- A natural number with 53 places and zeros behind them is its own nearest number. -/
theorem nearest_natCast {m : Nat} (j : Nat) (hm : m < 2 ^ 53) :
    nearest (m * 2 ^ j) 1 = (m * 2 ^ j : Nat) := by
  rcases Nat.eq_zero_or_pos m with rfl | hpos
  · rw [Nat.zero_mul, nearest_zero, Nat.cast_zero]
  · have hone : ((m * 2 ^ j : Nat) / (1 : Nat) : ℚ) = m * 2 ^ (j : ℤ) := by
      rw [zpow_natCast]
      push_cast
      rw [div_one]
    rw [(nearest_eq hm (by omega) (by positivity) one_pos hone).2, Nat.cast_one, div_one]

namespace Is

variable {x : Binary} {q : ℚ}

/-- Dividing by a power of two is exact as long as nothing becomes small. -/
theorem div_pow {k : Nat} (hx : x.Is q) (hfits : x.Fits) (hq : 1 ≤ q) (hpos : 0 < k)
    (hk : k ≤ 53) : (x.div .double (ofNat .double (2 ^ k))).Is (q / 2 ^ k) := by
  have hpow : (ofNat .double (2 ^ k)).Is (2 ^ k) := by
    have hself := nearest_natCast (m := 1) k (by norm_num)
    rw [one_mul] at hself
    have hword : 2 ^ k < 2 ^ 64 := Nat.pow_lt_pow_right (by norm_num) (by omega)
    have his := is_ofNat_nearest (Nat.two_pow_pos k) hword
    rw [hself] at his
    exact_mod_cast his
  have hx' := hx
  obtain ⟨m, e, rfl, rfl⟩ := hx'
  obtain ⟨hm, -, he⟩ := hfits
  have hden : 0 < (fraction m e).2 * 2 ^ k := Nat.mul_pos (fraction_pos m e) (Nat.two_pow_pos k)
  have hquotient : ((fraction m e).1 / ((fraction m e).2 * 2 ^ k : Nat) : ℚ) = m * 2 ^ e / 2 ^ k := by
    rw [← fraction_eq]
    push_cast
    rw [div_div]
  rw [hx.div_eq hpow (by positivity) hden hquotient, ← hquotient]
  -- what is at least one has no units below `2 ^ (-52)`
  have hexponent : -53 < e := by
    by_contra hsmall
    have hle : (2 : ℚ) ^ e ≤ 2 ^ (-53 : ℤ) := zpow_le_zpow_right₀ one_le_two (by omega)
    have hlt : (m : ℚ) < 2 ^ 53 := by exact_mod_cast hm
    have hone : (m : ℚ) * 2 ^ e < 2 ^ 53 * 2 ^ (-53 : ℤ) :=
      mul_lt_mul_of_lt_of_le_of_nonneg_of_pos hlt hle (by positivity) (by positivity)
    have hcancel : (2 : ℚ) ^ 53 * 2 ^ (-53 : ℤ) = 1 := by norm_num
    rw [hcancel] at hone
    exact absurd hq (not_le.mpr hone)
  have hnum : 0 < (fraction m e).1 := by
    have hposq : (0 : ℚ) < (fraction m e).1 / (fraction m e).2 := by
      rw [fraction_eq]
      linarith
    exact_mod_cast (div_pos_iff_of_pos_right (by exact_mod_cast fraction_pos m e)).mp hposq
  refine is_ofQuotient_of_eq hm (show -1074 ≤ e - k by omega) (by omega) hnum hden ?_
  rw [hquotient, zpow_sub₀ two_ne_zero, zpow_natCast, mul_div_assoc]

/-- Digits with two places after the point are those of the nearest hundredth. -/
theorem fixed_two (hx : x.Is q) :
    x.fixed 2 = Text.decimal (roundEven (q * 100) / 100) ++
      '.' :: Text.padded 2 (roundEven (q * 100) % 100) := by
  obtain ⟨m, e, rfl, rfl⟩ := hx
  have hrounded : roundQuotient ((fraction m e).1 * 100) (fraction m e).2 =
      roundEven (m * 2 ^ e * 100) := by
    rw [roundQuotient_eq_roundEven (fraction_pos m e), ← fraction_eq]
    push_cast
    rw [mul_div_right_comm]
  rw [← hrounded]
  rfl

end Is

end NodeTelemetry.Binary
