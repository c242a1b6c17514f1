import NodeTelemetry.Binary.Shortest
import NodeTelemetry.Proofs.Binary.Rounding

/-!
# How near shortest digits are

The shortest digits of a number are found on the first grid that has a decimal in the interval around
the number, and trailing zeros are taken off them. So they write a decimal that is at most half a
unit away from the number (`Shortest.digits_near`).

The search does not come back empty: it starts at a power of ten that is at most the number
(`Shortest.powerOfTen_le`), and nineteen places further down the grid is finer than half a unit, so
the neighbour above the number lies in the interval (`Shortest.onGrid_isSome`).
-/

namespace NodeTelemetry.Binary

/-- What a decimal writes. -/
def Decimal.value (d : Decimal) : ℚ := d.digits * 10 ^ d.exponent

namespace Shortest

/-- Zeros at the end make no difference to the value. -/
theorem value_trimZeros (fuel : Nat) (d : Decimal) : (trimZeros fuel d).value = d.value := by
  induction fuel generalizing d with
  | zero => rfl
  | succ fuel ih =>
    unfold trimZeros
    split
    · rename_i h
      rw [ih]
      have hten : d.digits = 10 * (d.digits / 10) := by omega
      show ((d.digits / 10 : Nat) : ℚ) * 10 ^ (d.exponent + 1) = d.digits * 10 ^ d.exponent
      rw [hten, Nat.mul_div_cancel_left _ (by norm_num), zpow_add₀ (by norm_num)]
      push_cast
      ring
    · rfl

/-! ### Intervals and grids -/

/-- A decimal on the grid of `10 ^ k` as the quotient under which it is looked up. -/
theorem quotient_grid (d : Nat) (k : Int) :
    ((d * 10 ^ k.toNat : Nat) : ℚ) / (10 ^ (-k).toNat : Nat) = d * 10 ^ k := by
  rw [show (10 : ℚ) ^ k = _ from zpow_eq 10 k]
  push_cast
  ring

/-- What the interval of a number says, over the rationals. -/
structure Interval.Around (i : Interval) (x half : ℚ) : Prop where
  /-- The denominator is positive. -/
  unit : 0 < i.unit
  /-- The number. -/
  centre : (i.centre / i.unit : ℚ) = x
  /-- The lower end is at most half a unit away. -/
  low : x - half ≤ i.low / i.unit
  /-- It lies below the number. -/
  low_lt : (i.low / i.unit : ℚ) < x
  /-- The upper end is half a unit away. -/
  high : (i.high / i.unit : ℚ) = x + half

/-- The interval of a positive number reaches half a unit to both sides, or less below. -/
theorem around_interval {m : Nat} (hm : 0 < m) (e : Int) :
    (interval .double m e).Around (m * 2 ^ e) (2 ^ e / 2) := by
  have hone : ∀ c : Nat, ((c * 2 ^ e.toNat : Nat) : ℚ) / (4 * 2 ^ (-e).toNat : Nat) =
      c / 4 * 2 ^ e := by
    intro c
    rw [zpow_two_eq]
    push_cast
    field_simp
  have hpos : (0 : ℚ) < 2 ^ e := by positivity
  have hcast : ∀ c : Nat, c ≤ 4 * m → ((4 * m - c : Nat) : ℚ) = 4 * m - c := by
    intro c hc
    rw [Nat.cast_sub hc]
    push_cast
    rfl
  have hlow : ∃ c : Nat, 0 < c ∧ c ≤ 2 ∧
      (interval .double m e).low = (4 * m - c) * 2 ^ e.toNat := by
    unfold interval
    dsimp only
    split
    · exact ⟨1, by norm_num, by norm_num, rfl⟩
    · exact ⟨2, by norm_num, by norm_num, rfl⟩
  obtain ⟨c, hc, hctwo, hlow⟩ := hlow
  have hc' : (0 : ℚ) < c := Nat.cast_pos.mpr hc
  have hctwo' : (c : ℚ) ≤ 2 := by exact_mod_cast hctwo
  have hlow' : ((interval .double m e).low / (interval .double m e).unit : ℚ) =
      (m - c / 4) * 2 ^ e := by
    rw [hlow]
    refine (hone _).trans ?_
    rw [hcast c (by omega)]
    ring
  refine ⟨Nat.mul_pos (by norm_num) (Nat.two_pow_pos _), ?_, ?_, ?_, ?_⟩
  · refine (hone (4 * m)).trans ?_
    push_cast
    ring
  · rw [hlow']
    nlinarith
  · rw [hlow']
    nlinarith
  · refine (hone (4 * m + 2)).trans ?_
    push_cast
    ring

variable {i : Interval} {x half : ℚ}

/-- What an interval contains is at most half a unit from the number. -/
theorem Interval.Around.near (h : i.Around x half) {num den : Nat} (hden : 0 < den)
    (hcontains : i.contains num den) :
    x - half ≤ num / den ∧ (num / den : ℚ) ≤ x + half := by
  have hnat : i.low * den ≤ num * i.unit ∧ num * i.unit ≤ i.high * den := by
    unfold Interval.contains at hcontains
    split at hcontains
    · exact of_decide_eq_true hcontains
    · exact ⟨(of_decide_eq_true hcontains).1.le, (of_decide_eq_true hcontains).2.le⟩
  have hd : (0 : ℚ) < den := Nat.cast_pos.mpr hden
  have hu : (0 : ℚ) < i.unit := Nat.cast_pos.mpr h.unit
  constructor
  · refine h.low.trans ?_
    rw [div_le_div_iff₀ hu hd]
    exact_mod_cast hnat.1
  · rw [← h.high, div_le_div_iff₀ hd hu]
    exact_mod_cast hnat.2

/-- A quotient strictly between the ends is contained. -/
theorem Interval.Around.contains (h : i.Around x half) {num den : Nat} (hden : 0 < den)
    (hlow : x ≤ num / den) (hhigh : (num / den : ℚ) < x + half) : i.contains num den := by
  have hd : (0 : ℚ) < den := Nat.cast_pos.mpr hden
  have hu : (0 : ℚ) < i.unit := Nat.cast_pos.mpr h.unit
  have hbelow : i.low * den < num * i.unit := by
    have hlt := h.low_lt.trans_le hlow
    rw [div_lt_div_iff₀ hu hd] at hlt
    exact_mod_cast hlt
  have habove : num * i.unit < i.high * den := by
    rw [← h.high, div_lt_div_iff₀ hd hu] at hhigh
    exact_mod_cast hhigh
  unfold Interval.contains
  split
  · exact decide_eq_true ⟨hbelow.le, habove.le⟩
  · exact decide_eq_true ⟨hbelow, habove⟩

/-- A decimal that a grid gives lies in the interval. -/
theorem onGrid_contains {k : Int} {d : Nat} (h : onGrid i k = some d) :
    i.contains (d * 10 ^ k.toNat) (10 ^ (-k).toNat) := by
  unfold onGrid at h
  extract_lets up down num den below rest lower upper at h
  have hlower : lower = true → i.contains (below * 10 ^ k.toNat) (10 ^ (-k).toNat) := id
  have hupper : upper = true → i.contains ((below + 1) * 10 ^ k.toNat) (10 ^ (-k).toNat) := id
  clear_value lower upper below rest den
  have hor : d = below ∧ lower = true ∨ d = below + 1 ∧ upper = true := by
    cases lower with
    | false =>
      cases upper with
      | false => cases h
      | true => exact .inr ⟨(Option.some.inj h).symm, rfl⟩
    | true =>
      cases upper with
      | false => exact .inl ⟨(Option.some.inj h).symm, rfl⟩
      | true =>
        dsimp only at h
        split at h
        · exact .inl ⟨(Option.some.inj h).symm, rfl⟩
        · split at h
          · exact .inr ⟨(Option.some.inj h).symm, rfl⟩
          · split at h
            · exact .inl ⟨(Option.some.inj h).symm, rfl⟩
            · exact .inr ⟨(Option.some.inj h).symm, rfl⟩
  rcases hor with ⟨rfl, hcontains⟩ | ⟨rfl, hcontains⟩
  · exact hlower hcontains
  · exact hupper hcontains

/-- A grid finer than half a unit has a decimal in the interval. -/
theorem onGrid_isSome (h : i.Around x half) {k : Int} (hk : (10 : ℚ) ^ k < half) :
    (onGrid i k).isSome := by
  have hup : (0 : ℚ) < 10 ^ k := by positivity
  have hu : (0 : ℚ) < i.unit := Nat.cast_pos.mpr h.unit
  unfold onGrid
  extract_lets up down num den below rest lower upper
  have hden : 0 < den := Nat.mul_pos h.unit (Nat.pow_pos (by norm_num))
  have hquotient : (num / den : ℚ) = x / 10 ^ k := by
    rw [← h.centre, show (10 : ℚ) ^ k = _ from zpow_eq 10 k]
    show ((i.centre * 10 ^ (-k).toNat : Nat) : ℚ) / (i.unit * 10 ^ k.toNat : Nat) = _
    push_cast
    field_simp
  have hbelow : (below : ℚ) * 10 ^ k ≤ x ∧ x < (below + 1) * 10 ^ k := by
    rw [← le_div_iff₀ hup, ← div_lt_iff₀ hup, ← hquotient]
    have hd : (0 : ℚ) < den := Nat.cast_pos.mpr hden
    rw [le_div_iff₀ hd, div_lt_iff₀ hd]
    constructor
    · exact_mod_cast Nat.div_mul_le_self num den
    · rw [mul_comm]
      exact_mod_cast Nat.lt_mul_div_succ num hden
  have hupper : upper = true := by
    have hten : 0 < 10 ^ (-k).toNat := Nat.pow_pos (by norm_num)
    refine h.contains hten ?_ ?_
    · show x ≤ (((below + 1) * 10 ^ k.toNat : Nat) : ℚ) / (10 ^ (-k).toNat : Nat)
      rw [quotient_grid]
      push_cast
      exact hbelow.2.le
    · show ((((below + 1) * 10 ^ k.toNat : Nat) : ℚ) / (10 ^ (-k).toNat : Nat)) < x + half
      rw [quotient_grid]
      push_cast
      linarith [hbelow.1]
  rw [hupper]
  cases lower with
  | false => rfl
  | true =>
    dsimp only
    split
    · rfl
    · split
      · rfl
      · split
        · rfl
        · rfl

/-! ### Where the search starts -/

theorem floorLogTen_le {num den : Nat} (hden : 0 < den) (fuel : Nat) {k : Int}
    (h : (10 : ℚ) ^ k ≤ num / den) : (10 : ℚ) ^ floorLogTen num den fuel k ≤ num / den := by
  induction fuel with
  | zero => exact h
  | succ fuel ih =>
    unfold floorLogTen
    dsimp only
    split
    · rename_i hle
      exact (zpow_le_quotient (b := 10) (by norm_num) hden _).mp hle
    · exact ih

/-- `2 ^ 93 < 10 ^ 28` and `10 ^ 31 < 2 ^ 103` are close enough for the whole range. -/
theorem ten_zpow_le_two_zpow {g k : Int} (hg : (g + 1) * 100000 ≤ k * 30103) (hlow : -1100 ≤ k)
    (hhigh : k ≤ 1100) : (10 : ℚ) ^ g ≤ 2 ^ k := by
  have hroot : ∀ n : Nat, n ≠ 0 → ((10 : ℚ) ^ n) ^ g ≤ 2 ^ (n * k) → (10 : ℚ) ^ g ≤ 2 ^ k := by
    intro n hn h
    rw [mul_comm, zpow_mul, zpow_natCast, ← zpow_natCast, ← zpow_mul, mul_comm, zpow_mul,
      zpow_natCast] at h
    exact (pow_le_pow_iff_left₀ (by positivity) (by positivity) hn).mp h
  rcases le_total 0 g with h | h
  · refine hroot 31 (by norm_num) ?_
    calc ((10 : ℚ) ^ 31) ^ g ≤ (2 ^ 103) ^ g := zpow_le_zpow_left₀ h (by norm_num) (by norm_num)
      _ = 2 ^ (103 * g) := by rw [zpow_mul]; norm_num
      _ ≤ 2 ^ ((31 : Nat) * k) := zpow_le_zpow_right₀ one_le_two (by push_cast; omega)
  · refine hroot 28 (by norm_num) ?_
    calc ((10 : ℚ) ^ 28) ^ g = ((10 ^ 28)⁻¹) ^ (-g) := by rw [inv_zpow', neg_neg]
      _ ≤ ((2 ^ 93)⁻¹) ^ (-g) :=
        zpow_le_zpow_left₀ (Int.neg_nonneg_of_nonpos h) (by positivity) (by norm_num)
      _ = 2 ^ (93 * g) := by rw [inv_zpow', neg_neg, zpow_mul]; norm_num
      _ ≤ 2 ^ ((28 : Nat) * k) := zpow_le_zpow_right₀ one_le_two (by push_cast; omega)

/-- The search starts at a power of ten that is at most the number. -/
theorem powerOfTen_le {num den : Nat} (hnum : 0 < num) (hden : 0 < den)
    (hlow : (2 : ℚ) ^ (-1100 : Int) ≤ num / den) (hhigh : (num / den : ℚ) < 2 ^ (1100 : Int)) :
    (10 : ℚ) ^ powerOfTen num den ≤ num / den := by
  obtain ⟨hbelow, habove⟩ := floorLog_spec hnum hden
  unfold powerOfTen
  dsimp only
  generalize floorLog num den = k at *
  have hk : -1100 ≤ k ∧ k ≤ 1100 := by
    have h₁ : (-1100 : Int) < k + 1 := (zpow_lt_zpow_iff_right₀ one_lt_two).mp (hlow.trans_lt habove)
    have h₂ : k < 1100 := (zpow_lt_zpow_iff_right₀ one_lt_two).mp (hbelow.trans_lt hhigh)
    omega
  refine floorLogTen_le hden 3 ((ten_zpow_le_two_zpow ?_ hk.1 hk.2).trans hbelow)
  rw [Int.fdiv_eq_ediv_of_nonneg _ (by norm_num)]
  omega

/-! ### What is found -/

/-- The search gives a decimal of some grid if one of its grids has any. -/
theorem search_eq {i : Interval} {top : Int} (fuel n : Nat)
    (h : ∃ j < fuel, (onGrid i (top - (n + j : Nat))).isSome) :
    ∃ d k, onGrid i k = some d ∧ search i top fuel n = ⟨d, k⟩ := by
  induction fuel generalizing n with
  | zero =>
    obtain ⟨j, hj, -⟩ := h
    cases hj
  | succ fuel ih =>
    obtain ⟨j, hj, hsome⟩ := h
    unfold search
    cases hgrid : onGrid i (top - n) with
    | some d => exact ⟨d, top - n, hgrid, rfl⟩
    | none =>
      refine ih (n + 1) ⟨j - 1, ?_⟩
      rcases Nat.eq_zero_or_pos j with rfl | hpos
      · rw [Nat.add_zero, hgrid] at hsome
        cases hsome
      · rw [show n + 1 + (j - 1) = n + j by omega]
        exact ⟨by omega, hsome⟩

/-- **The shortest digits of a number write a decimal that is at most half a unit away from it**,
and so they are not zero. -/
theorem digits_near {m : Nat} {e : Int} (hm : 0 < m) (hfits : (finite false m e).Fits) :
    m * 2 ^ e - 2 ^ e / 2 ≤ (digits .double m e).value ∧
      (digits .double m e).value ≤ m * 2 ^ e + 2 ^ e / 2 := by
  obtain ⟨hbits, hlow, hhigh⟩ := hfits
  have hpos : (0 : ℚ) < 2 ^ e := by positivity
  have hmone : (1 : ℚ) ≤ m := Nat.one_le_cast.mpr hm
  have hmlt : (m : ℚ) < 2 ^ (53 : Int) := by exact_mod_cast hbits
  have haround := around_interval hm e
  unfold digits
  dsimp only
  generalize interval .double m e = i at haround
  have hcentre : 0 < i.centre := by
    have hx : (0 : ℚ) < i.centre / i.unit := by
      rw [haround.centre]
      positivity
    have hne : i.centre ≠ 0 := by
      intro hzero
      rw [hzero, Nat.cast_zero, zero_div] at hx
      exact lt_irrefl _ hx
    omega
  -- the twentieth grid from the power of ten is finer than half a unit
  have hgrid : (10 : ℚ) ^ (powerOfTen i.centre i.unit - 19) < 2 ^ e / 2 := by
    have htop : (10 : ℚ) ^ powerOfTen i.centre i.unit ≤ m * 2 ^ e := by
      rw [← haround.centre]
      refine powerOfTen_le hcentre haround.unit ?_ ?_
      · rw [haround.centre]
        calc (2 : ℚ) ^ (-1100 : Int) ≤ 2 ^ e := zpow_le_zpow_right₀ one_le_two (by omega)
          _ ≤ m * 2 ^ e := le_mul_of_one_le_left hpos.le hmone
      · rw [haround.centre]
        calc (m : ℚ) * 2 ^ e < 2 ^ (53 : Int) * 2 ^ e := mul_lt_mul_of_pos_right hmlt hpos
          _ = 2 ^ (53 + e) := (zpow_add₀ two_ne_zero _ _).symm
          _ ≤ 2 ^ (1100 : Int) := zpow_le_zpow_right₀ one_le_two (by omega)
    rw [zpow_sub₀ (by norm_num), div_lt_div_iff₀ (by positivity) two_pos]
    calc (10 : ℚ) ^ powerOfTen i.centre i.unit * 2 ≤ m * 2 ^ e * 2 := by gcongr
      _ < 2 ^ (53 : Int) * 2 ^ e * 2 := by gcongr
      _ ≤ 2 ^ e * 10 ^ (19 : Int) := by
        rw [mul_comm _ ((2 : ℚ) ^ e), mul_assoc]
        exact mul_le_mul_of_nonneg_left (by norm_num) hpos.le
  obtain ⟨d, k, hsome, hsearch⟩ :=
    search_eq 20 0 ⟨19, by norm_num, onGrid_isSome haround hgrid⟩
  rw [hsearch, value_trimZeros]
  have hnear := haround.near (Nat.pow_pos (by norm_num)) (onGrid_contains hsome)
  rwa [quotient_grid] at hnear

end Shortest

end NodeTelemetry.Binary
