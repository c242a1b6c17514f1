import NodeTelemetry.Client.Display
import NodeTelemetry.Proofs.Binary.Order
import NodeTelemetry.Proofs.Text.Digits

/-!
# Amounts as they are read

Who reads an amount of bytes takes it for a number of some unit. Of this exact quantity two things are
shown here: it never goes down where the amount goes up, and below `2 ^ 53` it is the amount up to half a
hundredth of the unit (`read_bytesText`).

Both come from one equation. In every unit but the least the amount is rounded to a number of 64 bits,
divided by a power of two, which is exact, and rounded to hundredths; in the least unit the text has no
places, and the equation holds there as well (`read?_bytesText`). The roundings keep order and leave the
units themselves alone. So an amount of one unit is shown as at least 1 and as at most 1024 of it
(`shown_bounds`), and this is what remains to be known of two amounts of different units.
-/

namespace NodeTelemetry.Client

open Binary Text

/-! ### Reading an amount -/

/-- A number of a unit. -/
structure Amount where
  /-- The number. -/
  number : ℚ
  /-- The bytes of the unit. -/
  unit : Nat
  deriving DecidableEq

/-- The bytes of an amount. -/
def Amount.bytes (a : Amount) : ℚ := a.number * a.unit

/-- The unit that a name stands for. -/
def unitNamed? : List Char → Option Nat
  | ['B'] => some 1
  | ['K', 'i'] => some 1024
  | ['M', 'i'] => some 1048576
  | ['G', 'i'] => some 1073741824
  | _ => none

/-- The number that digits write, with more digits after a point or without. -/
def number? (cs : List Char) : Option ℚ :=
  let whole := cs.takeWhile Char.isDigit
  if whole = [] then none
  else
    match cs.dropWhile Char.isDigit with
    | [] => some (ofDigits whole)
    | '.' :: part =>
      if part ≠ [] ∧ AllDigits part then some (ofDigits whole + ofDigits part / 10 ^ part.length)
      else none
    | _ => none

/-- Whether a character belongs to the number of an amount. -/
def inNumber (c : Char) : Bool := c.isDigit || c == '.'

/-- The amount that a text shows. -/
def Amount.read? (text : String) : Option Amount :=
  (number? (text.toList.takeWhile inNumber)).bind fun number =>
    (unitNamed? (text.toList.dropWhile inNumber)).map fun unit => ⟨number, unit⟩

theorem inNumber_of_allDigits {ds : List Char} (h : AllDigits ds) : ∀ c ∈ ds, inNumber c = true :=
  fun c hc => by rw [inNumber, h c hc, Bool.true_or]

theorem number?_decimal (n : Nat) : number? (decimal n) = some (n : ℚ) := by
  have hsplit := takeWhile_digits (allDigits_decimal n) [] rfl
  rw [List.append_nil] at hsplit
  unfold number?
  rw [hsplit.1, hsplit.2, if_neg (decimal_ne_nil n), ofDigits_decimal]

/-- Hundredths as they are written. -/
theorem number?_hundredths (n : Nat) :
    number? (decimal (n / 100) ++ '.' :: padded 2 (n % 100)) = some (n / 100 : ℚ) := by
  have hlength : (padded 2 (n % 100)).length = 2 :=
    length_padded (by norm_num) (Nat.mod_lt n (by norm_num))
  have hpart : padded 2 (n % 100) ≠ [] ∧ AllDigits (padded 2 (n % 100)) := by
    refine ⟨fun hnil => ?_, allDigits_padded _ _⟩
    rw [hnil] at hlength
    exact absurd hlength (by decide)
  obtain ⟨hwhole, hrest⟩ := takeWhile_digits (allDigits_decimal (n / 100))
    ('.' :: padded 2 (n % 100)) rfl
  unfold number?
  rw [hwhole, hrest]
  simp only [if_neg (decimal_ne_nil _), if_pos hpart, hlength, ofDigits_decimal, ofDigits_padded]
  have hdiv : (100 * (n / 100 : Nat) + (n % 100 : Nat) : ℚ) = n := by
    exact_mod_cast Nat.div_add_mod n 100
  rw [← hdiv]
  congr 1
  ring

/-- A number and the name of a unit are taken apart where the number ends. -/
theorem read?_append {number name : List Char} {q : ℚ} {unit : Nat}
    (hin : ∀ c ∈ number, inNumber c = true) (hout : name.head?.all (fun c => !inNumber c))
    (hnumber : number? number = some q) (hname : unitNamed? name = some unit) :
    Amount.read? (String.ofList number ++ String.ofList name) = some ⟨q, unit⟩ := by
  have htext : (String.ofList number ++ String.ofList name).toList = number ++ name := by
    rw [String.toList_append, String.toList_ofList, String.toList_ofList]
  have htake : name.takeWhile inNumber = [] ∧ name.dropWhile inNumber = name := by
    cases name with
    | nil => exact ⟨rfl, rfl⟩
    | cons c name =>
      have hc : ¬inNumber c = true := by simpa using hout
      rw [List.takeWhile_cons_of_neg hc, List.dropWhile_cons_of_neg hc]
      exact ⟨rfl, rfl⟩
  unfold Amount.read?
  rw [htext, List.takeWhile_append_of_pos hin, List.dropWhile_append_of_pos hin, htake.1, htake.2,
    List.append_nil, hnumber, hname]
  rfl

/-! ### What is shown -/

/-- The unit that an amount is shown in, as the exponent of a power of two. -/
def unitExponent (n : Nat) : Nat :=
  if 1073741824 ≤ n then 30 else if 1048576 ≤ n then 20 else if 1024 ≤ n then 10 else 0

/-- How many of a unit are shown: the nearest number of 64 bits, in hundredths of the unit. -/
def shown (n k : Nat) : ℚ := (roundEven (nearest n 1 / 2 ^ k * 100) : ℚ) / 100

theorem nearest_nonneg (n : Nat) : 0 ≤ nearest n 1 := by
  unfold nearest
  positivity

theorem nearest_word_mono {a b : Nat} (h : a ≤ b) : nearest a 1 ≤ nearest b 1 := by
  rcases Nat.eq_zero_or_pos a with rfl | ha
  · rw [nearest_zero]
    exact nearest_nonneg b
  · refine nearest_mono ha one_pos one_pos ?_
    rw [Nat.cast_one, div_one, div_one]
    exact_mod_cast h

theorem shown_mono {a b : Nat} (k : Nat) (h : a ≤ b) : shown a k ≤ shown b k := by
  have hpow : (0 : ℚ) ≤ 2 ^ k := by positivity
  have hscaled : nearest a 1 / 2 ^ k * 100 ≤ nearest b 1 / 2 ^ k * 100 :=
    mul_le_mul_of_nonneg_right (div_le_div_of_nonneg_right (nearest_word_mono h) hpow) (by norm_num)
  have hnonneg : 0 ≤ nearest a 1 / 2 ^ k * 100 :=
    mul_nonneg (div_nonneg (nearest_nonneg a) hpow) (by norm_num)
  have hrounded : (roundEven (nearest a 1 / 2 ^ k * 100) : ℚ) ≤
      roundEven (nearest b 1 / 2 ^ k * 100) := by
    exact_mod_cast roundEven_mono hnonneg hscaled
  exact div_le_div_of_nonneg_right hrounded (by norm_num)

/-- A whole number of units is shown as it is. -/
theorem shown_mul_pow {m : Nat} (k : Nat) (hm : m < 2 ^ 53) :
    shown (m * 2 ^ k) k = m := by
  have hwhole : nearest (m * 2 ^ k) 1 / 2 ^ k * 100 = (m * 100 : Nat) := by
    rw [nearest_natCast k hm]
    push_cast
    rw [mul_div_cancel_right₀ _ (by positivity)]
  rw [shown, hwhole, roundEven_natCast]
  push_cast
  rw [mul_div_cancel_right₀ _ (by norm_num)]

/-- **At least one of a unit is shown, and at most 1024, if the amount is between these.** -/
theorem shown_bounds {n k : Nat} :
    (2 ^ k ≤ n → 1 ≤ shown n k) ∧ (n ≤ 2 ^ (k + 10) → shown n k ≤ 1024) := by
  have hone := shown_mul_pow (m := 1) k (by norm_num)
  have hmany := shown_mul_pow (m := 1024) k (by norm_num)
  constructor
  · intro h
    rw [← Nat.cast_one, ← hone]
    exact shown_mono k (by omega)
  · intro h
    rw [← Nat.cast_ofNat, ← hmany]
    exact shown_mono k (by rw [Nat.pow_add] at h; omega)

/-- Below `2 ^ 53` only the rounding to hundredths takes something away. -/
theorem abs_shown_sub_le {n : Nat} (k : Nat) (h : n < 2 ^ 53) :
    |shown n k - n / 2 ^ k| ≤ 1 / 200 := by
  have hself : nearest n 1 = n := by
    have hwhole := nearest_natCast 0 h
    rwa [Nat.pow_zero, Nat.mul_one] at hwhole
  have hnear := abs_roundEven_sub_le (q := (n : ℚ) / 2 ^ k * 100) (by positivity)
  have hscale : shown n k - n / 2 ^ k =
      ((roundEven ((n : ℚ) / 2 ^ k * 100) : ℚ) - (n : ℚ) / 2 ^ k * 100) / 100 := by
    rw [shown, hself]
    ring
  rw [hscale, abs_div, div_le_iff₀ (by norm_num)]
  calc |(roundEven ((n : ℚ) / 2 ^ k * 100) : ℚ) - (n : ℚ) / 2 ^ k * 100| ≤ 1 / 2 := hnear
    _ = 1 / 200 * |(100 : ℚ)| := by norm_num

/-! ### The text of an amount -/

/-- **What a text of an amount is read as.** -/
theorem read?_inUnit {n unit k : Nat} {name : String} (hword : n < 2 ^ 64) (hle : unit ≤ n)
    (hunit : unit = 2 ^ k) (hpos : 0 < k) (hk : k ≤ 53)
    (hout : name.toList.head?.all (fun c => !inNumber c))
    (hname : unitNamed? name.toList = some unit) :
    Amount.read? (inUnit n unit name) = some ⟨shown n k, 2 ^ k⟩ := by
  subst hunit
  have hpow := Nat.two_pow_pos k
  have hone : 1 ≤ nearest n 1 := by
    have hself := nearest_natCast (m := 1) 0 (by norm_num)
    norm_num at hself
    rw [← hself]
    exact nearest_word_mono (hpow.trans_le hle)
  have hamount : ((ofNat .double n).div .double (ofNat .double (2 ^ k))).Is (nearest n 1 / 2 ^ k) :=
    (is_ofNat_nearest (hpow.trans_le hle) hword).div_pow (fits_ofNat n) hone hpos hk
  have hin : ∀ c ∈ decimal (roundEven (nearest n 1 / 2 ^ k * 100) / 100) ++
      '.' :: padded 2 (roundEven (nearest n 1 / 2 ^ k * 100) % 100), inNumber c = true := by
    intro c hc
    rcases List.mem_append.mp hc with hc | hc
    · exact inNumber_of_allDigits (allDigits_decimal _) c hc
    · rcases List.mem_cons.mp hc with rfl | hc
      · rfl
      · exact inNumber_of_allDigits (allDigits_padded _ _) c hc
  have hread := read?_append hin hout (number?_hundredths _) hname
  rwa [← hamount.fixed_two, String.ofList_toList] at hread

/-- In bytes the number is shown as it is. -/
theorem shown_zero {n : Nat} (h : n < 2 ^ 53) : shown n 0 = n := by
  have hself := shown_mul_pow 0 h
  rwa [Nat.pow_zero, Nat.mul_one] at hself

/-- **An amount is read as a number of its unit.** -/
theorem read?_bytesText (n : UInt64) :
    Amount.read? (bytesText n) =
      some ⟨shown n.toNat (unitExponent n.toNat), 2 ^ unitExponent n.toNat⟩ := by
  have hword := n.toNat_lt
  unfold bytesText unitExponent
  dsimp only
  split_ifs with hgi hmi hki
  · exact read?_inUnit (k := 30) hword hgi (by norm_num) (by norm_num) (by norm_num) rfl rfl
  · exact read?_inUnit (k := 20) hword hmi (by norm_num) (by norm_num) (by norm_num) rfl rfl
  · exact read?_inUnit (k := 10) hword hki (by norm_num) (by norm_num) (by norm_num) rfl rfl
  · rw [shown_zero (by omega)]
    exact read?_append (inNumber_of_allDigits (allDigits_decimal _)) rfl (number?_decimal _) rfl

/-- A greater amount is shown as no less, of whatever unit. -/
theorem shown_mul_mono {a b : Nat} (h : a ≤ b) :
    shown a (unitExponent a) * 2 ^ unitExponent a ≤
      shown b (unitExponent b) * 2 ^ unitExponent b := by
  have hunits : unitExponent a = unitExponent b ∨
      a < 2 ^ (unitExponent a + 10) ∧ 2 ^ unitExponent b ≤ b ∧
        unitExponent a + 10 ≤ unitExponent b := by
    unfold unitExponent
    split_ifs <;> norm_num <;> omega
  rcases hunits with heq | ⟨ha, hb, hle⟩
  · rw [heq]
    exact mul_le_mul_of_nonneg_right (shown_mono _ h) (by positivity)
  · calc shown a (unitExponent a) * 2 ^ unitExponent a ≤ 1024 * 2 ^ unitExponent a :=
          mul_le_mul_of_nonneg_right (shown_bounds.2 ha.le) (by positivity)
      _ = 2 ^ (unitExponent a + 10) := by rw [pow_add, mul_comm]; norm_num
      _ ≤ 2 ^ unitExponent b := pow_le_pow_right₀ one_le_two hle
      _ = 1 * 2 ^ unitExponent b := (one_mul _).symm
      _ ≤ shown b (unitExponent b) * 2 ^ unitExponent b :=
          mul_le_mul_of_nonneg_right (shown_bounds.1 hb) (by positivity)

/-- **What is read off an amount keeps the order of amounts, across units as well, and below `2 ^ 53` it
is the amount but for half a hundredth of the unit, in bytes without a difference.** -/
theorem read_bytesText :
    (∀ a b : UInt64, a ≤ b → ∃ x y, Amount.read? (bytesText a) = some x ∧
      Amount.read? (bytesText b) = some y ∧ x.bytes ≤ y.bytes) ∧
    ∀ n : UInt64, n.toNat < 2 ^ 53 → ∃ x, Amount.read? (bytesText n) = some x ∧
      |x.bytes - n.toNat| ≤ x.unit / 200 ∧ (x.unit = 1 → x.bytes = n.toNat) := by
  constructor
  · intro a b hab
    refine ⟨_, _, read?_bytesText a, read?_bytesText b, ?_⟩
    have hmono := shown_mul_mono (UInt64.le_iff_toNat_le.mp hab)
    unfold Amount.bytes
    exact_mod_cast hmono
  · intro n hn
    refine ⟨_, read?_bytesText n, ?_, ?_⟩
    · have hpow : (0 : ℚ) < 2 ^ unitExponent n.toNat := by positivity
      have hnear := abs_shown_sub_le (unitExponent n.toNat) hn
      have hscale : shown n.toNat (unitExponent n.toNat) * 2 ^ unitExponent n.toNat - n.toNat =
          (shown n.toNat (unitExponent n.toNat) - n.toNat / 2 ^ unitExponent n.toNat) *
            2 ^ unitExponent n.toNat := by
        field_simp
      unfold Amount.bytes
      push_cast
      rw [hscale, abs_mul, abs_of_pos hpow]
      calc _ ≤ 1 / 200 * (2 : ℚ) ^ unitExponent n.toNat :=
            mul_le_mul_of_nonneg_right hnear hpow.le
        _ = 2 ^ unitExponent n.toNat / 200 := by ring
    · intro hunit
      have hzero : unitExponent n.toNat = 0 := by
        by_contra hne
        exact absurd hunit (Nat.one_lt_two_pow hne).ne'
      simp only [Amount.bytes, hzero, shown_zero hn, pow_zero, Nat.cast_one, mul_one]

/-- Just below one Mi the number reaches 1024, which is no more than the unit itself. -/
theorem read_bytesText_below_unit :
    (bytesText 1048575 = "1024.00Ki" ∧ bytesText 1048576 = "1.00Mi") ∧
      (∃ x y, Amount.read? (bytesText 1048575) = some x ∧ Amount.read? (bytesText 1048576) = some y ∧
        x.bytes ≤ y.bytes) ∧
      ∃ x, Amount.read? (bytesText 1048575) = some x ∧
        |x.bytes - (1048575 : UInt64).toNat| ≤ x.unit / 200 ∧
        (x.unit = 1 → x.bytes = (1048575 : UInt64).toNat) :=
  ⟨by decide +kernel, read_bytesText.1 1048575 1048576 (by decide),
    read_bytesText.2 1048575 (by decide)⟩

end NodeTelemetry.Client
