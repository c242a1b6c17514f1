import NodeTelemetry.Proofs.Binary.Order
import NodeTelemetry.Proofs.Collector.Environment

/-!
# Integers that there is no room for

An integer that a part of the configuration has no room for is refused if it is short: it is negative, or
too large for a port. A longer one is read as a number before, and this number is held between zero and
the largest word. So there are two ways for such an integer to become another one
(`read_out_of_range`): one that is far below zero becomes zero, and one above the largest word becomes the
largest word. The first goes through for a port, which may be zero, the second for a part that is a word
(`ofEnvironment_out_of_range`).
-/

namespace NodeTelemetry.Binary

/-! ### Large decimals -/

theorem toNatSaturating_of_negative (bound digits : Nat) (exponent : Int) :
    (ofDecimal .double true digits exponent).toNatSaturating bound = 0 := by
  have hquotient (num den : Nat) : (ofQuotient .double true num den).toNatSaturating bound = 0 := by
    rcases Nat.eq_zero_or_pos num with rfl | hnum
    · rfl
    · rw [ofQuotient_eq true hnum]
      split_ifs <;> rfl
  unfold ofDecimal
  dsimp only
  split_ifs
  · rfl
  · rfl
  · exact hquotient _ _

/-- **A number that is held below a bound does not fall below a number that 64 bits can hold.** -/
theorem le_toNatSaturating {m j digits : Nat} (bound : Nat) (hm : m < 2 ^ 53) (hpos : 0 < m)
    (h : m * 2 ^ j ≤ digits) :
    min bound (m * 2 ^ j) ≤ (ofDecimal .double false digits 0).toNatSaturating bound := by
  have hdigits : 0 < digits := by
    have hpow : 0 < m * 2 ^ j := by positivity
    omega
  have hmono : ((m * 2 ^ j : Nat) : ℚ) ≤ nearest digits 1 := by
    rw [← nearest_natCast j hm]
    refine nearest_mono (by positivity) one_pos one_pos ?_
    rw [Nat.cast_one, div_one, div_one]
    exact_mod_cast h
  unfold ofDecimal
  dsimp only
  split_ifs with hzero hlarge
  · exfalso
    unfold farExponent at hzero
    omega
  · exact Nat.min_le_left _ _
  · have hquotient : ofQuotient .double false (digits * Nat.pow 10 (0 : Int).toNat)
        (Nat.pow 10 (-(0 : Int)).toNat) = ofQuotient .double false digits 1 := by
      congr 1
      exact Nat.mul_one digits
    have hunits : unitsOf digits 1 ≠ 0 := by
      intro hzero
      rw [nearest, hzero, Nat.cast_zero, zero_mul] at hmono
      exact absurd hmono (not_le.mpr (by positivity))
    rw [hquotient]
    rcases infinite_or_is_nearest hdigits hunits with hinf | his
    · rw [hinf]
      exact Nat.min_le_left _ _
    · rw [his.toNatSaturating_eq]
      refine min_le_min_left _ (Nat.le_floor ?_)
      linarith

end NodeTelemetry.Binary

namespace NodeTelemetry.Collector

open Text

variable {q : Quantity} {s : String} {i : Int} {n : Nat}

theorem Quantity.limit_cases (q : Quantity) :
    q.limit = Setting.maxPort ∧ q.least = 0 ∨ q.limit = maxWord ∧ q.least = 1 := by
  cases q <;> simp [limit, least]

/-- **What an integer out of range is read as**, if it is not refused. -/
theorem read_out_of_range (hs : WritesInteger s.toList i) (hrange : i < 0 ∨ q.limit < i) :
    q.read (.ofText s) = .ok n ↔
      (i < -2 ^ 63 ∧ n = 0) ∨ (q.limit = maxWord ∧ (maxWord : Int) < i ∧ n = maxWord) := by
  have hcases := q.limit_cases
  rw [read_ofText, ofText_eq hs]
  by_cases hshort : Short i
  · -- a short one is negative, or beyond what a port has room for
    rw [if_pos hshort, Setting.toNatural]
    unfold Short maxInteger at hshort
    unfold maxWord
    refine iff_of_false ?_ (by omega)
    rintro ⟨hread, hlimit⟩
    split_ifs at hread with hneg
    cases hread
    omega
  · rw [if_neg hshort, Setting.toNatural, Except.ok.injEq]
    unfold Short maxInteger at hshort
    by_cases hneg : i < 0
    · -- what is negative is held at zero
      rw [decide_eq_true hneg, Binary.toNatSaturating_of_negative]
      constructor
      · rintro ⟨rfl, -⟩
        exact .inl ⟨by omega, rfl⟩
      · rintro (⟨-, rfl⟩ | ⟨-, hlarge, -⟩)
        · exact ⟨rfl, Nat.zero_le _⟩
        · omega
    · rw [decide_eq_false hneg]
      have hle := toNatSaturating_le maxWord (Binary.ofDecimal .double false i.natAbs 0)
      rcases hcases with ⟨hport, -⟩ | ⟨hword, -⟩
      · -- no port is as large as what is too long for 64 bits
        have hlow := Binary.le_toNatSaturating (m := 1) (j := 63) maxWord (by norm_num) one_pos
          (show 1 * 2 ^ 63 ≤ i.natAbs by omega)
        unfold Setting.maxPort at hport
        unfold maxWord at hlow hle ⊢
        refine iff_of_false ?_ (by omega)
        rintro ⟨rfl, hlimit⟩
        omega
      · -- what is above the largest word is held there
        rw [hword] at hrange ⊢
        have hlow := Binary.le_toNatSaturating (m := 1) (j := 64) maxWord (by norm_num) one_pos
          (show 1 * 2 ^ 64 ≤ i.natAbs by unfold maxWord at hrange; omega)
        have heq : (Binary.ofDecimal .double false i.natAbs 0).toNatSaturating maxWord = maxWord := by
          unfold maxWord at hlow hle ⊢
          omega
        rw [heq]
        constructor
        · rintro ⟨rfl, -⟩
          exact .inr ⟨rfl, by omega, rfl⟩
        · rintro (⟨hfar, -⟩ | ⟨-, -, rfl⟩)
          · omega
          · exact ⟨rfl, Nat.le_refl _⟩

/-- **An integer that there is no room for** stops the collector, but for two cases: far below zero it
becomes the port zero, and above the largest word it becomes the largest word. -/
theorem ofEnvironment_out_of_range (before after : Environment) {c : Config}
    (hs : WritesInteger s.toList i) (hrange : i < 0 ∨ q.limit < i)
    (hlast : ∀ v ∈ after, ∀ value, Config.entry? v.1 v.2 ≠ some (q.key, value))
    (h : Config.ofEnvironment (before ++ (q.name, s) :: after) = .ok c) :
    (q.limit = Setting.maxPort ∧ i < -2 ^ 63 ∧ q.of c = 0) ∨
      (q.limit = maxWord ∧ (maxWord : Int) < i ∧ q.of c = maxWord) := by
  have hfind : (Config.options (before ++ (q.name, s) :: after)).find? q.key =
      some (.ofText s) := by
    unfold Config.options
    rw [Keyed.find?_ofList, Keyed.lastOf_filterMap_eq_some]
    exact ⟨before, (q.name, s), after, rfl, entry?_quantity q s, hlast⟩
  have hpart := q.part.of_ofEnvironment h
  rw [show q.part.key = q.key from rfl, hfind] at hpart
  have hread : q.read (.ofText s) = .ok (q.of c) := hpart
  rcases (read_out_of_range hs hrange).mp hread with ⟨hfar, hzero⟩ | hlarge
  · have hleast := ((sound_of_ofEnvironment h).bounds q).1
    rcases q.limit_cases with ⟨hport, -⟩ | ⟨-, hone⟩
    · exact .inl ⟨hport, hfar, hzero⟩
    · -- the least number of any other part is one
      rw [hone, hzero] at hleast
      exact absurd hleast (by decide)
  · exact .inr hlarge

/-- Both cases occur: one below the least integer of 64 bits is taken as a port, and one above the largest
word as the time between samples. -/
theorem ofEnvironment_out_of_range_held :
    (∃ c, Config.ofEnvironment [("COLLECTOR_QUERY_PORT", "-9223372036854775809")] = .ok c ∧
      ((Quantity.queryPort.limit = Setting.maxPort ∧ (-9223372036854775809 : Int) < -2 ^ 63 ∧
        Quantity.queryPort.of c = 0) ∨
      (Quantity.queryPort.limit = maxWord ∧ (maxWord : Int) < -9223372036854775809 ∧
        Quantity.queryPort.of c = maxWord))) ∧
    ∃ c, Config.ofEnvironment [("COLLECTOR_SAMPLE_INTERVAL_MS", "18446744073709551616")] = .ok c ∧
      ((Quantity.intervalMs.limit = Setting.maxPort ∧ (18446744073709551616 : Int) < -2 ^ 63 ∧
        Quantity.intervalMs.of c = 0) ∨
      (Quantity.intervalMs.limit = maxWord ∧ (maxWord : Int) < 18446744073709551616 ∧
        Quantity.intervalMs.of c = maxWord)) := by
  have hport : Config.ofEnvironment [("COLLECTOR_QUERY_PORT", "-9223372036854775809")] =
      .ok ⟨"unknown", 0, 3101, 1000, 900, "/proc"⟩ := by decide +kernel
  have hword : Config.ofEnvironment [("COLLECTOR_SAMPLE_INTERVAL_MS", "18446744073709551616")] =
      .ok ⟨"unknown", 3100, 3101, maxWord, 900, "/proc"⟩ := by decide +kernel
  exact ⟨⟨_, hport, ofEnvironment_out_of_range (q := .queryPort) [] []
      (by decide +kernel) (.inl (by decide)) nofun hport⟩,
    ⟨_, hword, ofEnvironment_out_of_range (q := .intervalMs) [] []
      (by decide +kernel) (.inr (by decide)) nofun hword⟩⟩

end NodeTelemetry.Collector
