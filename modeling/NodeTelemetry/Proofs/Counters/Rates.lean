import Mathlib.Algebra.Order.Round
import NodeTelemetry.Counters.Vmstat
import NodeTelemetry.Proofs.Binary.Exact

/-!
# Rates of paging counters

A rate is the growth of a counter divided by the seconds that it took, as a binary number, and then
rounded to a whole number. So it is rounded twice. For growths below `2 ^ 52` over whole seconds both
operands are exact, and the two roundings come to the same as one (`ratePerSecond_toNat`).
-/

namespace NodeTelemetry

/-- Whole seconds are themselves. -/
theorem Time.Span.seconds_whole {secs : Nat} (h : secs < 2 ^ 53) :
    (⟨secs, 0⟩ : Time.Span).seconds = Binary.ofNat .double secs := by
  have hsecs := Binary.is_ofNat h
  have hzero : ((Binary.ofNat .double 0).div .double (Binary.ofNat .double 1000000000)).Is 0 :=
    ⟨0, -1074, rfl, by simp⟩
  exact hsecs.add_eq hzero one_pos (by simp)

/-- **A rate over whole seconds is rounded once.** -/
theorem ratePerSecond_toNat {previous current : UInt64} {secs : Nat} (hle : previous ≤ current)
    (hgrowth : current.toNat - previous.toNat < 2 ^ 52) (hpos : 1 ≤ secs) (hsecs : secs < 2 ^ 53) :
    (ratePerSecond previous current ⟨secs, 0⟩).toNat =
      ⌊((current.toNat - previous.toNat : Nat) / secs + 1 / 2 : ℚ)⌋₊ := by
  generalize hd : current.toNat - previous.toNat = growth at hgrowth
  have hseconds := Binary.is_ofNat hsecs
  have hnonzero : (secs : ℚ) ≠ 0 := by positivity
  have hquotient : (Binary.ofNat .double growth).div .double (Binary.ofNat .double secs) =
      Binary.ofQuotient .double false growth secs :=
    (Binary.is_ofNat (hgrowth.trans (by decide))).div_eq hseconds hnonzero hpos rfl
  obtain ⟨q, hq, hfloor⟩ := Binary.is_ofQuotient_near hgrowth hpos hsecs
  have hnot : ¬((⟨secs, 0⟩ : Time.Span).seconds.le (Binary.zero false) ∨ current < previous) := by
    rw [Time.Span.seconds_whole hsecs, hseconds.le_iff Binary.is_zero]
    rintro (hzero | hless)
    · exact hnonzero (le_antisymm hzero (by positivity))
    · exact absurd hle (UInt64.not_le.mpr hless)
  have hbound : ⌊(growth / secs + 1 / 2 : ℚ)⌋₊ ≤ Text.maxWord := by
    rw [Binary.floor_half hpos]
    refine (Nat.div_le_self _ _).trans ?_
    unfold Text.maxWord
    omega
  have hrate : ratePerSecond previous current ⟨secs, 0⟩ =
      UInt64.ofNat (min Text.maxWord ⌊(growth / secs + 1 / 2 : ℚ)⌋₊) := by
    rw [← hfloor, ← hq.toNatSaturating_eq, ← hquotient, ← hd, ← Time.Span.seconds_whole hsecs]
    exact if_neg hnot
  rw [hrate, Nat.min_eq_right hbound]
  exact UInt64.toNat_ofNat_of_lt' (Nat.lt_of_le_of_lt hbound (by decide))

namespace Rates

/-- The rates by the names of their counters. -/
def named (r : Rates) : List (String × UInt64) :=
  [("pswpin", r.pswpin), ("pswpout", r.pswpout), ("pgfault", r.pgfault),
    ("pgmajfault", r.pgmajfault), ("pgpgin", r.pgpgin), ("pgpgout", r.pgpgout)]

/-- Each rate is that of the counter of its name. -/
theorem eq_rateOf_of_mem_named {previous current : Vmstat} {elapsed : Time.Span}
    {name : String} {rate : UInt64} (h : (name, rate) ∈ (between previous current elapsed).named) :
    rate = rateOf previous current elapsed name := by
  simp only [named, List.mem_cons, List.not_mem_nil, or_false, Prod.mk.injEq] at h
  rcases h with ⟨rfl, rfl⟩ | ⟨rfl, rfl⟩ | ⟨rfl, rfl⟩ | ⟨rfl, rfl⟩ | ⟨rfl, rfl⟩ | ⟨rfl, rfl⟩ <;>
    rfl

/-- **Rates over whole seconds are rounded once, halves up.** If a counter has not fallen and has grown
by less than `2 ^ 52` over whole seconds, at least one and less than `2 ^ 53`, its rate is the natural
number nearest to the growth divided by the seconds, and the greater one of two. So is each of the six
rates between two snapshots that both have the counter: that the quotient is rounded to 64 bits first
makes no difference. -/
theorem rounded_once (secs : Nat) (hpos : 1 ≤ secs) (hsecs : secs < 2 ^ 53) :
    (∀ previous current : UInt64, previous ≤ current →
      current.toNat - previous.toNat < 2 ^ 52 →
        let growth := current.toNat - previous.toNat
        let rate := ratePerSecond previous current ⟨secs, 0⟩
        rate.toNat = (2 * growth + secs) / (2 * secs) ∧
          (rate.toNat : ℤ) = round (growth / secs : ℚ)) ∧
    ∀ (before after : Vmstat) (name : String) (rate previous current : UInt64),
      (name, rate) ∈ (between before after ⟨secs, 0⟩).named →
      Keyed.find? name before = some previous → Keyed.find? name after = some current →
      previous ≤ current → current.toNat - previous.toNat < 2 ^ 52 →
        rate.toNat = (2 * (current.toNat - previous.toNat) + secs) / (2 * secs) := by
  have hrate : ∀ previous current : UInt64, previous ≤ current →
      current.toNat - previous.toNat < 2 ^ 52 →
        (ratePerSecond previous current ⟨secs, 0⟩).toNat =
          (2 * (current.toNat - previous.toNat) + secs) / (2 * secs) := by
    intro previous current hle hgrowth
    rw [ratePerSecond_toNat hle hgrowth hpos hsecs, Binary.floor_half hpos]
  refine ⟨fun previous current hle hgrowth => ⟨hrate previous current hle hgrowth, ?_⟩, ?_⟩
  · rw [ratePerSecond_toNat hle hgrowth hpos hsecs, round_eq]
    exact Int.natCast_floor_eq_floor (by positivity)
  · intro before after name rate previous current hmem hbefore hafter hle hgrowth
    have heq : rate = ratePerSecond previous current ⟨secs, 0⟩ := by
      rw [eq_rateOf_of_mem_named hmem, rateOf, hbefore, hafter]
    rw [heq, hrate previous current hle hgrowth]

/-- A quotient that lies one part in `2 ^ 54` below a half is rounded down, and one that is a half is
rounded up, also in the rates between two snapshots. -/
theorem rounded_once_near_half :
    (ratePerSecond 5 4503599627370500 ⟨9007199254740991, 0⟩).toNat = 0 ∧
      (ratePerSecond 0 3 ⟨6, 0⟩).toNat = 1 ∧
      (between [("pgfault", 7)] [("pgfault", 32)] ⟨2, 0⟩).pgfault.toNat = 13 := by
  refine ⟨?_, ?_, ?_⟩
  · exact ((rounded_once 9007199254740991 (by decide) (by decide)).1 5 4503599627370500
      (by decide) (by decide)).1
  · exact ((rounded_once 6 (by decide) (by decide)).1 0 3 (by decide) (by decide)).1
  · have hmem : ("pgfault", (between [("pgfault", 7)] [("pgfault", 32)] ⟨2, 0⟩).pgfault) ∈
        (between [("pgfault", 7)] [("pgfault", 32)] ⟨2, 0⟩).named := by simp [named]
    exact (rounded_once 2 (by decide) (by decide)).2 _ _ _ _ 7 32 hmem rfl rfl
      (by decide) (by decide)

end Rates

end NodeTelemetry
