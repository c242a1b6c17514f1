import Mathlib.Algebra.BigOperators.Group.List.Basic
import NodeTelemetry.Proofs.Time.Calendar

/-!
# Days counted year by year

`Date.toDays` follows an arithmetic rule for years that begin in March. Here the days before a date are
counted as one would count them on a calendar: all months of the years before, the months before its own,
and the days before it in its month (`Date.counted`). From year 0 on both agree (`toDays_eq_counted`).

The rule is compared with the count for one year more (`toDays_next_year`) and for the months of one
year (`toDays_eq_first`); the count follows by induction on the years.
-/

namespace NodeTelemetry.Time

/-- The days of the months before one. -/
def daysBeforeMonth (year : Int) (month : Nat) : Nat :=
  ((List.range (month - 1)).map fun m => daysInMonth year (m + 1)).sum

/-- The days of a year. -/
def yearLength (year : Int) : Nat := ((List.range 12).map fun m => daysInMonth year (m + 1)).sum

/-- The days from the first day of year 0 to a date that does not lie before it. -/
def Date.counted (d : Date) : Nat :=
  ((List.range d.year.toNat).map fun y : Nat => yearLength y).sum + daysBeforeMonth d.year d.month +
    (d.day - 1)

/-- The first day of a year. -/
def firstOf (year : Int) : Date := ⟨year, 1, 1⟩

theorem toDays_firstOf (year : Int) :
    (firstOf year).toDays = yearStart (year - 1) + 306 - epochShift := by
  unfold firstOf Date.toDays yearStart cycleDays
  simp
  omega

theorem yearLength_eq (year : Int) : yearLength year = 365 + if isLeap year then 1 else 0 := by
  unfold yearLength daysInMonth
  cases isLeap year <;> rfl

/-- A year ends where the next one begins. -/
theorem toDays_next_year (year : Int) :
    (firstOf (year + 1)).toDays = (firstOf year).toDays + yearLength year := by
  have hsucc := yearStart_succ (year - 1)
  rw [Int.sub_add_cancel] at hsucc
  rw [toDays_firstOf, toDays_firstOf, yearLength_eq, Int.add_sub_cancel, hsucc]
  push_cast
  omega

/-- The days before a month, by the rule for months counted from March. -/
theorem daysBeforeMonth_eq (year : Int) {month : Nat} (hfirst : 1 ≤ month) (hlast : month ≤ 12) :
    (daysBeforeMonth year month : Int) =
      if month ≤ 2 then (153 * (month + 9 : Int) + 2) / 5 - 306
      else 59 + (if isLeap year then 1 else 0) + (153 * (month - 3 : Int) + 2) / 5 := by
  unfold daysBeforeMonth daysInMonth
  generalize isLeap year = leap
  interval_cases month <;> cases leap <;> decide

/-- The days from the first day of the year to a date of it. -/
theorem toDays_eq_first {d : Date} (h : d.valid = true) :
    d.toDays = (firstOf d.year).toDays + daysBeforeMonth d.year d.month + (d.day - 1 : Nat) := by
  obtain ⟨year, month, day⟩ := d
  simp only [Date.valid, decide_eq_true_eq] at h
  obtain ⟨hfirst, hlast, hday, -⟩ := h
  have hsucc := yearStart_succ (year - 1)
  rw [Int.sub_add_cancel] at hsucc
  have hrule : ∀ y : Int, y / 400 * cycleDays + (y % 400 * 365 + y % 400 / 4 - y % 400 / 100) =
      yearStart y := by
    intro y
    unfold cycleDays yearStart
    omega
  rw [toDays_firstOf, daysBeforeMonth_eq year hfirst hlast]
  by_cases hearly : month ≤ 2
  · have hyear := hrule (year - 1)
    simp only [Date.toDays, if_pos hearly]
    omega
  · have hyear := hrule year
    simp only [Date.toDays, if_neg hearly]
    omega

/-- The days from the first day of year 0 to the first day of a later one. -/
theorem toDays_firstOf_nat (n : Nat) :
    (firstOf n).toDays =
      (((List.range n).map fun y : Nat => yearLength y).sum : Nat) - (719528 : Int) := by
  induction n with
  | zero => decide
  | succ n ih =>
    rw [List.range_succ, List.map_append, List.sum_append, Nat.cast_succ, toDays_next_year, ih]
    simp
    omega

/-- The days up to a date are those from the first day of year 0, less those up to 1970. -/
theorem toDays_eq_counted_sub {d : Date} (h : d.valid = true) (hyear : 0 ≤ d.year) :
    d.toDays = (d.counted : Int) - 719528 := by
  obtain ⟨n, hn⟩ := Int.eq_ofNat_of_zero_le hyear
  rw [toDays_eq_first h, hn, toDays_firstOf_nat, Date.counted, hn]
  simp
  omega

/-- **Days are counted as on a calendar**, from 1970-01-01 on or back. -/
theorem toDays_eq_counted {d : Date} (h : d.valid = true) (hyear : 0 ≤ d.year) :
    d.toDays = (d.counted : Int) - (Date.counted ⟨1970, 1, 1⟩ : Nat) := by
  have hzero : Date.toDays ⟨1970, 1, 1⟩ = 0 := by decide
  have hepoch : Date.toDays ⟨1970, 1, 1⟩ = (Date.counted ⟨1970, 1, 1⟩ : Nat) - (719528 : Int) :=
    toDays_eq_counted_sub (by decide) (by decide)
  rw [toDays_eq_counted_sub h hyear]
  omega

/-! ### Years of days -/

theorem toDays_firstOf_mono {y z : Int} (h : y ≤ z) : (firstOf y).toDays ≤ (firstOf z).toDays := by
  have hmono := yearStart_mono (Int.sub_le_sub_right h 1)
  rw [toDays_firstOf, toDays_firstOf]
  omega

/-- The months up to one are part of the year. -/
theorem daysBeforeMonth_add_le (year : Int) {month : Nat} (hfirst : 1 ≤ month) (hlast : month ≤ 12) :
    daysBeforeMonth year month + daysInMonth year month ≤ yearLength year := by
  unfold daysBeforeMonth yearLength daysInMonth
  generalize isLeap year = leap
  interval_cases month <;> cases leap <;> decide

/-- **The days before a year are those with a date in an earlier one.** -/
theorem toDays_lt_firstOf_iff {d : Date} (h : d.valid = true) (year : Int) :
    d.toDays < (firstOf year).toDays ↔ d.year < year := by
  have hdays := toDays_eq_first h
  simp only [Date.valid, decide_eq_true_eq] at h
  obtain ⟨hfirst, hlast, hday, hlength⟩ := h
  constructor
  · intro hlt
    by_contra hle
    have hmono := toDays_firstOf_mono (Int.not_lt.mp hle)
    omega
  · intro hlt
    have hmono := toDays_firstOf_mono (Int.add_one_le_of_lt hlt)
    have hmonth := daysBeforeMonth_add_le d.year hfirst hlast
    rw [toDays_next_year] at hmono
    omega

end NodeTelemetry.Time
