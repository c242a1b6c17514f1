import Mathlib.Tactic.IntervalCases
import NodeTelemetry.Time.Calendar

/-!
# Dates of days

Every number of days is that of a date in the calendar, and `Date.ofDays` gives this date
(`ofDays_spec`). No other date in the calendar has the same number of days (`toDays_injective`).

The year of a day in a cycle is found by one division (`yearAt`). That it is the right one is seen at
the first and at the last day of each of the four hundred years, by evaluation; as the division is
monotone, it is right for the days between (`yearAt_spec`). The month of a day in the year is seen by
evaluation as well.
-/

namespace NodeTelemetry.Time

/-! ### Years -/

/-- The year to which a day of a cycle belongs, years beginning in March. -/
def yearAt (day : Int) : Int := (day - day / 1460 + day / 36524 - day / 146096) / 365

/-- The days of a cycle before a year, years beginning in March. -/
def yearStart (year : Int) : Int := 365 * year + year / 4 - year / 100 + year / 400

theorem yearAt_mono {d e : Int} (h : d ≤ e) : yearAt d ≤ yearAt e := by
  have hfour : d - d / 1460 ≤ e - e / 1460 := by omega
  -- a cycle has four centuries, so that what the last summand takes the one before it has given
  have hcentury : d / 36524 - d / 146096 ≤ e / 36524 - e / 146096 := by omega
  unfold yearAt
  omega

/-- The first and the last day of a year belong to it. -/
theorem yearAt_yearStart : ∀ n < 400, yearAt (yearStart (n : Nat)) = n ∧
    yearAt (yearStart ((n : Nat) + 1) - 1) = n := by decide +kernel

/-- A day of a cycle lies between the first and the last day of its year. -/
theorem yearAt_spec {day : Int} (hlow : 0 ≤ day) (hhigh : day < cycleDays) :
    0 ≤ yearAt day ∧ yearAt day < 400 ∧ yearStart (yearAt day) ≤ day ∧
      day < yearStart (yearAt day + 1) := by
  have hfirst : 0 ≤ yearAt day := yearAt_mono hlow
  have hlast : yearAt day ≤ 399 := yearAt_mono (Int.le_sub_one_of_lt hhigh)
  obtain ⟨n, hn⟩ := Int.eq_ofNat_of_zero_le hfirst
  refine ⟨hfirst, Int.lt_of_le_sub_one hlast, Int.not_lt.mp fun hbefore => ?_,
    Int.not_le.mp fun hafter => ?_⟩
  · -- a day before the first one belongs to a year before
    cases n with
    | zero =>
      rw [hn] at hbefore
      exact absurd hlow (Int.not_le.mpr hbefore)
    | succ n =>
      have hmono := yearAt_mono (Int.le_sub_one_of_lt hbefore)
      have hend := (yearAt_yearStart n (by omega)).2
      rw [hn] at hmono
      push_cast at hmono
      omega
  · -- and a day after the last one to a year after
    have hmono := yearAt_mono hafter
    by_cases hcycle : n = 399
    · rw [hn, hcycle] at hafter
      exact absurd hhigh (Int.not_lt.mpr hafter)
    · have hstart := (yearAt_yearStart (n + 1) (by omega)).1
      rw [hn] at hmono
      push_cast at hstart
      omega

/-- A year has a day more if the February at its end has. -/
theorem yearStart_succ (year : Int) :
    yearStart (year + 1) = yearStart year + 365 + if isLeap (year + 1) then 1 else 0 := by
  unfold yearStart isLeap
  split
  · rename_i h
    simp only [decide_eq_true_eq] at h
    omega
  · rename_i h
    simp only [decide_eq_true_eq] at h
    omega

/-- All cycles have the same days. -/
theorem yearStart_add_cycles (year cycles : Int) :
    yearStart (year + cycles * 400) = yearStart year + cycles * cycleDays := by
  unfold yearStart cycleDays
  omega

theorem yearStart_mono {y z : Int} (h : y ≤ z) : yearStart y ≤ yearStart z := by
  unfold yearStart
  rcases Int.le_iff_eq_or_lt.mp h with rfl | hlt
  · exact Int.le_refl _
  · omega

/-! ### Months -/

/-- The date of a day in a year, the year beginning in March. -/
def dateIn (year dayOfYear : Int) : Date :=
  let month := (5 * dayOfYear + 2) / 153
  let day := dayOfYear - (153 * month + 2) / 5 + 1
  if month < 10 then ⟨year, (month + 3).toNat, day.toNat⟩
  else ⟨year + 1, (month - 9).toNat, day.toNat⟩

theorem ofDays_eq (days : Int) :
    Date.ofDays days =
      let cycle := (days + epochShift) / cycleDays
      let day := (days + epochShift) % cycleDays
      let year := yearAt day
      dateIn (year + cycle * 400) (day - (365 * year + year / 4 - year / 100)) := rfl

/-- The months of a year and their days are those of the calendar, with and without a leap day. -/
theorem valid_dateIn_small :
    (∀ r < 366, (dateIn (-1) (r : Nat)).valid = true) ∧
      ∀ r < 365, (dateIn 0 (r : Nat)).valid = true := by decide +kernel

theorem valid_congr {y z : Int} {month : Nat} (h : month = 2 → isLeap y = isLeap z) (day : Nat) :
    Date.valid ⟨y, month, day⟩ = Date.valid ⟨z, month, day⟩ := by
  have hdays : daysInMonth y month = daysInMonth z month := by
    unfold daysInMonth
    by_cases hmonth : month = 2
    · rw [if_pos hmonth, if_pos hmonth, h hmonth]
    · rw [if_neg hmonth, if_neg hmonth]
  unfold Date.valid
  rw [hdays]

/-- Only the leap day of a year makes a difference to its dates. -/
theorem valid_dateIn_congr {y z : Int} (h : isLeap (y + 1) = isLeap (z + 1)) {dayOfYear : Int}
    (hlow : 0 ≤ dayOfYear) : (dateIn y dayOfYear).valid = (dateIn z dayOfYear).valid := by
  unfold dateIn
  by_cases hmonth : (5 * dayOfYear + 2) / 153 < 10
  · simp only [if_pos hmonth]
    exact valid_congr (fun htwo => by omega) _
  · simp only [if_neg hmonth]
    exact valid_congr (fun _ => h) _

/-- The days of a year have dates in the calendar. -/
theorem valid_dateIn {year dayOfYear : Int} (hlow : 0 ≤ dayOfYear)
    (hhigh : dayOfYear < 365 + if isLeap (year + 1) then 1 else 0) :
    (dateIn year dayOfYear).valid = true := by
  obtain ⟨r, rfl⟩ := Int.eq_ofNat_of_zero_le hlow
  cases hleap : isLeap (year + 1) with
  | true =>
    rw [hleap, if_pos rfl] at hhigh
    rw [valid_dateIn_congr (show isLeap (year + 1) = isLeap (-1 + 1) from hleap) hlow]
    exact valid_dateIn_small.1 r (by omega)
  | false =>
    rw [hleap, if_neg Bool.false_ne_true] at hhigh
    rw [valid_dateIn_congr (show isLeap (year + 1) = isLeap (0 + 1) from hleap) hlow]
    exact valid_dateIn_small.2 r (by omega)

/-- The days from 1970-01-01 to a day in a year. -/
theorem toDays_dateIn (year : Int) {dayOfYear : Int} (hlow : 0 ≤ dayOfYear)
    (hhigh : dayOfYear < 366) :
    (dateIn year dayOfYear).toDays = yearStart year + dayOfYear - epochShift := by
  have hcycle : yearStart year = year / 400 * cycleDays +
      (year % 400 * 365 + year % 400 / 4 - year % 400 / 100) := by
    unfold yearStart cycleDays
    omega
  rw [hcycle]
  unfold dateIn
  by_cases hmonth : (5 * dayOfYear + 2) / 153 < 10
  · have hlate : ¬((5 * dayOfYear + 2) / 153 + 3).toNat ≤ 2 := by omega
    simp only [if_pos hmonth, Date.toDays, if_neg hlate]
    omega
  · have hearly : ((5 * dayOfYear + 2) / 153 - 9).toNat ≤ 2 := by omega
    simp only [if_neg hmonth, Date.toDays, if_pos hearly, Int.add_sub_cancel]
    omega

/-! ### Dates -/

/-- Where a number of days lies in the calendar. -/
theorem exists_dateIn (days : Int) :
    ∃ year dayOfYear : Int, Date.ofDays days = dateIn year dayOfYear ∧ 0 ≤ dayOfYear ∧
      dayOfYear < 365 + (if isLeap (year + 1) then 1 else 0) ∧
      days = yearStart year + dayOfYear - epochShift := by
  have hlow : 0 ≤ (days + epochShift) % cycleDays := Int.emod_nonneg _ (by decide)
  have hhigh : (days + epochShift) % cycleDays < cycleDays := Int.emod_lt_of_pos _ (by decide)
  have hsplit := Int.ediv_mul_add_emod (days + epochShift) cycleDays
  refine ⟨_, _, ofDays_eq days, ?_⟩
  generalize (days + epochShift) % cycleDays = day at hlow hhigh hsplit
  generalize (days + epochShift) / cycleDays = cycle at hsplit
  obtain ⟨hnonneg, hlt, hstart, hend⟩ := yearAt_spec hlow hhigh
  generalize yearAt day = year at hnonneg hlt hstart hend
  have hleap : isLeap (year + cycle * 400 + 1) = isLeap (year + 1) := by
    unfold isLeap
    rw [decide_eq_decide]
    omega
  rw [yearStart_succ] at hend
  rw [hleap, yearStart_add_cycles]
  -- the days of the years before, as `Date.ofDays` counts them within a cycle
  have hbefore : 365 * year + year / 4 - year / 100 = yearStart year := by
    unfold yearStart
    omega
  rw [hbefore]
  exact ⟨by omega, by omega, by omega⟩

/-- **Every number of days has a date in the calendar**, which lies so many days after 1970-01-01. -/
theorem ofDays_spec (days : Int) :
    (Date.ofDays days).valid = true ∧ (Date.ofDays days).toDays = days := by
  obtain ⟨year, dayOfYear, hdate, hlow, hhigh, hdays⟩ := exists_dateIn days
  have hyear : dayOfYear < 366 := by
    split at hhigh
    · exact hhigh
    · omega
  rw [hdate, toDays_dateIn year hlow hyear]
  exact ⟨valid_dateIn hlow hhigh, hdays.symm⟩

/-- A month, counted from March, has no more days than there are before the next one begins. -/
theorem daysInMonth_fits (year : Int) {month : Nat} (hfirst : 1 ≤ month) (hlast : month ≤ 12) :
    let before : Int := if month ≤ 2 then month + 9 else month - 3
    (153 * before + 2) / 5 + daysInMonth year month ≤ (153 * (before + 1) + 2) / 5 := by
  interval_cases month
  case «2» =>
    cases h : isLeap year <;> simp [daysInMonth, h]
  all_goals simp [daysInMonth]

/-- A day of a month, counted from March, has this month in its date. -/
theorem dateIn_day (year : Int) {before day : Int} (hday : 1 ≤ day)
    (hfits : (153 * before + 2) / 5 + day ≤ (153 * (before + 1) + 2) / 5) :
    dateIn year ((153 * before + 2) / 5 + day - 1) =
      if before < 10 then ⟨year, (before + 3).toNat, day.toNat⟩
      else ⟨year + 1, (before - 9).toNat, day.toNat⟩ := by
  have hmonth : (5 * ((153 * before + 2) / 5 + day - 1) + 2) / 153 = before := by omega
  have hrest : (153 * before + 2) / 5 + day - 1 - (153 * before + 2) / 5 + 1 = day := by omega
  unfold dateIn
  simp only [hmonth, hrest]

/-- Where a date lies in the calendar. -/
theorem dateIn_of_valid {d : Date} (h : d.valid = true) :
    ∃ year dayOfYear : Int, d = dateIn year dayOfYear ∧ 0 ≤ dayOfYear ∧
      dayOfYear < 365 + if isLeap (year + 1) then 1 else 0 := by
  obtain ⟨year, month, day⟩ := d
  simp only [Date.valid, decide_eq_true_eq] at h
  obtain ⟨hfirst, hlast, hday, hdays⟩ := h
  have hfits := daysInMonth_fits year hfirst hlast
  have hpos : (1 : Int) ≤ day := by omega
  by_cases hearly : month ≤ 2
  · refine ⟨year - 1, (153 * (month + 9 : Int) + 2) / 5 + day - 1, ?_⟩
    rw [if_pos hearly] at hfits
    -- the year ends within its February, earlier than the rule for months would have it
    have hend : (153 * (month + 9 : Int) + 2) / 5 + daysInMonth year month ≤
        365 + if isLeap year then 1 else 0 := by
      obtain rfl | rfl : month = 1 ∨ month = 2 := by omega
      · show (337 : Int) ≤ _
        split <;> decide
      · cases h : isLeap year <;> simp [daysInMonth, h]
    rw [dateIn_day _ hpos (by omega), if_neg (by omega), Int.sub_add_cancel]
    refine ⟨?_, by omega, by omega⟩
    congr
    omega
  · refine ⟨year, (153 * (month - 3 : Int) + 2) / 5 + day - 1, ?_⟩
    rw [if_neg hearly] at hfits
    have hend : (153 * (month - 3 : Int) + 2) / 5 + day - 1 < 365 := by omega
    rw [dateIn_day _ hpos (by omega), if_pos (by omega)]
    refine ⟨?_, by omega, by omega⟩
    congr
    omega

/-- **No two dates of the calendar have the same number of days.** -/
theorem toDays_injective {d e : Date} (hd : d.valid = true) (he : e.valid = true)
    (h : d.toDays = e.toDays) : d = e := by
  obtain ⟨y, r, rfl, hlow, hhigh⟩ := dateIn_of_valid hd
  obtain ⟨z, s, rfl, hlow', hhigh'⟩ := dateIn_of_valid he
  have hy := yearStart_succ y
  have hz := yearStart_succ z
  rw [toDays_dateIn y hlow (by omega), toDays_dateIn z hlow' (by omega)] at h
  -- a day of a later year is behind all days of an earlier one
  rcases Int.lt_trichotomy y z with hlt | rfl | hlt
  · have hmono := yearStart_mono (Int.add_one_le_of_lt hlt)
    omega
  · rw [show r = s by omega]
  · have hmono := yearStart_mono (Int.add_one_le_of_lt hlt)
    omega

end NodeTelemetry.Time
