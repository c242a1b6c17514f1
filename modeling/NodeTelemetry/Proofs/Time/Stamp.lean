import NodeTelemetry.Proofs.Text.Digits
import NodeTelemetry.Proofs.Time.Calendar
import NodeTelemetry.Time.Stamp

/-!
# Timestamps read back

An instant is written with its date and its time of day in UTC, which are those of the calendar and no
others (`tells_iff`). As long as its year has four digits, the columns of the text are fixed but for the
fraction of the second, and the strict reader finds the same date and time in them
(`readStrict_textWith`), to the nanosecond or to the millisecond, as the instant was written.
-/

namespace NodeTelemetry.Time

open Text

/-! ### Instants in UTC -/

/-- A date and a time of day are those of an instant in UTC. In a leap second they are those of the
second before it, with one second more. -/
structure DateTime.Tells (d : DateTime) (t : Instant) : Prop where
  /-- The date is in the calendar. -/
  valid : d.date.valid = true
  /-- The hours of a day. -/
  hour : d.hour < 24
  /-- The minutes of an hour. -/
  minute : d.minute < 60
  /-- The seconds of a minute, with one more in a leap second. -/
  second : t.nanos / 1000000000 ≤ d.second ∧ d.second < 60 + t.nanos / 1000000000
  /-- All seconds from 1970-01-01 on. -/
  secs : d.date.toDays * daySecs + (d.hour * 3600 + d.minute * 60 + d.second : Nat) =
    t.secs + (t.nanos / 1000000000 : Nat)
  /-- The nanoseconds after them. -/
  nanos : d.nanos = t.nanos % 1000000000

theorem tells_toDateTime (t : Instant) : t.toDateTime.Tells t := by
  obtain ⟨hvalid, hdays⟩ := ofDays_spec (t.secs / daySecs)
  have hlow : 0 ≤ t.secs % daySecs := Int.emod_nonneg _ (by decide)
  have hhigh : t.secs % daySecs < 86400 := Int.emod_lt_of_pos _ (by decide)
  have hsplit := Int.ediv_mul_add_emod t.secs daySecs
  refine ⟨hvalid, ?_, ?_, ⟨?_, ?_⟩, ?_, rfl⟩
  · show (t.secs % daySecs).toNat / 3600 < 24
    omega
  · show (t.secs % daySecs).toNat % 3600 / 60 < 60
    omega
  · show _ ≤ (t.secs % daySecs).toNat % 60 + t.nanos / 1000000000
    omega
  · show (t.secs % daySecs).toNat % 60 + t.nanos / 1000000000 < _
    omega
  · show (Date.ofDays (t.secs / daySecs)).toDays * daySecs + ((t.secs % daySecs).toNat / 3600 * 3600 +
      (t.secs % daySecs).toNat % 3600 / 60 * 60 +
        ((t.secs % daySecs).toNat % 60 + t.nanos / 1000000000) : Nat) = _
    rw [hdays]
    omega

/-- **An instant has one date and one time of day in UTC.** -/
theorem tells_iff {d : DateTime} {t : Instant} : d.Tells t ↔ d = t.toDateTime := by
  refine ⟨fun hd => ?_, fun heq => heq ▸ tells_toDateTime t⟩
  have ht := tells_toDateTime t
  generalize t.toDateTime = e at ht
  obtain ⟨hvalid, hhour, hminute, ⟨hleap, hsecond⟩, hsecs, hnanos⟩ := hd
  obtain ⟨hvalid', hhour', hminute', ⟨hleap', hsecond'⟩, hsecs', hnanos'⟩ := ht
  unfold daySecs at hsecs hsecs'
  have hdate : d.date = e.date := toDays_injective hvalid hvalid' (by omega)
  rw [hdate] at hsecs
  obtain ⟨date, hour, minute, second, nanos⟩ := d
  obtain ⟨date', hour', minute', second', nanos'⟩ := e
  dsimp only at *
  rw [hdate, show hour = hour' by omega, show minute = minute' by omega,
    show second = second' by omega, hnanos, hnanos']

theorem daysInMonth_le (year : Int) (month : Nat) : daysInMonth year month ≤ 31 := by
  unfold daysInMonth
  split
  · split <;> decide
  · split <;> decide

/-! ### Columns -/

section Columns

variable {c : Char} {rest : List Char}

/-- A column of digits is read as the number that it writes. -/
theorem digits?_padded {width n : Nat} (hwidth : 0 < width) (h : n < 10 ^ width)
    (rest : List Char) : digits? width (padded width n ++ rest) = some (n, rest) := by
  have hlength := length_padded hwidth h
  have hdigits : (padded width n).all Char.isDigit = true :=
    List.all_eq_true.mpr (allDigits_padded width n)
  unfold digits?
  rw [List.take_left' hlength, List.drop_left' hlength]
  dsimp only
  rw [if_pos ⟨hlength, hdigits⟩, ofDigits_padded]

theorem literal?_cons (c : Char) (rest : List Char) : literal? c (c :: rest) = some rest := if_pos rfl

/-- A number is read up to what is no digit. -/
theorem numberLoop_digits {ds : List Char} (hds : AllDigits ds) (hc : c.isDigit = false)
    {least most : Nat} (hmost : ds.length ≤ most) (read : Nat) (hleast : least ≤ read + ds.length)
    (n : Nat) (hsmall : Nat.ofDigitChars 10 ds n ≤ maxRegister) :
    numberLoop least most read n (ds ++ c :: rest) =
      .ok (Nat.ofDigitChars 10 ds n, c :: rest) := by
  induction ds generalizing most read n with
  | nil =>
    cases most with
    | zero => rfl
    | succ most =>
      have hnot : ¬read < least := Nat.not_lt_of_le hleast
      show numberLoop least (most + 1) read n (c :: rest) = .ok (n, c :: rest)
      rw [numberLoop, hc, if_neg Bool.false_ne_true, if_neg hnot]
  | cons d ds ih =>
    obtain ⟨hd, hds⟩ := allDigits_cons.mp hds
    cases most with
    | zero => cases hmost
    | succ most =>
      rw [ofDigitChars_cons] at hsmall ⊢
      have hregister := Nat.le_trans (le_ofDigitChars ds _) hsmall
      rw [List.length_cons] at hmost hleast
      rw [List.cons_append, numberLoop, hd, if_pos rfl]
      dsimp only
      rw [if_neg (Nat.not_lt_of_le hregister)]
      exact ih hds (by omega) (read + 1) (by omega) _ hsmall

/-- A fraction of up to nine places is read in nanoseconds. -/
theorem fraction_padded {width n : Nat} (hwidth : 0 < width) (hnine : width ≤ 9)
    (h : n < 10 ^ width) (hc : c.isDigit = false) :
    fraction ('.' :: (padded width n ++ c :: rest)) = .ok (n * 10 ^ (9 - width), c :: rest) := by
  have hlength := length_padded hwidth h
  have hvalue : Nat.ofDigitChars 10 (padded width n) 0 = n := ofDigits_padded width n
  have hsmall : Nat.ofDigitChars 10 (padded width n) 0 ≤ maxRegister := by
    have hpow : 10 ^ width ≤ 10 ^ 9 := Nat.pow_le_pow_right (by decide) hnine
    rw [hvalue]
    unfold maxRegister maxInteger
    omega
  have hnumber : number 9 (padded width n ++ c :: rest) = .ok (n, c :: rest) := by
    unfold number
    rw [numberLoop_digits (allDigits_padded width n) hc (by omega) 0 (by omega) 0 hsmall, hvalue]
  have hplaces : (padded width n ++ c :: rest).length - (c :: rest).length = width := by
    rw [List.length_append, hlength, Nat.add_sub_cancel]
  rw [fraction, hnumber]
  show Except.ok (n * 10 ^ (9 - ((padded width n ++ c :: rest).length - (c :: rest).length)),
    (c :: rest).dropWhile Char.isDigit) = _
  rw [hplaces, List.dropWhile_cons_of_neg (by rw [hc]; decide)]

/-- The fraction of a second is read as it was written. -/
theorem fraction_fractionText {nanos : Nat} (h : nanos < 1000000000) (rest : List Char) :
    fraction (fractionText nanos ++ 'Z' :: rest) = .ok (nanos, 'Z' :: rest) := by
  have hZ : 'Z'.isDigit = false := rfl
  unfold fractionText
  split
  · rename_i hzero
    rw [hzero]
    rfl
  · split
    · rw [List.cons_append, fraction_padded (by decide) (by decide) (by omega) hZ]
      congr 2
      omega
    · split
      · rw [List.cons_append, fraction_padded (by decide) (by decide) (by omega) hZ]
        congr 2
        omega
      · rw [List.cons_append, fraction_padded (by decide) (by decide) (by omega) hZ]
        congr 2
        omega

end Columns

/-! ### Whole timestamps -/

/-- **The strict reader finds the date and time of an instant in its text**, as long as the year has
four digits. How the fraction of the second is written does not matter, only what is read from it. -/
theorem readStrict_textWith {t : Instant} (hnanos : t.nanos < 2000000000)
    (hlow : 0 ≤ t.toDateTime.date.year) (hhigh : t.toDateTime.date.year ≤ 9999)
    {places : Nat → List Char} {nanos : Nat}
    (hplaces : fraction (places t.toDateTime.nanos ++ ['Z']) = .ok (nanos, ['Z'])) :
    readStrict (t.textWith places).toList = some { t.toDateTime with nanos := nanos } := by
  obtain ⟨hvalid, hhour, hminute, ⟨-, hsecond⟩, -, -⟩ := tells_toDateTime t
  have htext : (t.textWith places).toList =
      padded 4 t.toDateTime.date.year.toNat ++ '-' :: (padded 2 t.toDateTime.date.month ++ '-' ::
        (padded 2 t.toDateTime.date.day ++ 'T' :: (padded 2 t.toDateTime.hour ++ ':' ::
          (padded 2 t.toDateTime.minute ++ ':' :: (padded 2 t.toDateTime.second ++
            (places t.toDateTime.nanos ++ ['Z'])))))) := by
    unfold Instant.textWith Date.text DateTime.clockText yearText
    rw [String.toList_ofList, if_pos ⟨hlow, hhigh⟩]
    simp only [List.append_assoc, List.cons_append]
  rw [htext]
  have hcolumns := hvalid
  simp only [Date.valid, decide_eq_true_eq] at hcolumns
  have hdays := daysInMonth_le t.toDateTime.date.year t.toDateTime.date.month
  have hyear (rest : List Char) := digits?_padded (show 0 < 4 by decide)
    (show t.toDateTime.date.year.toNat < 10 ^ 4 by omega) rest
  have htwo {n : Nat} (h : n < 100) (rest : List Char) :
      digits? 2 (padded 2 n ++ rest) = some (n, rest) := digits?_padded (by decide) h rest
  have hnano : given (fraction (places t.toDateTime.nanos ++ ['Z'])) = some (nanos, ['Z']) := by
    rw [hplaces]
    rfl
  unfold readStrict
  refine Option.bind_eq_some_iff.mpr ⟨_, hyear _, ?_⟩
  refine Option.bind_eq_some_iff.mpr ⟨_, literal?_cons _ _, ?_⟩
  refine Option.bind_eq_some_iff.mpr ⟨_, htwo (by omega) _, ?_⟩
  refine Option.bind_eq_some_iff.mpr ⟨_, literal?_cons _ _, ?_⟩
  refine Option.bind_eq_some_iff.mpr ⟨_, htwo (by omega) _, ?_⟩
  refine Option.bind_eq_some_iff.mpr ⟨_, rfl, ?_⟩
  refine Option.bind_eq_some_iff.mpr ⟨_, htwo (by omega) _, ?_⟩
  refine Option.bind_eq_some_iff.mpr ⟨_, literal?_cons _ _, ?_⟩
  refine Option.bind_eq_some_iff.mpr ⟨_, htwo (by omega) _, ?_⟩
  refine Option.bind_eq_some_iff.mpr ⟨_, literal?_cons _ _, ?_⟩
  refine Option.bind_eq_some_iff.mpr ⟨_, htwo (by omega) _, ?_⟩
  refine Option.bind_eq_some_iff.mpr ⟨_, hnano, ?_⟩
  refine Option.bind_eq_some_iff.mpr ⟨_, rfl, ?_⟩
  dsimp only
  rw [Int.toNat_of_nonneg hlow]
  exact if_pos ⟨rfl, hvalid, by omega, by omega, by omega, by decide, by decide⟩

/-- Written with all its places, an instant is read with all of them. -/
theorem readStrict_text {t : Instant} (hnanos : t.nanos < 2000000000)
    (hlow : 0 ≤ t.toDateTime.date.year) (hhigh : t.toDateTime.date.year ≤ 9999) :
    readStrict t.text.toList = some t.toDateTime := by
  have hfraction := (tells_toDateTime t).nanos
  exact readStrict_textWith hnanos hlow hhigh (fraction_fractionText (by omega) [])

/-- Written to the millisecond, it is read without what is less than that. -/
theorem readStrict_stamp {t : Instant} (hnanos : t.nanos < 2000000000)
    (hlow : 0 ≤ t.toDateTime.date.year) (hhigh : t.toDateTime.date.year ≤ 9999) :
    readStrict t.stamp.toList =
      some { t.toDateTime with nanos := t.toDateTime.nanos / 1000000 * 1000000 } := by
  have hfraction := (tells_toDateTime t).nanos
  have hmillis : t.toDateTime.nanos / 1000000 < 10 ^ 3 := by omega
  exact readStrict_textWith hnanos hlow hhigh
    (fraction_padded (by decide) (by decide) hmillis (rfl : 'Z'.isDigit = false))

end NodeTelemetry.Time
