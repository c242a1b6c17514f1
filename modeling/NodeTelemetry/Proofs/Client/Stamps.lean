import NodeTelemetry.Client.Listing
import NodeTelemetry.Proofs.Event
import NodeTelemetry.Proofs.Time.Counting
import NodeTelemetry.Proofs.Time.Stamp

/-!
# The stamp of an event on display

An event that comes without a time is stamped by the collector with its clock, and the client shows this
stamp. In between it is a text: the collector takes the clock apart into a date and a time of day, and
the client reads these from the columns of the text. What is shown is compared here with the clock itself,
by counting the days of the calendar up to the date (`DateTime.Shows`); a leap second is the sixtieth of
its minute.

## The model

What a clock gives is an instant whose nanoseconds go on past a second only in the last second of a
minute, as they do in a leap second (`Instant.OfClock`). The years are bounded by seconds, which is the
same as bounding the year that is shown (`year_toDateTime`).
-/

namespace NodeTelemetry.Time

/-- An instant that a clock gives in the years 0 to 9999. -/
structure Instant.OfClock (t : Instant) : Prop where
  /-- It is inside a second or a leap second. -/
  nanos : t.nanos < 2000000000
  /-- Only the last second of a minute is followed by a leap second. -/
  leap : 1000000000 ≤ t.nanos → t.secs % 60 = 59
  /-- It is not before the first second of year 0. -/
  low : -62167219200 ≤ t.secs
  /-- It is not after the last second of year 9999. -/
  high : t.secs ≤ 253402300799

instance (t : Instant) : Decidable t.OfClock :=
  decidable_of_iff (t.nanos < 2000000000 ∧ (1000000000 ≤ t.nanos → t.secs % 60 = 59) ∧
      -62167219200 ≤ t.secs ∧ t.secs ≤ 253402300799)
    ⟨fun ⟨hnanos, hleap, hlow, hhigh⟩ => ⟨hnanos, hleap, hlow, hhigh⟩,
      fun ⟨hnanos, hleap, hlow, hhigh⟩ => ⟨hnanos, hleap, hlow, hhigh⟩⟩

/-- A date and a time of day show an instant: from 1970-01-01 to them there are as many seconds as the
instant counts. A leap second counts as the second before it. -/
structure DateTime.Shows (d : DateTime) (t : Instant) : Prop where
  /-- The date is in the calendar. -/
  valid : d.date.valid = true
  /-- Its year has at most four digits. -/
  year : 0 ≤ d.date.year ∧ d.date.year ≤ 9999
  /-- The hours of a day. -/
  hour : d.hour < 24
  /-- The minutes of an hour. -/
  minute : d.minute < 60
  /-- The seconds of a minute, with a leap second. -/
  second : d.second ≤ 60
  /-- There is a second 60 in a leap second only. -/
  leap : d.second = 60 ↔ 1000000000 ≤ t.nanos
  /-- All seconds from 1970-01-01 on. -/
  secs : ((d.date.counted : Int) - (Date.counted ⟨1970, 1, 1⟩ : Nat)) * 86400 +
    (d.hour * 3600 + d.minute * 60 + min d.second 59 : Nat) = t.secs

/-- The years of a clock are those that are shown with four digits. -/
theorem year_toDateTime (t : Instant) :
    0 ≤ t.toDateTime.date.year ∧ t.toDateTime.date.year ≤ 9999 ↔
      -62167219200 ≤ t.secs ∧ t.secs ≤ 253402300799 := by
  obtain ⟨hvalid, hdays⟩ := ofDays_spec (t.secs / daySecs)
  have hfirst : (firstOf 0).toDays = -719528 := by decide
  have hlast : (firstOf 10000).toDays = 2932897 := by decide
  have hlow := toDays_lt_firstOf_iff hvalid 0
  have hhigh := toDays_lt_firstOf_iff hvalid 10000
  rw [hdays, hfirst] at hlow
  rw [hdays, hlast] at hhigh
  show 0 ≤ (Date.ofDays (t.secs / daySecs)).year ∧ (Date.ofDays (t.secs / daySecs)).year ≤ 9999 ↔ _
  unfold daySecs at *
  omega

/-- The date and time of an instant in UTC show it. -/
theorem shows_toDateTime {t : Instant} (h : t.OfClock) : t.toDateTime.Shows t := by
  obtain ⟨hnanos, hleap, hlow, hhigh⟩ := h
  have hyear := (year_toDateTime t).mpr ⟨hlow, hhigh⟩
  have hsplit : t.toDateTime.second = (t.secs % daySecs).toNat % 60 + t.nanos / 1000000000 := rfl
  obtain ⟨hvalid, hhour, hminute, -, hsecs, -⟩ := tells_toDateTime t
  rw [toDays_eq_counted hvalid hyear.1] at hsecs
  unfold daySecs at hsplit hsecs
  exact
    { valid := hvalid
      year := hyear
      hour := hhour
      minute := hminute
      second := by omega
      leap := by omega
      secs := by omega }

/-- What is less than a second is not shown. -/
theorem DateTime.Shows.with_nanos {d : DateTime} {t : Instant} (h : d.Shows t) (nanos : Nat) :
    { d with nanos := nanos }.Shows t where
  valid := h.valid
  year := h.year
  hour := h.hour
  minute := h.minute
  second := h.second
  leap := h.leap
  secs := h.secs

end NodeTelemetry.Time

namespace NodeTelemetry.Client

open Text

/-- An object with a kind and without a time is taken, and stamped. -/
theorem ofValue_untimed (now : Time.Instant) {v kind : Json} (hkind : v.get? Event.kindName = some kind)
    (huntimed : v.get? Event.timeName = none) :
    ∃ e, Event.ofValue now v = .ok e ∧ e.time = .str now.stamp := by
  cases v with
  | obj members =>
    have hfind : Keyed.find? Event.kindName members = some kind := hkind
    have hnone : Keyed.find? Event.timeName members = none := huntimed
    refine ⟨⟨kind, .str now.stamp, Keyed.erase Event.timeName (Keyed.erase Event.kindName members)⟩,
      ?_, rfl⟩
    simp only [Event.ofValue, hfind, hnone, Option.getD_none]
  | null | bool | int | real | str | arr => cases hkind

/-- A time that is a text is shown in the row of its event as a timestamp. -/
theorem EventRow.time_ofValue (p : Palette) {w : Json} {stamp : String}
    (h : w.get? Event.timeName = some (.str stamp)) :
    (EventRow.ofValue p w).time = timeText stamp := by
  cases w with
  | obj members =>
    have hfind : Keyed.find? Event.timeName members = some (.str stamp) := h
    show memberText timeText (Keyed.find? Event.timeName members) = timeText stamp
    rw [hfind]
    rfl
  | null | bool | int | real | str | arr => cases h

/-- A date and time with a year of four digits are shown in columns. -/
theorem display_eq {d : Time.DateTime} (h : 0 ≤ d.date.year ∧ d.date.year ≤ 9999) :
    d.display =
      padded 4 d.date.year.toNat ++ '-' :: padded 2 d.date.month ++ '-' :: padded 2 d.date.day ++
        ' ' :: padded 2 d.hour ++ ':' :: padded 2 d.minute ++ ':' :: padded 2 d.second := by
  unfold Time.DateTime.display Time.Date.text Time.DateTime.clockText Time.yearText
  rw [if_pos h]
  simp only [List.append_assoc, List.cons_append]

/-- **The stamp of an event shows the clock.** An event that is posted without a time is stamped with
the clock of its arrival, in the years 0 to 9999. The client takes the stamp for a timestamp and shows
it, alone and in its place in a table, as a date and a time of day of four and two digits each. Between
the start of 1970 and what is shown lie as many seconds as the clock counts, with a second 60 in a leap
second only. -/
theorem stamp_shows_clock {now : Time.Instant} (hclock : now.OfClock) {v kind : Json}
    (hkind : v.get? "type" = some kind) (huntimed : v.get? "ts" = none) :
    ∃ e stamp d, Event.ofValue now v = .ok e ∧ e.time = .str stamp ∧
      Time.readStrict stamp.toList = some d ∧ d.Shows now ∧
      timeText stamp = String.ofList
        (padded 4 d.date.year.toNat ++ '-' :: padded 2 d.date.month ++ '-' :: padded 2 d.date.day ++
          ' ' :: padded 2 d.hour ++ ':' :: padded 2 d.minute ++ ':' :: padded 2 d.second) ∧
      ∀ (p : Palette) (w : Json), w.get? "ts" = some e.time →
        (EventRow.ofValue p w).time = timeText stamp := by
  obtain ⟨e, hvalue, htime⟩ := ofValue_untimed now hkind huntimed
  have hyear := (Time.year_toDateTime now).mpr ⟨hclock.low, hclock.high⟩
  have hread := Time.readStrict_stamp hclock.nanos hyear.1 hyear.2
  have hshows := (Time.shows_toDateTime hclock).with_nanos (now.toDateTime.nanos / 1000000 * 1000000)
  have htext := display_eq hshows.year
  refine ⟨e, now.stamp, _, hvalue, htime, hread, hshows, ?_, fun p w hw => ?_⟩
  · unfold timeText
    rw [hread]
    exact congrArg String.ofList htext
  · rw [htime] at hw
    exact EventRow.time_ofValue p hw

/-- The end of the leap second after 2016. -/
def leapSecond : Time.Instant := ⟨1483228799, 1999999999⟩

/-- The leap second is shown as such, and counts as the last second of 2016. -/
theorem stamp_shows_clock_leap :
    leapSecond.OfClock ∧ (Json.obj [("type", .null)]).get? "type" = some .null ∧
      (Json.obj [("type", .null)]).get? "ts" = none ∧
      ∃ e, Event.ofValue leapSecond (.obj [("type", .null)]) = .ok e ∧
        e.time = .str "2016-12-31T23:59:60.999Z" ∧
        (⟨⟨2016, 12, 31⟩, 23, 59, 60, 999000000⟩ : Time.DateTime).Shows leapSecond ∧
        timeText "2016-12-31T23:59:60.999Z" = "2016-12-31 23:59:60" := by
  have hclock : leapSecond.OfClock := by decide
  have hkind : (Json.obj [("type", .null)]).get? "type" = some .null := rfl
  have huntimed : (Json.obj [("type", .null)]).get? "ts" = none := rfl
  obtain ⟨e, stamp, d, hvalue, htime, hread, hshows, htext, -⟩ :=
    stamp_shows_clock hclock hkind huntimed
  have hstamped : Event.ofValue leapSecond (.obj [("type", .null)]) =
      .ok ⟨.null, .str "2016-12-31T23:59:60.999Z", []⟩ := by rfl
  obtain rfl := Except.ok.inj (hvalue.symm.trans hstamped)
  obtain rfl := Json.str.inj htime
  have hcolumns : Time.readStrict "2016-12-31T23:59:60.999Z".toList =
      some ⟨⟨2016, 12, 31⟩, 23, 59, 60, 999000000⟩ := by rfl
  obtain rfl := Option.some.inj (hread.symm.trans hcolumns)
  exact ⟨hclock, hkind, huntimed, _, hvalue, rfl, hshows, htext⟩

end NodeTelemetry.Client
