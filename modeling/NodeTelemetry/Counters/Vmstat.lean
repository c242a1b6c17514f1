import NodeTelemetry.Binary.Basic
import NodeTelemetry.Keyed
import NodeTelemetry.Text.Blank
import NodeTelemetry.Text.Digits
import NodeTelemetry.Time.Calendar

/-!
# Paging counters and their rates

The kernel shows its paging counters as lines of a name and a value. A line counts if it is exactly
two words and the second is a number of 64 bits; of several lines for one name the last one counts.

A rate is the growth of a counter over a span, in whole units per second, a half rounded up. A
counter that has fallen, or that one of the two snapshots lacks, has the rate zero.
-/

namespace NodeTelemetry

/-- The values of the paging counters at one time. -/
abbrev Vmstat := Keyed UInt64

namespace Vmstat

/-- The name and value that a line gives. -/
def lineEntry? (line : List Char) : Option (String × UInt64) :=
  match Text.words line with
  | [name, value] => (Text.word? value).map (fun n => (String.ofList name, UInt64.ofNat n))
  | _ => none

/-- The counters of a text. -/
def parse (content : String) : Vmstat :=
  Keyed.ofList ((Text.lines content.toList).filterMap lineEntry?)

end Vmstat

/-- A span in seconds as a binary number. -/
def Time.Span.seconds (s : Time.Span) : Binary :=
  (Binary.ofNat .double s.secs).add .double
    ((Binary.ofNat .double s.nanos).div .double (Binary.ofNat .double 1000000000))

/-- The growth of a counter per second. -/
def ratePerSecond (previous current : UInt64) (elapsed : Time.Span) : UInt64 :=
  let secs := elapsed.seconds
  if secs.le (Binary.zero false) ∨ current < previous then 0
  else
    let growth := Binary.ofNat .double (current.toNat - previous.toNat)
    UInt64.ofNat ((growth.div .double secs).toNatSaturating Text.maxWord)

/-- The rates of paging and faults. -/
structure Rates where
  /-- Pages swapped in. -/
  pswpin : UInt64
  /-- Pages swapped out. -/
  pswpout : UInt64
  /-- Page faults. -/
  pgfault : UInt64
  /-- Major page faults. -/
  pgmajfault : UInt64
  /-- Pages paged in. -/
  pgpgin : UInt64
  /-- Pages paged out. -/
  pgpgout : UInt64
  deriving DecidableEq, Repr

namespace Rates

/-- No paging at all. -/
def zero : Rates := ⟨0, 0, 0, 0, 0, 0⟩

/-- The rate of one counter between two snapshots. -/
def rateOf (previous current : Vmstat) (elapsed : Time.Span) (name : String) : UInt64 :=
  match Keyed.find? name previous, Keyed.find? name current with
  | some p, some c => ratePerSecond p c elapsed
  | _, _ => 0

/-- The rates between two snapshots taken a span apart. -/
def between (previous current : Vmstat) (elapsed : Time.Span) : Rates :=
  let rate := rateOf previous current elapsed
  { pswpin := rate "pswpin"
    pswpout := rate "pswpout"
    pgfault := rate "pgfault"
    pgmajfault := rate "pgmajfault"
    pgpgin := rate "pgpgin"
    pgpgout := rate "pgpgout" }

end Rates

end NodeTelemetry
