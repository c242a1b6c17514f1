import NodeTelemetry.Client.Display
import NodeTelemetry.Json.Writer
import NodeTelemetry.Sample
import NodeTelemetry.Text.Table

/-!
# Listings of a history

A sample or an event is shown as a row of texts. Rows stand in a table, or one by one on a line of
their own when a history is followed.
-/

namespace NodeTelemetry.Client

/-- A sample as it is shown. -/
structure SampleRow where
  /-- The time. -/
  time : String
  /-- The load of the processor. -/
  load : String
  /-- The memory in use. -/
  memory : String
  /-- The swap space in use. -/
  swap : String
  /-- The page faults. -/
  faults : String
  /-- The traffic with the swap space. -/
  swapping : String
  /-- The traffic of the block devices. -/
  disk : String
  deriving DecidableEq, Repr

namespace SampleRow

/-- The row of a sample. -/
def ofSample (p : Palette) (s : ReceivedSample) : SampleRow :=
  let u := s.usage
  { time := timeText s.timestamp
    load := loadText p u.cpuPercent
    memory := usageText u.memUsedMb u.memTotalMb
    swap := usageText u.swapUsedMb u.swapTotalMb
    faults := wordText u.pgfault ++ " (" ++ wordText u.pgmajfault ++ " major)"
    swapping := wordText u.pswpin ++ "/" ++ wordText u.pswpout
    disk := bytesText u.diskReadBytes ++ "/" ++ bytesText u.diskWriteBytes }

/-- The headings of a table of samples. -/
def headings : List String :=
  ["Timestamp", "CPU", "Memory", "Swap", "Faults/s", "Swap In/Out", "Disk R/W"]

/-- The cells of a row. -/
def cells (r : SampleRow) : List String :=
  [r.time, r.load, r.memory, r.swap, r.faults, r.swapping, r.disk]

/-- The row on a line. -/
def line (r : SampleRow) : String :=
  r.time ++ "  cpu " ++ r.load ++ "  mem " ++ r.memory ++ "  faults/s " ++ r.faults ++
    "  disk " ++ r.disk

end SampleRow

/-- An event as it is shown. -/
structure EventRow where
  /-- The time. -/
  time : String
  /-- The kind. -/
  kind : String
  /-- The other members, as JSON. -/
  fields : String
  deriving DecidableEq, Repr

namespace EventRow

/-- The text of a member: a string as `f` shows it, anything else as JSON, and nothing if the member
is missing. -/
def memberText (f : String → String) : Option Json → String
  | none => ""
  | some (.str s) => f s
  | some v => v.compact

/-- The row of a value. What is no object has no members. -/
def ofValue (p : Palette) (v : Json) : EventRow :=
  let members := v.members?.getD []
  let rest := members.filter (fun m => m.1 != "ts" && m.1 != "type")
  { time := memberText timeText (Keyed.find? "ts" members)
    kind := p.paint cyan (memberText id (Keyed.find? "type" members))
    fields := (Json.obj rest).compact }

/-- The headings of a table of events. -/
def headings : List String := ["Timestamp", "Type", "Fields"]

/-- The cells of a row. -/
def cells (r : EventRow) : List String := [r.time, r.kind, r.fields]

/-- The row on a line. -/
def line (r : EventRow) : String := r.time ++ "  " ++ r.kind ++ "  " ++ r.fields

end EventRow

/-- What is shown of a history with no entries. -/
def nothingKept (p : Palette) : String := p.paint yellow "No entries retained"

/-- A table of rows, or the word that there are none. -/
def tableText (p : Palette) (headings : List String) (rows : List (List String)) : String :=
  if rows.isEmpty then nothingKept p else Text.Table.draw headings rows

/-- A message of success. -/
def successText (p : Palette) (message : String) : String := p.paint boldGreen "✓" ++ " " ++ message

/-- A message that informs. -/
def noticeText (p : Palette) (message : String) : String := p.paint boldBlue "ℹ" ++ " " ++ message

end NodeTelemetry.Client
