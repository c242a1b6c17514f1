import NodeTelemetry.Counters.Disk
import NodeTelemetry.Counters.Load
import NodeTelemetry.Counters.SystemError
import NodeTelemetry.Counters.Vmstat

/-!
# Reading counters from files

The kernel shows its counters as files below a root directory. A file can be missing or unreadable,
its bytes can be no text, and a table of paging counters can be empty; each is a fault of the read.
A fault has layers: what was attempted, and what the system said.

Load and memory are always read from the kernel's own root. Their files may be missing; the read
fails only if the memory of the node is unknown.
-/

namespace NodeTelemetry

/-- What the system says of a file that cannot be read. -/
inductive FileFault where
  /-- An error of the system, by its number. -/
  | system (number : Nat)
  /-- The bytes are no text. -/
  | notText
  deriving DecidableEq, Repr

/-- The wording of a file's fault. -/
def FileFault.text : FileFault → String
  | system n => systemErrorText n
  | notText => "stream did not contain valid UTF-8"

/-- A file: its bytes, or the number of the error that reading it meets. -/
abbrev FileContent := Except Nat (List UInt8)

/-- A file that is not there. -/
def missingFile : FileContent := .error 2

/-- The text of a file. -/
def FileContent.text (f : FileContent) : Except FileFault String :=
  match f with
  | .error n => .error (.system n)
  | .ok bytes =>
    match Utf8.text? bytes with
    | some s => .ok s
    | none => .error .notText

/-- Why counters cannot be read. -/
inductive ReadFault where
  /-- A file cannot be read. -/
  | unreadable (path : String) (fault : FileFault)
  /-- A table has no counters. -/
  | noCounters (path : String)
  /-- The memory of the node is unknown. -/
  | memoryUnknown
  /-- The read broke off at a table that it does not survive. -/
  | brokenOff
  /-- An earlier read has not come back. -/
  | stillReading
  /-- The read took too long. -/
  | timedOut (limitMs : Nat)
  /-- A fault of some other source, in its own words. -/
  | other (layers : List String)
  deriving DecidableEq, Repr

/-- The layers of a fault, the outermost first. -/
def ReadFault.layers : ReadFault → List String
  | unreadable path fault => ["Failed to read " ++ path, fault.text]
  | noCounters path => ["No counters found in " ++ path]
  | memoryUnknown => ["Memory counters unavailable"]
  | brokenOff => ["Usage read task failed", "task panicked"]
  | stillReading => ["Previous usage read still in progress"]
  | timedOut limitMs => ["Read timed out after " ++ toString limitMs ++ "ms"]
  | other layers => layers

/-- The path of a name below a directory. An empty directory adds nothing. -/
def joinPath (root name : String) : String :=
  if root.isEmpty ∨ root.toList.getLast? = some '/' then root ++ name else root ++ "/" ++ name

/-- Reads the text of a file below a root. -/
def readBelow (root name : String) (f : FileContent) : Except ReadFault String :=
  match f.text with
  | .ok s => .ok s
  | .error e => .error (.unreadable (joinPath root name) e)

/-- Reads the paging counters. A table without counters is a fault, so counters that were read are
never replaced by none. -/
def readVmstat (root : String) (f : FileContent) : Except ReadFault Vmstat := do
  let content ← readBelow root "vmstat" f
  let counters := Vmstat.parse content
  if counters.isEmpty then .error (.noCounters (root ++ "/vmstat")) else .ok counters

/-- Reads the totals of the block devices. -/
def readDisk (root : String) (f : FileContent) : Except ReadFault DiskTotals := do
  let content ← readBelow root "diskstats" f
  return DiskTotals.parse content

/-- What is known of the node between two reads of load and memory. -/
structure NodeView where
  /-- The processor. -/
  processor : Load.Processor
  /-- The memory. -/
  memory : Load.Memory
  /-- Whether a read broke off: it never gives the view back, and later reads cannot have it. -/
  stuck : Bool
  deriving DecidableEq, Repr

namespace NodeView

/-- A node that was never looked at. -/
def fresh : NodeView := ⟨.fresh, .unknown, false⟩

/-- The bytes of a file, if it can be read. -/
def bytes? (f : FileContent) : Option (List UInt8) :=
  match f with
  | .ok bs => some bs
  | .error _ => none

/-- The text of a file, if it can be read. -/
def text? (f : FileContent) : Option String :=
  match f.text with
  | .ok s => some s
  | .error _ => none

/-- What a view shows of load and memory, unless the memory is unknown. -/
def usage (v : NodeView) : Except ReadFault NodeUsage :=
  let m := v.memory
  if m.total = 0 then .error .memoryUnknown
  else
    let percent := v.processor.percent.convert .double
    .ok
      { cpuPercent := if percent.isFinite then percent else Binary.zero false
        memUsedBytes := m.total - m.available
        memTotalBytes := m.total
        swapUsedBytes := m.swapTotal - m.swapFree
        swapTotalBytes := m.swapTotal }

/-- Reads load and memory at a time in milliseconds. -/
def read (v : NodeView) (nowMs : Nat) (stat meminfo : FileContent) :
    NodeView × Except ReadFault NodeUsage :=
  if v.stuck then (v, .error .stillReading)
  else
    match v.processor.look nowMs (bytes? stat) with
    | none => ({ v with stuck := true }, .error .brokenOff)
    | some processor =>
      let v : NodeView := ⟨processor, v.memory.look (text? meminfo), false⟩
      (v, v.usage)

end NodeView

end NodeTelemetry
