import NodeTelemetry.Binary.Basic
import NodeTelemetry.Text.Blank
import NodeTelemetry.Text.Digits
import NodeTelemetry.Text.Utf8

/-!
# Load, memory and swap space

The load of the processor is measured between two looks at the kernel's time counters: the share of
the ticks in between that were spent on work. A look within 200 ms of the last one is not taken, and
shows what the last one showed. The share is computed with numbers of 32 bits.

Memory and swap space come from a table of names and amounts in KiB. An amount that the table lacks
keeps its last value; where the table does not say how much memory is available, it is estimated
from the amounts of free memory, buffers and caches.
-/

namespace NodeTelemetry

/-- Load, memory and swap space at one time. -/
structure NodeUsage where
  /-- The load of the processor in percent. -/
  cpuPercent : Binary
  /-- Memory in use, in bytes. -/
  memUsedBytes : UInt64
  /-- Memory in all, in bytes. -/
  memTotalBytes : UInt64
  /-- Swap space in use, in bytes. -/
  swapUsedBytes : UInt64
  /-- Swap space in all, in bytes. -/
  swapTotalBytes : UInt64
  deriving DecidableEq, Repr, Inhabited

namespace NodeUsage

/-- Nothing known. -/
def zero : NodeUsage := ⟨Binary.zero false, 0, 0, 0, 0⟩

/-- Bytes as whole MiB. -/
def toMb (bytes : UInt64) : UInt64 := bytes / 1048576

/-- Memory in use, in MiB. -/
def memUsedMb (u : NodeUsage) : UInt64 := toMb u.memUsedBytes

/-- Memory in all, in MiB. -/
def memTotalMb (u : NodeUsage) : UInt64 := toMb u.memTotalBytes

/-- Swap space in use, in MiB. -/
def swapUsedMb (u : NodeUsage) : UInt64 := toMb u.swapUsedBytes

/-- Swap space in all, in MiB. -/
def swapTotalMb (u : NodeUsage) : UInt64 := toMb u.swapTotalBytes

end NodeUsage

namespace Load

/-- A sum of words held at the largest word. -/
def sumWords (ns : List UInt64) : UInt64 :=
  UInt64.ofNat (ns.foldl (fun total n => min Text.maxWord (total + n.toNat)) 0)

/-- A difference of words held at zero. -/
def minus (a b : UInt64) : UInt64 := if a < b then 0 else a - b

/-! ### The processor -/

/-- The processor's ticks: those spent on work and all of them. -/
structure Ticks where
  /-- Ticks spent on work. -/
  work : UInt64
  /-- All ticks. -/
  total : UInt64
  deriving DecidableEq, Repr

/-- The number that a list of bytes writes as digits, kept to its lowest 64 bits. -/
def wrappedNumber (bytes : List UInt8) : UInt64 :=
  bytes.foldl (fun n b => n * 10 + (b - 0x30).toUInt64) 0

/-- The longest runs of bytes other than the blank. -/
def fields (line : List UInt8) : List (List UInt8) :=
  let runs := line.foldl
    (fun (acc : List (List UInt8) × List UInt8) b =>
      if b = 0x20 then (acc.2.reverse :: acc.1, []) else (acc.1, b :: acc.2)) ([], [])
  ((runs.2.reverse :: runs.1).reverse).filter (!·.isEmpty)

/-- The ticks of a line of the processor's time counters, its name dropped. Time given to guests is
counted once. -/
def Ticks.ofFields (values : List UInt64) : Ticks :=
  let at' (i : Nat) : UInt64 := values.getD i 0
  let guest := at' 8
  let guestNice := at' 9
  let work := sumWords [minus (at' 0) guest, minus (at' 1) guestNice, at' 2, at' 5, at' 6]
  ⟨work, sumWords [work, at' 3, at' 4, guest, guestNice, at' 7]⟩

/-- The name that begins the line of all processors, and the blank after it. -/
def allProcessors : List UInt8 := [0x63, 0x70, 0x75, 0x20]

/-- What each line of a single processor begins with. -/
def oneProcessor : List UInt8 := [0x63, 0x70, 0x75]

/-- The lines of a table. A line feed ends each; after the last one there may be one more line,
unless it is empty. -/
def tableLines (content : List UInt8) : List (List UInt8) :=
  let runs := content.foldl
    (fun (acc : List (List UInt8) × List UInt8) b =>
      if b = 0x0A then (acc.2.reverse :: acc.1, []) else (acc.1, b :: acc.2)) ([], [])
  (if runs.2.isEmpty then runs.1 else runs.2.reverse :: runs.1).reverse

/-- A table of time counters. -/
structure TimeTable where
  /-- The ticks of all processors. -/
  ticks : Ticks
  /-- How many processors it lists. -/
  cores : Nat
  deriving DecidableEq, Repr

/-- How many lines of single processors a table goes on with. Nothing, if one of its lines is too
short to tell. -/
def countCores (cores : Nat) : List (List UInt8) → Option Nat
  | [] => some cores
  | line :: rest =>
    if line.length < oneProcessor.length then none
    else if line.take oneProcessor.length = oneProcessor then countCores (cores + 1) rest
    else some cores

/-- What reading a table of time counters gives. -/
inductive TimeReading where
  /-- No counters: the first line is missing, or is that of something else. -/
  | nothing
  /-- The counters. -/
  | table (t : TimeTable)
  /-- A line is too short to be told apart from others, which the reader does not survive. -/
  | broken
  deriving DecidableEq, Repr

/-- Reads a table of time counters. -/
def TimeReading.ofTable (content : List UInt8) : TimeReading :=
  match tableLines content with
  | [] => .nothing
  | line :: rest =>
    if line.length < allProcessors.length then .broken
    else if line.take allProcessors.length = allProcessors then
      match countCores 0 rest with
      | some cores => .table ⟨.ofFields (((fields line).drop 1).map wrappedNumber), cores⟩
      | none => .broken
    else .nothing

/-- The share of work between two looks in percent, at most 100. -/
def share (before after : Ticks) : Binary :=
  let grown (a b : UInt64) (least : Nat) : Binary :=
    Binary.ofNat .single (if a < b then (b - a).toNat else least)
  let ratio := (grown before.work after.work 0).div .single (grown before.total after.total 1)
  let percent := ratio.mul .single (Binary.ofNat .single 100)
  if (Binary.ofNat .single 100).lt percent then Binary.ofNat .single 100 else percent

/-- What is known of the processor. -/
structure Processor where
  /-- When it was last looked at, in milliseconds. -/
  looked : Option Nat
  /-- The ticks of the last look. -/
  ticks : Ticks
  /-- The share of work that the last look showed. -/
  percent : Binary
  /-- How many cores it has: what the first table that listed any said, zero before. -/
  cores : Nat
  deriving DecidableEq, Repr

/-- A processor that was never looked at. -/
def Processor.fresh : Processor := ⟨none, ⟨0, 0⟩, Binary.zero false, 0⟩

/-- The time within which a second look is not taken, in milliseconds. -/
def leastLookMs : Nat := 200

/-- Looks at the processor at a time. `content` is its table, if that can be read. A look fails at a
broken table, and at one that lists more cores than there are. -/
def Processor.look (p : Processor) (now : Nat) (content : Option (List UInt8)) : Option Processor :=
  let due := match p.looked with | none => true | some t => t + leastLookMs < now
  if !due then some p
  else
    match (content.map TimeReading.ofTable).getD .nothing with
    | .nothing => some { p with looked := some now }
    | .broken => none
    | .table t =>
      if p.cores ≠ 0 ∧ p.cores < t.cores then none
      else
        some ⟨some now, t.ticks, share p.ticks t.ticks, if p.cores = 0 then t.cores else p.cores⟩

/-! ### Memory -/

/-- Amounts of memory in bytes. -/
structure Memory where
  /-- All memory. -/
  total : UInt64
  /-- Memory not used for anything. -/
  free : UInt64
  /-- Memory that programs could get. -/
  available : UInt64
  /-- Buffers. -/
  buffers : UInt64
  /-- Cached files. -/
  cached : UInt64
  /-- Shared memory. -/
  shared : UInt64
  /-- Caches of the kernel that it can give back. -/
  reclaimable : UInt64
  /-- All swap space. -/
  swapTotal : UInt64
  /-- Swap space not in use. -/
  swapFree : UInt64
  deriving DecidableEq, Repr

/-- Memory of which nothing is known. -/
def Memory.unknown : Memory := ⟨0, 0, 0, 0, 0, 0, 0, 0, 0⟩

/-- KiB as bytes, held at the largest word. -/
def kibibytes (n : Nat) : UInt64 := UInt64.ofNat (min Text.maxWord (n * 1024))

/-- The name and the amount of a line. -/
def amount? (line : List Char) : Option (String × UInt64) :=
  match Text.splitOn (· == ':') line with
  | name :: value :: _ =>
    (Text.word? ((Text.trimStart value).takeWhile (· != ' '))).map
      (fun n => (String.ofList name, kibibytes n))
  | _ => none

/-- Sets the amount of a name. -/
def Memory.set (m : Memory) (entry : String × UInt64) : Memory :=
  match entry with
  | ("MemTotal", n) => { m with total := n }
  | ("MemFree", n) => { m with free := n }
  | ("MemAvailable", n) => { m with available := n }
  | ("Buffers", n) => { m with buffers := n }
  | ("Cached", n) => { m with cached := n }
  | ("Shmem", n) => { m with shared := n }
  | ("SReclaimable", n) => { m with reclaimable := n }
  | ("SwapTotal", n) => { m with swapTotal := n }
  | ("SwapFree", n) => { m with swapFree := n }
  | _ => m

/-- Looks at the memory. `content` is its table, if that can be read as text. -/
def Memory.look (m : Memory) (content : Option String) : Memory :=
  let entries := match content with
    | none => []
    | some s => (Text.splitOn (· == '\n') s.toList).filterMap amount?
  let m := entries.foldl Memory.set m
  if entries.any (fun e => e.1 == "MemAvailable") then m
  else
    { m with
      available := minus (sumWords [m.free, m.buffers, m.cached, m.reclaimable]) m.shared }

end Load

end NodeTelemetry
