import NodeTelemetry.Json.Typed

/-!
# Samples of resource usage

A sample is what the collector knows of its node at one time: the load of the processor, memory and
swap space in use, and per second rates of paging and faults since the sample before.

The wire form is an object with one member for each field, in the order of the fields here. The
collector reads the timestamp as a time, a client keeps its text.
-/

namespace NodeTelemetry

/-- The numbers of a sample. -/
structure Usage where
  /-- The load of the processor in percent. -/
  cpuPercent : Binary
  /-- Memory in use, in MiB. -/
  memUsedMb : UInt64
  /-- Memory in all, in MiB. -/
  memTotalMb : UInt64
  /-- Swap space in use, in MiB. -/
  swapUsedMb : UInt64
  /-- Swap space in all, in MiB. -/
  swapTotalMb : UInt64
  /-- Pages swapped in per second. -/
  pswpin : UInt64
  /-- Pages swapped out per second. -/
  pswpout : UInt64
  /-- Page faults per second. -/
  pgfault : UInt64
  /-- Major page faults per second. -/
  pgmajfault : UInt64
  /-- Pages paged in per second. -/
  pgpgin : UInt64
  /-- Pages paged out per second. -/
  pgpgout : UInt64
  /-- Bytes read from all block devices so far. -/
  diskReadBytes : UInt64
  /-- Bytes written to all block devices so far. -/
  diskWriteBytes : UInt64
  deriving DecidableEq, Repr

/-- The numbers of a sample of which nothing is known. -/
def Usage.zero : Usage :=
  ⟨Binary.zero false, 0, 0, 0, 0, 0, 0, 0, 0, 0, 0, 0, 0⟩

/-- A sample with a timestamp of type `τ`. -/
structure Stamped (τ : Type) where
  /-- When the sample was taken. -/
  timestamp : τ
  /-- Its numbers. -/
  usage : Usage
  deriving DecidableEq, Repr

/-- A sample as the collector keeps it. -/
abbrev Sample := Stamped Time.Instant

/-- A sample as a client receives it. -/
abbrev ReceivedSample := Stamped String

namespace Stamped

open Json

variable {τ : Type}

/-- The field of the timestamp, which `stamp` reads. -/
def stampField (stamp : (fuel : Nat) → Reader τ) : RecordField (Stamped τ) where
  name := "timestamp"
  read := fun fuel _ gs => do
    let (t, rest) ← stamp fuel gs
    return (fun s => { s with timestamp := t }, rest)
  optional := false

/-- The field of the load. -/
def loadField : RecordField (Stamped τ) where
  name := "cpu_percent"
  read := fun _ _ gs => do
    let (x, rest) ← Reader.real gs
    return (fun s => { s with usage := { s.usage with cpuPercent := x } }, rest)
  optional := false

/-- A field that holds a word. -/
def wordField (name : String) (set : UInt64 → Usage → Usage) : RecordField (Stamped τ) where
  name := name
  read := fun _ _ gs => do
    let (n, rest) ← Reader.natural gs
    return (fun s => { s with usage := set n s.usage }, rest)
  optional := false

/-- The wire form of samples whose timestamps `stamp` reads. -/
def schema (blank : τ) (stamp : (fuel : Nat) → Reader τ) : Schema (Stamped τ) where
  name := "ResourceSample"
  blank := ⟨blank, .zero⟩
  fields := [
    stampField stamp,
    loadField,
    wordField "mem_used_mb" (fun n u => { u with memUsedMb := n }),
    wordField "mem_total_mb" (fun n u => { u with memTotalMb := n }),
    wordField "swap_used_mb" (fun n u => { u with swapUsedMb := n }),
    wordField "swap_total_mb" (fun n u => { u with swapTotalMb := n }),
    wordField "pswpin" (fun n u => { u with pswpin := n }),
    wordField "pswpout" (fun n u => { u with pswpout := n }),
    wordField "pgfault" (fun n u => { u with pgfault := n }),
    wordField "pgmajfault" (fun n u => { u with pgmajfault := n }),
    wordField "pgpgin" (fun n u => { u with pgpgin := n }),
    wordField "pgpgout" (fun n u => { u with pgpgout := n }),
    wordField "disk_read_bytes" (fun n u => { u with diskReadBytes := n }),
    wordField "disk_write_bytes" (fun n u => { u with diskWriteBytes := n })]

/-- A word as a JSON value. -/
def word (n : UInt64) : Json := .int n.toNat

/-- The wire form of a sample, its timestamp written by `stamp`. -/
def toJson (stamp : τ → String) (s : Stamped τ) : Json :=
  let u := s.usage
  .obj [
    ("timestamp", .str (stamp s.timestamp)),
    ("cpu_percent", .real u.cpuPercent),
    ("mem_used_mb", word u.memUsedMb),
    ("mem_total_mb", word u.memTotalMb),
    ("swap_used_mb", word u.swapUsedMb),
    ("swap_total_mb", word u.swapTotalMb),
    ("pswpin", word u.pswpin),
    ("pswpout", word u.pswpout),
    ("pgfault", word u.pgfault),
    ("pgmajfault", word u.pgmajfault),
    ("pgpgin", word u.pgpgin),
    ("pgpgout", word u.pgpgout),
    ("disk_read_bytes", word u.diskReadBytes),
    ("disk_write_bytes", word u.diskWriteBytes)]

end Stamped

/-- The wire form of the collector's samples. -/
def Sample.schema : Json.Schema Sample := Stamped.schema default Json.Reader.timestamp

/-- A sample of the collector as a JSON value, its members in the order of the fields. -/
def Sample.toJson (s : Sample) : Json := Stamped.toJson Time.Instant.text s

/-- The wire form of the samples that a client receives. -/
def ReceivedSample.schema : Json.Schema ReceivedSample := Stamped.schema "" Json.Reader.text

/-- A sample of a client as a JSON value, its members in the order of the fields. -/
def ReceivedSample.toJson (s : ReceivedSample) : Json := Stamped.toJson id s

end NodeTelemetry
