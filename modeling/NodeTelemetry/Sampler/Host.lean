import NodeTelemetry.Sampler.Basic

/-!
# Sampling a host

On a host the three reads of a tick are reads of files: load and memory below the kernel's own root,
paging counters and block devices below a root that can be chosen. The files are given as a function
from paths to contents; reads of it come back at once.
-/

namespace NodeTelemetry

/-- The files of a host by path. -/
abbrev Files := String → FileContent

namespace Files

/-- The directory in which the kernel shows its tables. -/
def kernelRoot : String := "/proc"

/-- Reads load and memory at a time. -/
def readUsage (files : Files) (v : NodeView) (nowMs : Nat) :
    NodeView × Except ReadFault NodeUsage :=
  v.read nowMs (files (joinPath kernelRoot "stat")) (files (joinPath kernelRoot "meminfo"))

/-- Reads the paging counters below a root. -/
def readVmstat (files : Files) (root : String) : Except ReadFault Vmstat :=
  NodeTelemetry.readVmstat root (files (joinPath root "vmstat"))

/-- Reads the totals of the block devices below a root. -/
def readDisk (files : Files) (root : String) : Except ReadFault DiskTotals :=
  NodeTelemetry.readDisk root (files (joinPath root "diskstats"))

/-- The reads of a tick, and what is then known of the node. -/
def readings (files : Files) (root : String) (v : NodeView) (nowMs : Nat) : NodeView × Readings :=
  let (v, usage) := files.readUsage v nowMs
  (v, ⟨⟨some 0, usage⟩, ⟨some 0, files.readDisk root⟩, ⟨some 0, files.readVmstat root⟩⟩)

end Files

end NodeTelemetry
