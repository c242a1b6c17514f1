/-!
# The sources of counters

Each sample is put together from three reads: of load and memory, of the block devices, and of the
paging counters. Logs and metrics name a read by the label of its source.
-/

namespace NodeTelemetry

/-- A source of counters that is read for each sample. -/
inductive Source where
  /-- Load, memory and swap space. -/
  | usage
  /-- Totals of the block devices. -/
  | disk
  /-- Counters of paging and faults. -/
  | vmstat
  deriving DecidableEq, Repr

/-- The name of a source in logs and metrics. -/
def Source.label : Source → String
  | usage => "usage"
  | disk => "diskstats"
  | vmstat => "vmstat"

end NodeTelemetry
