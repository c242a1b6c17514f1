import NodeTelemetry.Binary.Layout
import NodeTelemetry.Counters.Source
import NodeTelemetry.Scope

/-!
# Metrics of the collector

What the collector counts about itself, and the two ways in which it shows it: as a list of series
with their values (`Metrics.series`), and as the text of the exposition format
(`Metrics.exposition`), where each family of series has a line of help and a line of its type.

The histogram of sampling times counts, for each bound, the times that are at most it.
-/

namespace NodeTelemetry

namespace Metrics

/-- The bounds of the histogram in seconds, as decimals: digits and places. -/
def bounds : List (Nat × Nat) :=
  [(1, 4), (5, 4), (1, 3), (25, 4), (5, 3), (1, 2), (25, 3), (5, 2), (1, 1), (25, 2), (5, 1),
    (1, 0)]

/-- The value of a bound. -/
def boundValue (b : Nat × Nat) : Binary := Binary.ofQuotient .double false b.1 (Nat.pow 10 b.2)

/-- The text of a bound. -/
def boundText (b : Nat × Nat) : String :=
  String.ofList (Binary.plain.render .double (boundValue b))

/-- A histogram of times. -/
structure Histogram where
  /-- For each bound, how many times are at most it. -/
  within : List Nat
  /-- How many times there are. -/
  total : Nat
  deriving DecidableEq, Repr

/-- The histogram of no times. -/
def Histogram.empty : Histogram := ⟨bounds.map (fun _ => 0), 0⟩

/-- Counts a time in seconds. -/
def Histogram.observe (h : Histogram) (secs : Binary) : Histogram :=
  ⟨h.within.zipWith (fun n b => if secs.le (boundValue b) then n + 1 else n) bounds, h.total + 1⟩

end Metrics

/-- What the collector counts. -/
structure Metrics where
  /-- Samples taken. -/
  samples : Nat
  /-- Reads of load, memory and swap space that failed. -/
  usageErrors : Nat
  /-- Reads of the block devices that failed. -/
  diskErrors : Nat
  /-- Reads of paging counters that failed. -/
  vmstatErrors : Nat
  /-- Events accepted. -/
  ingested : Nat
  /-- Events refused. -/
  rejected : Nat
  /-- Samples kept, when last counted. -/
  statsItems : Nat
  /-- Events kept, when last counted. -/
  eventsItems : Nat
  /-- Streams that are open. -/
  activeStreams : Int
  /-- Answers that could not be written. -/
  encodeFailures : Nat
  /-- Times spent on samples. -/
  latency : Metrics.Histogram
  deriving DecidableEq, Repr

namespace Metrics

/-- The metrics before anything has happened. -/
def zero : Metrics := ⟨0, 0, 0, 0, 0, 0, 0, 0, 0, 0, .empty⟩

/-- Counts a sample. -/
def countSample (m : Metrics) : Metrics := { m with samples := m.samples + 1 }

/-- Counts a failed read. -/
def countReadError (m : Metrics) : Source → Metrics
  | .usage => { m with usageErrors := m.usageErrors + 1 }
  | .disk => { m with diskErrors := m.diskErrors + 1 }
  | .vmstat => { m with vmstatErrors := m.vmstatErrors + 1 }

/-- The failed reads of a source. -/
def readErrors (m : Metrics) : Source → Nat
  | .usage => m.usageErrors
  | .disk => m.diskErrors
  | .vmstat => m.vmstatErrors

/-- Counts an accepted event. -/
def countIngested (m : Metrics) : Metrics := { m with ingested := m.ingested + 1 }

/-- Counts a refused event. -/
def countRejected (m : Metrics) : Metrics := { m with rejected := m.rejected + 1 }

/-- Notes the length of a history. -/
def setItems (m : Metrics) (items : Nat) : Scope → Metrics
  | .stats => { m with statsItems := items }
  | .events => { m with eventsItems := items }

/-- Counts a stream that opens. -/
def openStream (m : Metrics) : Metrics := { m with activeStreams := m.activeStreams + 1 }

/-- Counts a stream that closes. -/
def closeStream (m : Metrics) : Metrics := { m with activeStreams := m.activeStreams - 1 }

/-- Counts an answer that could not be written. -/
def countEncodeFailure (m : Metrics) : Metrics := { m with encodeFailures := m.encodeFailures + 1 }

/-- Counts the time spent on a sample, in seconds. -/
def observeLatency (m : Metrics) (secs : Binary) : Metrics :=
  { m with latency := m.latency.observe secs }

/-! ### Showing metrics -/

/-- The level that shows a length: levels are signed and have 64 bits. -/
def level (items : Nat) : Int := (items : Int).bmod (Nat.pow 2 64)

/-- The kind of a family of series. -/
inductive Kind where
  /-- A count that only grows. -/
  | counter
  /-- A level. -/
  | gauge
  /-- Counts by bounds. -/
  | histogram
  deriving DecidableEq, Repr

/-- The name of a kind. -/
def Kind.name : Kind → String
  | counter => "counter"
  | gauge => "gauge"
  | histogram => "histogram"

/-- A family of series. -/
structure Family where
  /-- The name. -/
  name : String
  /-- What it counts. -/
  help : String
  /-- The kind. -/
  kind : Kind
  /-- The series, each as the end of its name, its labels and its value. -/
  series : List (String × List (String × String) × Int)

/-- The name of a series: the family's, the end and the labels. -/
def seriesName (family ending : String) (labels : List (String × String)) : String :=
  let shown := ",".intercalate (labels.map fun l => l.1 ++ "=\"" ++ l.2 ++ "\"")
  family ++ ending ++ (if labels.isEmpty then "" else "\x7b" ++ shown ++ "\x7d")

/-- The series of a histogram: a bucket for each bound, one for all times, and the count. -/
def Histogram.series (h : Histogram) : List (String × List (String × String) × Int) :=
  (bounds.zipWith (fun b (n : Nat) => ("_bucket", [("le", boundText b)], (n : Int))) h.within) ++
    [("_bucket", [("le", "+Inf")], (h.total : Int)), ("_count", [], (h.total : Int))]

/-- All families, in the order of their names. -/
def families (m : Metrics) : List Family :=
  [ ⟨"node_collector_active_streams", "Streaming clients currently connected", .gauge,
      [("", [], m.activeStreams)]⟩,
    ⟨"node_collector_counter_read_errors_total", "Counter reads that failed and were degraded",
      .counter,
      [Source.disk, Source.usage, Source.vmstat].map fun s =>
        ("", [("source", s.label)], (m.readErrors s : Int))⟩,
    ⟨"node_collector_encode_failures_total", "Response payloads that could not be encoded",
      .counter,
      [("", [], m.encodeFailures)]⟩,
    ⟨"node_collector_events_ingested_total", "Events accepted by the ingest endpoint", .counter,
      [("", [], m.ingested)]⟩,
    ⟨"node_collector_events_rejected_total", "Events rejected by the ingest endpoint", .counter,
      [("", [], m.rejected)]⟩,
    ⟨"node_collector_history_items", "Entries currently retained per history buffer", .gauge,
      [("", [("buffer", Scope.events.label)], level m.eventsItems),
        ("", [("buffer", Scope.stats.label)], level m.statsItems)]⟩,
    ⟨"node_collector_sample_latency_seconds", "Time spent reading node counters for one sample",
      .histogram, m.latency.series⟩,
    ⟨"node_collector_samples_total", "Total number of resource samples recorded", .counter,
      [("", [], m.samples)]⟩ ]

/-- The series that are not zero, by name. -/
def series (m : Metrics) : List (String × Int) :=
  m.families.flatMap fun f =>
    (f.series.map fun s => (seriesName f.name s.1 s.2.1, s.2.2)).filter (fun s => s.2 != 0)

/-- The text of an integer. -/
def intText (i : Int) : String := String.ofList (Text.signed i)

/-- The lines of a family. -/
def Family.lines (f : Family) : List String :=
  ["# HELP " ++ f.name ++ " " ++ f.help, "# TYPE " ++ f.name ++ " " ++ f.kind.name] ++
    f.series.map fun s => seriesName f.name s.1 s.2.1 ++ " " ++ intText s.2.2

/-- The text of the exposition format. -/
def exposition (m : Metrics) : String :=
  String.join ((m.families.flatMap Family.lines).map (· ++ "\n"))

end Metrics

end NodeTelemetry
