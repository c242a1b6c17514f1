import NodeTelemetry.Event
import NodeTelemetry.Health
import NodeTelemetry.History
import NodeTelemetry.Metrics
import NodeTelemetry.Sample

/-!
# What the collector keeps

The collector keeps the newest samples and the newest events, the health of its components and the
metrics about itself. The sampler and the two surfaces write to it.
-/

namespace NodeTelemetry

/-- What the collector keeps. -/
structure Store where
  /-- The samples. -/
  samples : History Sample
  /-- The events. -/
  events : History Event
  /-- The health of the components. -/
  health : Health.Registry
  /-- The metrics. -/
  metrics : Metrics

namespace Store

/-- Nothing is kept yet; each history has the same capacity. -/
def empty (capacity : Nat) : Store := ⟨.empty capacity, .empty capacity, .empty, .zero⟩

/-- The entries of a history as JSON values, oldest first. -/
def entries (s : Store) : Scope → List Json
  | .stats => s.samples.snapshot.map Sample.toJson
  | .events => s.events.snapshot.map Event.toJson

/-- The newest entry of a history as a JSON value, if there is one. -/
def newest? (s : Store) : Scope → Option Json
  | .stats => s.samples.latest?.map Sample.toJson
  | .events => s.events.latest?.map Event.toJson

/-- Keeps a sample. -/
def keepSample (s : Store) (sample : Sample) : Store :=
  { s with samples := s.samples.append sample }

/-- Keeps an event and counts it. -/
def keepEvent (s : Store) (event : Event) : Store :=
  let events := s.events.append event
  { s with events := events, metrics := s.metrics.countIngested.setItems events.length .events }

/-- Counts an event that is refused. -/
def countRejected (s : Store) : Store := { s with metrics := s.metrics.countRejected }

end Store

end NodeTelemetry
