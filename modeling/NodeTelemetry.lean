import NodeTelemetry.Binary.Basic
import NodeTelemetry.Binary.Decimal
import NodeTelemetry.Binary.Layout
import NodeTelemetry.Binary.Shortest
import NodeTelemetry.Client.Address
import NodeTelemetry.Client.Display
import NodeTelemetry.Client.Field
import NodeTelemetry.Client.Frames
import NodeTelemetry.Client.Host
import NodeTelemetry.Client.Invocation
import NodeTelemetry.Client.Listing
import NodeTelemetry.Client.Message
import NodeTelemetry.Client.Reply
import NodeTelemetry.Client.Session
import NodeTelemetry.Collector.Config
import NodeTelemetry.Collector.Launch
import NodeTelemetry.CommandLine.Grammar
import NodeTelemetry.Counters.Disk
import NodeTelemetry.Counters.Files
import NodeTelemetry.Counters.Load
import NodeTelemetry.Counters.Source
import NodeTelemetry.Counters.SystemError
import NodeTelemetry.Counters.Vmstat
import NodeTelemetry.Domain.Direction.Basic
import NodeTelemetry.Domain.Direction.Kinds
import NodeTelemetry.Domain.Joining.Basic
import NodeTelemetry.Domain.Joining.Kinds
import NodeTelemetry.Domain.Mapping.Basic
import NodeTelemetry.Domain.Mapping.Images
import NodeTelemetry.Domain.Mapping.Standing
import NodeTelemetry.Domain.Name
import NodeTelemetry.Domain.Punycode
import NodeTelemetry.Event
import NodeTelemetry.Health
import NodeTelemetry.History
import NodeTelemetry.Json.Basic
import NodeTelemetry.Json.Fault
import NodeTelemetry.Json.Reader
import NodeTelemetry.Json.Scan
import NodeTelemetry.Json.Typed
import NodeTelemetry.Json.Writer
import NodeTelemetry.Keyed
import NodeTelemetry.Log
import NodeTelemetry.Log.Directive
import NodeTelemetry.Log.Filter
import NodeTelemetry.Log.Pattern
import NodeTelemetry.Main
import NodeTelemetry.Metrics
import NodeTelemetry.Proofs.Binary.Rounding
import NodeTelemetry.Proofs.Binary.Shortest
import NodeTelemetry.Proofs.Client.Cuts
import NodeTelemetry.Proofs.Client.Decoding
import NodeTelemetry.Proofs.Client.Field
import NodeTelemetry.Proofs.Client.Following
import NodeTelemetry.Proofs.Client.Frames
import NodeTelemetry.Proofs.Client.History
import NodeTelemetry.Proofs.Client.Printed
import NodeTelemetry.Proofs.Client.Refusals
import NodeTelemetry.Proofs.Client.Samples
import NodeTelemetry.Proofs.Counters.Disk
import NodeTelemetry.Proofs.Event
import NodeTelemetry.Proofs.Health
import NodeTelemetry.Proofs.History
import NodeTelemetry.Proofs.History.Handles
import NodeTelemetry.Proofs.Json.Enclosed
import NodeTelemetry.Proofs.Json.Layout
import NodeTelemetry.Proofs.Json.Numbers
import NodeTelemetry.Proofs.Json.Ordered
import NodeTelemetry.Proofs.Json.Reader
import NodeTelemetry.Proofs.Json.Records
import NodeTelemetry.Proofs.Json.RoundTrip
import NodeTelemetry.Proofs.Json.Scaling
import NodeTelemetry.Proofs.Json.Sound
import NodeTelemetry.Proofs.Json.Strings
import NodeTelemetry.Proofs.Json.Writer
import NodeTelemetry.Proofs.Keyed
import NodeTelemetry.Proofs.Lists
import NodeTelemetry.Proofs.Sampler.Accounting
import NodeTelemetry.Proofs.Sampler.Deadlines
import NodeTelemetry.Proofs.Sampler.Health
import NodeTelemetry.Proofs.Sampler.Pace
import NodeTelemetry.Proofs.Sampler.Samples
import NodeTelemetry.Proofs.Sampler.Ticks
import NodeTelemetry.Proofs.Service.Connections
import NodeTelemetry.Proofs.Service.Counts
import NodeTelemetry.Proofs.Service.Ingest
import NodeTelemetry.Proofs.Service.Isolation
import NodeTelemetry.Proofs.Service.Kept
import NodeTelemetry.Proofs.Service.Logs
import NodeTelemetry.Proofs.Service.OpenStreams
import NodeTelemetry.Proofs.Service.Probes
import NodeTelemetry.Proofs.Service.Queries
import NodeTelemetry.Proofs.Service.Run
import NodeTelemetry.Proofs.Service.Schedule
import NodeTelemetry.Proofs.Service.Sender
import NodeTelemetry.Proofs.Service.Senders
import NodeTelemetry.Proofs.Service.Streams
import NodeTelemetry.Proofs.Service.Trace
import NodeTelemetry.Proofs.Subscription
import NodeTelemetry.Proofs.Subscription.Instants
import NodeTelemetry.Proofs.Text.Ascii
import NodeTelemetry.Proofs.Text.Digits
import NodeTelemetry.Proofs.Text.Lines
import NodeTelemetry.Proofs.Text.Utf8
import NodeTelemetry.Proofs.Time.Calendar
import NodeTelemetry.Proofs.Time.Stamp
import NodeTelemetry.Sample
import NodeTelemetry.Sampler.Basic
import NodeTelemetry.Sampler.Host
import NodeTelemetry.Scope
import NodeTelemetry.Service.Basic
import NodeTelemetry.Service.Form
import NodeTelemetry.Service.Message
import NodeTelemetry.Service.Subscription
import NodeTelemetry.Store
import NodeTelemetry.Text.Blank
import NodeTelemetry.Text.Canonical.Basic
import NodeTelemetry.Text.Canonical.CombiningClass
import NodeTelemetry.Text.Canonical.Composites
import NodeTelemetry.Text.Canonical.Replaced
import NodeTelemetry.Text.CharTable
import NodeTelemetry.Text.Charset
import NodeTelemetry.Text.Charset.DoubleByte
import NodeTelemetry.Text.Charset.Extended
import NodeTelemetry.Text.Charset.Index
import NodeTelemetry.Text.Charset.Index.Japanese
import NodeTelemetry.Text.Charset.Index.Korean
import NodeTelemetry.Text.Charset.Index.Ranges
import NodeTelemetry.Text.Charset.Index.Simplified
import NodeTelemetry.Text.Charset.Index.Supplement
import NodeTelemetry.Text.Charset.Index.Traditional
import NodeTelemetry.Text.Charset.SingleByte
import NodeTelemetry.Text.Charset.Switching
import NodeTelemetry.Text.Charset.Units
import NodeTelemetry.Text.Classes
import NodeTelemetry.Text.Digits
import NodeTelemetry.Text.Escaped
import NodeTelemetry.Text.MediaType
import NodeTelemetry.Text.Property
import NodeTelemetry.Text.Property.Alphanumeric
import NodeTelemetry.Text.Property.EmojiPresentation
import NodeTelemetry.Text.Property.EmojiStyled
import NodeTelemetry.Text.Property.GraphemeExtend
import NodeTelemetry.Text.Property.Mark
import NodeTelemetry.Text.Property.TextStyled
import NodeTelemetry.Text.Property.ToneBase
import NodeTelemetry.Text.Property.Transparent
import NodeTelemetry.Text.Property.Unprintable
import NodeTelemetry.Text.Property.Wide
import NodeTelemetry.Text.Property.ZeroWidth
import NodeTelemetry.Text.Quoted
import NodeTelemetry.Text.Table
import NodeTelemetry.Text.Utf8
import NodeTelemetry.Text.Width
import NodeTelemetry.Text.Width.Role
import NodeTelemetry.Time.Calendar
import NodeTelemetry.Time.Stamp
import NodeTelemetry.Proofs.Event.Written
import NodeTelemetry.Proofs.Counters.Vmstat
import NodeTelemetry.Proofs.Binary.Exact
import NodeTelemetry.Proofs.Counters.Rates
import NodeTelemetry.Proofs.Client.Stamps
import NodeTelemetry.Proofs.Client.Rows
import NodeTelemetry.Proofs.Binary.Order
import NodeTelemetry.Proofs.Client.Amounts
import NodeTelemetry.Proofs.Collector.Settings
import NodeTelemetry.Proofs.Collector.Options
import NodeTelemetry.Proofs.Collector.Environment
import NodeTelemetry.Proofs.Collector.OutOfRange
import NodeTelemetry.Proofs.Health.Written
import NodeTelemetry.Proofs.Wire
