import TradeGate.Act
import TradeGate.Assignment
import TradeGate.Binary.Layout
import TradeGate.Binary.Reader
import TradeGate.Binary.Shape
import TradeGate.Binary.Shortest
import TradeGate.Builder
import TradeGate.Cache.Basic
import TradeGate.Cache.Traffic
import TradeGate.CallKey
import TradeGate.Clock
import TradeGate.Decimal.Arith
import TradeGate.Decimal.Basic
import TradeGate.Decimal.Rounding
import TradeGate.Decimal.Text
import TradeGate.Environment.Assignments
import TradeGate.Environment.Basic
import TradeGate.Fault
import TradeGate.Frame
import TradeGate.Indicator.Series
import TradeGate.Indicator.Smoothing
import TradeGate.Indicator.Summation
import TradeGate.Instant
import TradeGate.Instant.Form
import TradeGate.Instant.Reader
import TradeGate.Journal.Basic
import TradeGate.Journal.Json
import TradeGate.LogLevel
import TradeGate.Market.Decision
import TradeGate.Market.Signal
import TradeGate.Market.Tick
import TradeGate.Path
import TradeGate.Pipeline.Basic
import TradeGate.Pipeline.Drain
import TradeGate.Power
import TradeGate.Proofs.Cache.Accounting
import TradeGate.Proofs.Cache.Cancelling
import TradeGate.Proofs.Cache.Consistency
import TradeGate.Proofs.Cache.Delivery
import TradeGate.Proofs.Cache.Eviction
import TradeGate.Proofs.Cache.History
import TradeGate.Proofs.Cache.Keys
import TradeGate.Proofs.Cache.Overtaking
import TradeGate.Proofs.Cache.Provenance
import TradeGate.Proofs.Cache.SingleFlight
import TradeGate.Proofs.Decimal.Arith
import TradeGate.Proofs.Decimal.Digits
import TradeGate.Proofs.Decimal.Places
import TradeGate.Proofs.Decimal.Range
import TradeGate.Proofs.Decimal.Rounding
import TradeGate.Proofs.Decimal.Value
import TradeGate.Proofs.Indicator.Bounds
import TradeGate.Proofs.Indicator.Stepwise
import TradeGate.Proofs.Indicator.Summation
import TradeGate.Proofs.Journal.Figures
import TradeGate.Proofs.Pipeline.Closing
import TradeGate.Proofs.Pipeline.Desk
import TradeGate.Proofs.Pipeline.Floor
import TradeGate.Proofs.Pipeline.FloorHistory
import TradeGate.Proofs.Pipeline.Journaling
import TradeGate.Proofs.Pipeline.Keeping
import TradeGate.Proofs.Pipeline.Loop
import TradeGate.Proofs.Pipeline.Origin
import TradeGate.Proofs.Pipeline.Run
import TradeGate.Proofs.Pipeline.Session
import TradeGate.Proofs.Pipeline.Sharing
import TradeGate.Proofs.Pipeline.Stage
import TradeGate.Proofs.Pipeline.Subscribing
import TradeGate.Proofs.Pipeline.Transparency
import TradeGate.Proofs.Pipeline.Visits
import TradeGate.Proofs.Pipeline.Work
import TradeGate.Proofs.Reading
import TradeGate.Proofs.Risk.Decisions
import TradeGate.Proofs.Risk.Figures
import TradeGate.Proofs.Risk.FirstFailure
import TradeGate.Proofs.Risk.MarketEntry
import TradeGate.Proofs.Risk.Mirror
import TradeGate.Proofs.Risk.Positions
import TradeGate.Proofs.Risk.PriceGates
import TradeGate.Proofs.Risk.Reasons
import TradeGate.Proofs.Risk.Soundness
import TradeGate.Proofs.Risk.Stateless
import TradeGate.Proofs.Risk.Strictness
import TradeGate.Proofs.Risk.Thresholds
import TradeGate.Proofs.Risk.TrendSignals
import TradeGate.Proofs.Risk.Wiring
import TradeGate.Proofs.Scope.Chain
import TradeGate.Proofs.Scope.Isolation
import TradeGate.Proofs.Scope.Lexical
import TradeGate.Proofs.Scope.Program
import TradeGate.Proofs.Stream.Entry
import TradeGate.Proofs.Stream.History
import TradeGate.Proofs.Stream.Lifecycle
import TradeGate.Proofs.Stream.Tracking
import TradeGate.Proofs.Text.Quoting
import TradeGate.Proofs.Text.Separated
import TradeGate.Proofs.Value.Form
import TradeGate.Reading
import TradeGate.Risk.Check
import TradeGate.Risk.Finding
import TradeGate.Risk.Gate
import TradeGate.Risk.Profile
import TradeGate.Risk.Registry
import TradeGate.Scenario.Caching
import TradeGate.Scenario.Configuring
import TradeGate.Scenario.Draining
import TradeGate.Scenario.Journaling
import TradeGate.Scenario.Registering
import TradeGate.Scenario.Scoping
import TradeGate.Scenario.Script
import TradeGate.Scope
import TradeGate.Settings
import TradeGate.Setup
import TradeGate.Shelf
import TradeGate.Stream
import TradeGate.Text.Base64
import TradeGate.Text.Blank
import TradeGate.Text.Case
import TradeGate.Text.CaseTable
import TradeGate.Text.Digit
import TradeGate.Text.Printable
import TradeGate.Text.Quoted
import TradeGate.Text.Ranges
import TradeGate.Timeframe
import TradeGate.Value
import TradeGate.Value.Arith
import TradeGate.Value.Whole
import TradeGate.Yaml.Cursor
import TradeGate.Yaml.Document
import TradeGate.Yaml.Lexeme
import TradeGate.Yaml.Merge
import TradeGate.Yaml.Node
import TradeGate.Yaml.Scalar
import TradeGate.Yaml.Stamp
import TradeGate.Yaml.Tag
import TradeGate.Yaml.Token
import TradeGate.Yaml.Token.Lexer
import TradeGate.Proofs.Environment.Growth
import TradeGate.Proofs.Environment.References
import TradeGate.Proofs.Setup.Isolation
