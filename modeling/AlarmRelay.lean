import AlarmRelay.Severity
import AlarmRelay.Alarm
import AlarmRelay.Alarm.Change
import AlarmRelay.Alarm.Calls
import AlarmRelay.Event
import AlarmRelay.Failure
import AlarmRelay.Store
import AlarmRelay.Store.Calls
import AlarmRelay.Duration
import AlarmRelay.Report
import AlarmRelay.HubConfig
import AlarmRelay.Log
import AlarmRelay.Metrics
import AlarmRelay.Signal
import AlarmRelay.Listener
import AlarmRelay.Sample
import AlarmRelay.FairLock
import AlarmRelay.Registry
import AlarmRelay.Operation
import AlarmRelay.SnapshotLoop
import AlarmRelay.Hub
import AlarmRelay.Hub.Lifecycle
import AlarmRelay.Producer
import AlarmRelay.Scenario
import AlarmRelay.Scenario.World
import AlarmRelay.Scenario.Begin
import AlarmRelay.Scenario.Task
import AlarmRelay.Scenario.Run
import AlarmRelay.Scenario.Runtime
import AlarmRelay.Json.Token
import AlarmRelay.Json.Tree
import AlarmRelay.Json.Number
import AlarmRelay.Text.Digit
import AlarmRelay.Text.Unprintable
import AlarmRelay.Text.Inspect
import AlarmRelay.Decimal.Shortest
import AlarmRelay.Decimal.Binary
import AlarmRelay.Decimal.Notation
import AlarmRelay.Json.ReadError
import AlarmRelay.Json.Reader
import AlarmRelay.Json.Record
import AlarmRelay.Json.Value
import AlarmRelay.Alarm.Format
import AlarmRelay.Toml.Value
import AlarmRelay.Toml.Blank
import AlarmRelay.Toml.Quoted
import AlarmRelay.Toml.Scalar
import AlarmRelay.Toml.Table
import AlarmRelay.Toml.Statement
import AlarmRelay.Toml.Document
import AlarmRelay.Config
import AlarmRelay.Config.Sections
import AlarmRelay.Config.Load
import AlarmRelay.Hub.Journal
import AlarmRelay.Hub.Script
import AlarmRelay.Proofs.Hub.Chain
import AlarmRelay.Proofs.Run
import AlarmRelay.Proofs.Hub.Loops
import AlarmRelay.Proofs.Hub.Alike
import AlarmRelay.Proofs.Hub.Turn
import AlarmRelay.Proofs.FairLock
import AlarmRelay.Proofs.Hub.Consistent
import AlarmRelay.Proofs.Hub.Ticks
import AlarmRelay.Proofs.Hub.LoopOrder
import AlarmRelay.Proofs.Hub.Marks
import AlarmRelay.Proofs.Hub.Fate
import AlarmRelay.Proofs.Hub.Quiet
import AlarmRelay.Proofs.Hub.Membership
import AlarmRelay.Proofs.Hub.Told
import AlarmRelay.Proofs.Hub.Settled
import AlarmRelay.Proofs.Hub.Exclusion
import AlarmRelay.Proofs.Hub.Alone
import AlarmRelay.Proofs.Hub.Serving
import AlarmRelay.Proofs.Hub.Plays
import AlarmRelay.Proofs.Hub.Isolation
import AlarmRelay.Proofs.Registry
import AlarmRelay.Hub.Bids
import AlarmRelay.Proofs.Hub.Line
import AlarmRelay.Proofs.Hub.Ledger
import AlarmRelay.Proofs.Hub.Entering
import AlarmRelay.Proofs.Hub.Replay
import AlarmRelay.Hub.Schedule
import AlarmRelay.Proofs.Hub.Phase
import AlarmRelay.Proofs.Hub.Schedule
import AlarmRelay.Hub.Cancellation
import AlarmRelay.Proofs.Hub.Blind
import AlarmRelay.Proofs.Hub.Cancellation
import AlarmRelay.Hub.History
import AlarmRelay.Proofs.Hub.Healing
import AlarmRelay.Producer.Shift
import AlarmRelay.Proofs.Producer.Announced
import AlarmRelay.Proofs.Hub.Heard
import AlarmRelay.Proofs.Producer.Mirror
import AlarmRelay.Proofs.Producer.Follow
import AlarmRelay.Json.Grammar
import AlarmRelay.Proofs.Json.Lexing
import AlarmRelay.Proofs.Json.Parsing
import AlarmRelay.Json.Meaning
import AlarmRelay.Alarm.Shape
import AlarmRelay.Proofs.Json.Numbers
import AlarmRelay.Proofs.Json.Records
import AlarmRelay.Proofs.Json.Soundness
import AlarmRelay.Proofs.Alarm.Decoding
import AlarmRelay.Proofs.Alarm.Layout
import AlarmRelay.Proofs.Json.Writing
import AlarmRelay.Proofs.Alarm.RoundTrip
import AlarmRelay.Hub.Fleet
import AlarmRelay.Proofs.Metrics
import AlarmRelay.Proofs.Hub.Deeds
import AlarmRelay.Proofs.Hub.Accounts
import AlarmRelay.Proofs.Fleet.Run
import AlarmRelay.Proofs.Fleet.Books
import AlarmRelay.Proofs.Fleet.Balance
import AlarmRelay.Hub.Roster
import AlarmRelay.Proofs.Hub.Roster
import AlarmRelay.Hub.Registrations
import AlarmRelay.Proofs.Hub.Gauge
import AlarmRelay.Proofs.Fleet.Gauge
import AlarmRelay.Hub.Waiting
import AlarmRelay.Proofs.Hub.Placed
import AlarmRelay.Proofs.Hub.Lined
import AlarmRelay.Hub.Tick
import AlarmRelay.Proofs.Hub.Waiting
import AlarmRelay.Toml.Sight
import AlarmRelay.Proofs.Toml.Look
import AlarmRelay.Proofs.Toml.Sight
import AlarmRelay.Config.Given
import AlarmRelay.Proofs.Config.Fields
import AlarmRelay.Proofs.Config.Layout
import AlarmRelay.Proofs.Config.Reading
import AlarmRelay.Proofs.Config.Precedence
import AlarmRelay.Producer.Workshop
import AlarmRelay.Proofs.Producer.Workshop
import AlarmRelay.Producer.Cycle
import AlarmRelay.Proofs.Producer.Rotation
import AlarmRelay.Proofs.Producer.Cycle
import AlarmRelay.Proofs.Hub.TickStep
import AlarmRelay.Proofs.Hub.TickCourse
import AlarmRelay.Proofs.Hub.TickRecord
import AlarmRelay.Proofs.Hub.TickCount
import AlarmRelay.Proofs.Hub.Journey
import AlarmRelay.Proofs.Hub.Ticking
import AlarmRelay.Hub.Coverage
import AlarmRelay.Proofs.Hub.Beginnings
import AlarmRelay.Proofs.Hub.Coverage
import AlarmRelay.Proofs.Alarm.Calls
import AlarmRelay.Store.Index
import AlarmRelay.Proofs.Store.Calls
import AlarmRelay.Producer.Duty
import AlarmRelay.Proofs.Producer.Duty
