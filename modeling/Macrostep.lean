import Macrostep.Action
import Macrostep.Binary
import Macrostep.Channel
import Macrostep.Checkpoint.Basic
import Macrostep.Checkpoint.Stored
import Macrostep.Decimal.Binary64
import Macrostep.Decimal.Layout
import Macrostep.Decimal.Numeral
import Macrostep.Decimal.Reading
import Macrostep.Decimal.Shortest
import Macrostep.Definition
import Macrostep.Demo.Catalogue
import Macrostep.Demo.Counter
import Macrostep.Demo.Flight
import Macrostep.Demo.Temperature
import Macrostep.Demo.Transcript
import Macrostep.Describe
import Macrostep.Draft.Basic
import Macrostep.Draft.Build
import Macrostep.Draft.Fault
import Macrostep.Draft.Registry
import Macrostep.Effect.Basic
import Macrostep.Effect.Bench
import Macrostep.Effect.Holder
import Macrostep.Effect.Interval
import Macrostep.Event
import Macrostep.History
import Macrostep.Host
import Macrostep.Inbox
import Macrostep.Interpreter.Basic
import Macrostep.Interpreter.Occurrence
import Macrostep.Interpreter.Options
import Macrostep.Interpreter.Run
import Macrostep.Interpreter.Step
import Macrostep.Json.Basic
import Macrostep.Json.Parser
import Macrostep.Json.Printer
import Macrostep.Json.Scaling
import Macrostep.Main
import Macrostep.Proofs.ActionThreading
import Macrostep.Proofs.ActiveEffect
import Macrostep.Proofs.AfterStop
import Macrostep.Proofs.BatchDelivery
import Macrostep.Proofs.BinaryRoundTrip
import Macrostep.Proofs.BuildFaults
import Macrostep.Proofs.CanQuery
import Macrostep.Proofs.Chain
import Macrostep.Proofs.CheckpointRoundTrip
import Macrostep.Proofs.ConcurrentSends
import Macrostep.Proofs.CounterArithmetic
import Macrostep.Proofs.Course
import Macrostep.Proofs.CutChains
import Macrostep.Proofs.DeclaredStates
import Macrostep.Proofs.Dialogue
import Macrostep.Proofs.Digits
import Macrostep.Proofs.EffectDuration
import Macrostep.Proofs.EffectFailures
import Macrostep.Proofs.EffectGrammar
import Macrostep.Proofs.EffectLifecycle
import Macrostep.Proofs.EffectRenewal
import Macrostep.Proofs.Emission
import Macrostep.Proofs.EqualDeeds
import Macrostep.Proofs.EventlessLimit
import Macrostep.Proofs.ExactReaders
import Macrostep.Proofs.FailureAccounts
import Macrostep.Proofs.FinalStates
import Macrostep.Proofs.FlightBooker
import Macrostep.Proofs.FloatNumerals
import Macrostep.Proofs.GenuineSnapshots
import Macrostep.Proofs.HistoryPath
import Macrostep.Proofs.HistoryRetention
import Macrostep.Proofs.HistorySessions
import Macrostep.Proofs.InboxIndependence
import Macrostep.Proofs.InboxLedger
import Macrostep.Proofs.IntervalTicks
import Macrostep.Proofs.Journal
import Macrostep.Proofs.JournalOrder
import Macrostep.Proofs.JsonPrefixes
import Macrostep.Proofs.JsonRoundTrip
import Macrostep.Proofs.Listing
import Macrostep.Proofs.Lockstep
import Macrostep.Proofs.Lossless
import Macrostep.Proofs.MachineTables
import Macrostep.Proofs.MirroredRuns
import Macrostep.Proofs.Moves
import Macrostep.Proofs.NamedReferences
import Macrostep.Proofs.NoQueueing
import Macrostep.Proofs.ObserverViews
import Macrostep.Proofs.Observers
import Macrostep.Proofs.OptionChange
import Macrostep.Proofs.Placements
import Macrostep.Proofs.Refinement
import Macrostep.Proofs.Resumption
import Macrostep.Proofs.ReturnedSnapshots
import Macrostep.Proofs.SilentEffects
import Macrostep.Proofs.SilentMachines
import Macrostep.Proofs.StaleEvents
import Macrostep.Proofs.Stretch
import Macrostep.Proofs.SubscriptionTokens
import Macrostep.Proofs.Taking
import Macrostep.Proofs.TextOrder
import Macrostep.Proofs.TickerSchedule
import Macrostep.Proofs.TimestampRoundTrip
import Macrostep.Proofs.TruncatedCheckpoints
import Macrostep.Proofs.WidgetCheckpoints
import Macrostep.Queue
import Macrostep.Script.Context
import Macrostep.Script.Language
import Macrostep.Script.Notation
import Macrostep.Snapshot
import Macrostep.State
import Macrostep.Stored
import Macrostep.Text.Blank
import Macrostep.Text.Digits
import Macrostep.Text.Hidden
import Macrostep.Text.Quoted
import Macrostep.Time.Calendar
import Macrostep.Time.Rfc3339
import Macrostep.Time.Timestamp
import Macrostep.Transition
import Macrostep.Widget.Counter
import Macrostep.Widget.Flight
import Macrostep.Widget.Temperature
import Macrostep.Widget.Timer
