import HomeClimate.CommandLine.Grammar
import HomeClimate.CommandLine.Help
import HomeClimate.CommandLine.Program
import HomeClimate.CommandLine.Report
import HomeClimate.Config.Basic
import HomeClimate.Config.Check
import HomeClimate.Config.Document
import HomeClimate.Config.Error
import HomeClimate.Control.Basic
import HomeClimate.Control.Fault
import HomeClimate.Control.Hysteresis
import HomeClimate.Control.Pid
import HomeClimate.Control.Sliding
import HomeClimate.Document.Basic
import HomeClimate.Document.Json
import HomeClimate.Document.Scalar
import HomeClimate.Document.Yaml
import HomeClimate.Document.Yaml.Node
import HomeClimate.Document.Yaml.Place
import HomeClimate.Document.Yaml.Scalar
import HomeClimate.Document.Yaml.Tag
import HomeClimate.Document.Yaml.Token
import HomeClimate.Document.Yaml.Writer
import HomeClimate.Filter.Error
import HomeClimate.Filter.Fallback
import HomeClimate.Filter.Median
import HomeClimate.Filter.OrderGuard
import HomeClimate.Filter.RateLimiter
import HomeClimate.Filter.SilenceGuard
import HomeClimate.Filter.SilenceWatch
import HomeClimate.Filter.Stage
import HomeClimate.House.Assembly
import HomeClimate.House.ConfigFile
import HomeClimate.House.Error
import HomeClimate.House.Line
import HomeClimate.House.Live
import HomeClimate.House.Reading
import HomeClimate.House.Replay
import HomeClimate.House.SensorChain
import HomeClimate.House.Unit
import HomeClimate.Main
import HomeClimate.Number.Binary
import HomeClimate.Number.Decimal
import HomeClimate.Number.Finite
import HomeClimate.Number.Layout
import HomeClimate.Number.Power
import HomeClimate.Number.Scalar
import HomeClimate.Number.Shortest
import HomeClimate.Number.Temperature
import HomeClimate.Proofs.Config.Check
import HomeClimate.Proofs.Control.TimeOrder
import HomeClimate.Proofs.House.Arbitration
import HomeClimate.Proofs.House.Assembly
import HomeClimate.Proofs.House.CallingUnit
import HomeClimate.Proofs.House.ChainRun
import HomeClimate.Proofs.House.ChainedZone
import HomeClimate.Proofs.House.Moves
import HomeClimate.Proofs.House.Replayed
import HomeClimate.Proofs.House.SensorChain
import HomeClimate.Proofs.House.Shutdown
import HomeClimate.Proofs.House.Silence
import HomeClimate.Proofs.House.Tracking
import HomeClimate.Proofs.Outcome
import HomeClimate.Proofs.Schedule.Zones
import HomeClimate.Proofs.Table
import HomeClimate.Proofs.Time.Order
import HomeClimate.Proofs.Zone.Changes
import HomeClimate.Proofs.Zone.Closing
import HomeClimate.Proofs.Zone.Consistency
import HomeClimate.Proofs.Zone.Demand
import HomeClimate.Proofs.Zone.Economizer
import HomeClimate.Proofs.Zone.Failures
import HomeClimate.Proofs.Zone.Zones
import HomeClimate.Schedule.Error
import HomeClimate.Schedule.Event
import HomeClimate.Schedule.Loop
import HomeClimate.Schedule.Period
import HomeClimate.Schedule.Scheduler
import HomeClimate.Schedule.SettingsText
import HomeClimate.Signal.Basic
import HomeClimate.Signal.Text
import HomeClimate.Stream.Pipeline
import HomeClimate.Table
import HomeClimate.Text.Blank
import HomeClimate.Text.LetterTables
import HomeClimate.Text.Lowercase
import HomeClimate.Text.PrintTables
import HomeClimate.Text.Quoted
import HomeClimate.Time.Calendar
import HomeClimate.Time.Clock
import HomeClimate.Time.Reading
import HomeClimate.Time.Seconds
import HomeClimate.Time.Span
import HomeClimate.Time.Text
import HomeClimate.Time.TimeOfDay
import HomeClimate.Zone.Arbiter
import HomeClimate.Zone.Basic
import HomeClimate.Zone.Device
import HomeClimate.Zone.Document
import HomeClimate.Zone.Economizer
import HomeClimate.Zone.Error
import HomeClimate.Zone.Group
import HomeClimate.Zone.Loop
import HomeClimate.Zone.Settings
import HomeClimate.Zone.Status
import HomeClimate.Zone.Thermostat
import HomeClimate.Proofs.Schedule.Track
import HomeClimate.Proofs.Schedule.Effects
import HomeClimate.Proofs.Schedule.Recorded
import HomeClimate.Proofs.Time.Elapsed
import HomeClimate.Proofs.Filter.Preference
import HomeClimate.Proofs.House.Coverage
import HomeClimate.Proofs.Zone.EconomizerCalls
import HomeClimate.Proofs.Zone.Actuator
import HomeClimate.Proofs.Zone.Reported
import HomeClimate.Proofs.Number.Lawful
import HomeClimate.Proofs.Config.Accepted
import HomeClimate.Proofs.Zone.Setup
import HomeClimate.Proofs.Schedule.Readable
import HomeClimate.Proofs.House.Readiness
import HomeClimate.Proofs.House.ArrivalOrder
import HomeClimate.Proofs.Number.Equality
import HomeClimate.Proofs.Filter.RateLimiter
import HomeClimate.Proofs.House.HeldBack
import HomeClimate.Proofs.House.CommandOrder
import HomeClimate.Proofs.Document.JsonScalars
import HomeClimate.Proofs.Document.JsonRereads
import HomeClimate.Proofs.Document.Kept
import HomeClimate.Proofs.Config.Saved
import HomeClimate.Proofs.Zone.Power
import HomeClimate.Proofs.Schedule.Settled
import HomeClimate.Proofs.Schedule.Fetched
import HomeClimate.Proofs.Zone.Rendering
import HomeClimate.Proofs.Zone.Twins
import HomeClimate.Proofs.Zone.WakeUps
import HomeClimate.Proofs.House.Quiet
import HomeClimate.Proofs.House.Undisturbed
import HomeClimate.Proofs.House.LiveReplay
import HomeClimate.Proofs.Zone.Operated
import HomeClimate.Proofs.Zone.SharedEconomizer
import HomeClimate.Proofs.Stream.Pipeline
import HomeClimate.Proofs.Stream.Tasks
import HomeClimate.Proofs.House.StagedChain
import HomeClimate.Proofs.Number.Shares
import HomeClimate.Proofs.House.CommandRange
import HomeClimate.Proofs.Signal.Envelope
import HomeClimate.Proofs.Filter.Envelopes
import HomeClimate.Proofs.Control.Envelopes
import HomeClimate.Proofs.Zone.Envelopes
import HomeClimate.Proofs.Zone.EnvelopesOfSignals
import HomeClimate.Proofs.House.Envelopes
import HomeClimate.Proofs.Control.AntiWindup
import HomeClimate.Proofs.Number.Ranked
import HomeClimate.Proofs.Filter.Failover
import HomeClimate.Proofs.Filter.Medians
import HomeClimate.Proofs.Filter.MedianWindow
import HomeClimate.Proofs.Filter.MedianSets
import HomeClimate.Proofs.Runs
import HomeClimate.Proofs.Control.Answers
import HomeClimate.Proofs.Control.SlidingArea
import HomeClimate.Proofs.Control.Integration
import HomeClimate.Proofs.Zone.Verdicts
import HomeClimate.Proofs.Filter.SilenceChecks
import HomeClimate.Proofs.Filter.SilenceTimer
import HomeClimate.Proofs.Zone.CombinedSignal
import HomeClimate.Proofs.Schedule.Occurrences
import HomeClimate.Proofs.Schedule.Nesting
import HomeClimate.Proofs.House.Routing
import HomeClimate.Proofs.Schedule.PeriodOrder
import HomeClimate.Proofs.Text.Blanks
import HomeClimate.Proofs.Text.SmallLetters
import HomeClimate.Proofs.Number.Written
import HomeClimate.Proofs.Schedule.SettingsWords
import HomeClimate.Proofs.Schedule.SettingsNumbers
import HomeClimate.Proofs.Schedule.SpelledSettings
import HomeClimate.Proofs.Schedule.UsableEvents
import HomeClimate.Proofs.House.UnitStarts
import HomeClimate.Proofs.Zone.Updates
import HomeClimate.Proofs.Control.WindowHistory
import HomeClimate.Proofs.Control.RecomputedArea
import HomeClimate.Proofs.Control.RecomputedSlope
