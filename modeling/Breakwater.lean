import Breakwater.Breaker
import Breakwater.Bus
import Breakwater.Classifier
import Breakwater.Clock
import Breakwater.Command
import Breakwater.Config
import Breakwater.Config.Change
import Breakwater.Config.Setting
import Breakwater.Config.Setting.Json
import Breakwater.Config.Validation
import Breakwater.Dependency
import Breakwater.Error
import Breakwater.ExecutionRecord
import Breakwater.Fleet
import Breakwater.Gateway
import Breakwater.Gateway.Call
import Breakwater.Health
import Breakwater.Metrics
import Breakwater.Proofs.Call.Parts
import Breakwater.Proofs.Dependency.Views
import Breakwater.Proofs.Gateway.Step
import Breakwater.Registry
import Breakwater.Scenario.Answer
import Breakwater.Scenario.Batch
import Breakwater.Scenario.BreakerRun
import Breakwater.Scenario.BusRun
import Breakwater.Scenario.MetricsRun
import Breakwater.Scenario.Names
import Breakwater.Scenario.PoolRun
import Breakwater.Scenario.Run
import Breakwater.Scenario.Schedule
import Breakwater.Scenario.Script
import Breakwater.Scenario.SemaphoreRun
import Breakwater.Scenario.StreamRun
import Breakwater.Scenario.TimerRun
import Breakwater.Scenario.World
import Breakwater.Semaphore
import Breakwater.Stream.Rolling
import Breakwater.Stream.Running
import Breakwater.Stream.Slices
import Breakwater.Tag
import Breakwater.Tally
import Breakwater.Text.CodeRanges
import Breakwater.Text.Combining
import Breakwater.Text.Decimal
import Breakwater.Text.Printable
import Breakwater.Text.Record
import Breakwater.Text.Shortest
import Breakwater.Text.Unassigned
import Breakwater.Timer
import Breakwater.WorkerPool
import Breakwater.Proofs.Call.Frame
import Breakwater.Proofs.Call.Turn
import Breakwater.Proofs.Call.Admission
import Breakwater.Proofs.Call.Ending
import Breakwater.Proofs.Call.Queue
import Breakwater.Proofs.Gateway.Change
import Breakwater.Proofs.Gateway.Order
import Breakwater.Proofs.Dependency.Built
import Breakwater.Proofs.Dependency.Accepted
import Breakwater.Proofs.Gateway.Finish
import Breakwater.Proofs.Gateway.ExactlyOnce
import Breakwater.Proofs.Tally
import Breakwater.Proofs.Command.Agreement
import Breakwater.Proofs.Gateway.Agreement
import Breakwater.Proofs.Stream.Window
import Breakwater.Proofs.Stream.Cut
import Breakwater.Proofs.Metrics.Collected
import Breakwater.Proofs.Gateway.Counters
import Breakwater.Proofs.Call.Circuit
import Breakwater.Proofs.Gateway.Circuit
import Breakwater.Proofs.Gateway.Probes
import Breakwater.Proofs.Gateway.HalfOpen
import Breakwater.Proofs.Metrics.HealthWindow
import Breakwater.Proofs.Gateway.Health
import Breakwater.Proofs.Gateway.Trips
import Breakwater.Proofs.Gateway.Closings
import Breakwater.Proofs.Call.Bulkhead
import Breakwater.Proofs.Call.Places
import Breakwater.Proofs.Gateway.Bulkhead
import Breakwater.Proofs.Call.Close
import Breakwater.Proofs.Call.Move
import Breakwater.Proofs.Call.Tidy
import Breakwater.Proofs.Timer.Arena
import Breakwater.Proofs.Gateway.Tidy
import Breakwater.Proofs.Gateway.Admissions
import Breakwater.Proofs.Gateway.Timeouts
import Breakwater.Proofs.Gateway.Resources
import Breakwater.Proofs.Gateway.Frozen
import Breakwater.Proofs.Gateway.Stories
import Breakwater.Proofs.Gateway.Late
import Breakwater.Proofs.Gateway.Starts
import Breakwater.Proofs.Breaker.Run
import Breakwater.Proofs.Breaker.SleepWindow
import Breakwater.Proofs.Breaker.Transitions
import Breakwater.Proofs.Breaker.Admission
import Breakwater.Proofs.Timer.Deadlines
import Breakwater.Proofs.Timer.Account
import Breakwater.Proofs.Call.Refusals
import Breakwater.Proofs.Timer.FiresOnce
import Breakwater.Proofs.Gateway.Rejections
import Breakwater.Proofs.Bus.Session
import Breakwater.Proofs.Bus.Delivery
import Breakwater.Proofs.Call.Dispatch
import Breakwater.Proofs.Gateway.Resubmission
import Breakwater.Proofs.Gateway.Fallbacks
import Breakwater.Proofs.Call.Unplaced
import Breakwater.Proofs.Gateway.Agenda
import Breakwater.Proofs.Gateway.Unplaced
import Breakwater.Proofs.Registry.Isolation
import Breakwater.Proofs.Stream.Placing
import Breakwater.Proofs.Stream.Session
import Breakwater.Proofs.Stream.Attribution
import Breakwater.Proofs.Stream.Sinks
import Breakwater.Proofs.Stream.IdleGaps
import Breakwater.Proofs.Stream.Summaries
import Breakwater.Proofs.Stream.Arithmetic
import Breakwater.Proofs.Gateway.Arithmetic
import Breakwater.Proofs.Gateway.FirstCommand
import Breakwater.Proofs.Metrics.HealthAgreement
import Breakwater.Proofs.Metrics.Arithmetic
import Breakwater.Proofs.Metrics.SliceAlgebra
import Breakwater.Proofs.Timer.Slots
import Breakwater.Proofs.Semaphore.Conservation
import Breakwater.Proofs.Registry.Identity
import Breakwater.Proofs.Call.Latency
import Breakwater.Proofs.Gateway.Latency
