import AdaptiveShaper.Binary64.Basic
import AdaptiveShaper.CommandLine.Arguments
import AdaptiveShaper.CommandLine.Reading
import AdaptiveShaper.Control.Run
import AdaptiveShaper.Control.Service
import AdaptiveShaper.Decimal.Basic
import AdaptiveShaper.Decimal.Layout
import AdaptiveShaper.Host.Execution
import AdaptiveShaper.Host.Programs
import AdaptiveShaper.Host.Script
import AdaptiveShaper.Host.SocketAddress
import AdaptiveShaper.Ingest.Queue
import AdaptiveShaper.Json.Printer
import AdaptiveShaper.Log.Record
import AdaptiveShaper.Main
import AdaptiveShaper.Program.Session
import AdaptiveShaper.Proofs.Binary64.Doubling
import AdaptiveShaper.Proofs.Binary64.Kinds
import AdaptiveShaper.Proofs.Binary64.Order
import AdaptiveShaper.Proofs.Binary64.Quotients
import AdaptiveShaper.Proofs.Binary64.Range
import AdaptiveShaper.Proofs.Binary64.Reals
import AdaptiveShaper.Proofs.Binary64.Rounding
import AdaptiveShaper.Proofs.Binary64.Scaling
import AdaptiveShaper.Proofs.Binary64.Whole
import AdaptiveShaper.Proofs.Control.Accounting
import AdaptiveShaper.Proofs.Control.Batches
import AdaptiveShaper.Proofs.Control.Beats
import AdaptiveShaper.Proofs.Control.Commands
import AdaptiveShaper.Proofs.Control.Course
import AdaptiveShaper.Proofs.Control.Detection
import AdaptiveShaper.Proofs.Control.Finite
import AdaptiveShaper.Proofs.Control.Isolation
import AdaptiveShaper.Proofs.Control.Pace
import AdaptiveShaper.Proofs.Control.Publication
import AdaptiveShaper.Proofs.Control.Rescaling
import AdaptiveShaper.Proofs.Control.Script
import AdaptiveShaper.Proofs.Control.Shutdown
import AdaptiveShaper.Proofs.Control.Stable
import AdaptiveShaper.Proofs.Control.Target
import AdaptiveShaper.Proofs.Control.Timetable
import AdaptiveShaper.Proofs.Ingest.Agreement
import AdaptiveShaper.Proofs.Ingest.Input
import AdaptiveShaper.Proofs.Rate.Bounds
import AdaptiveShaper.Proofs.Rate.Growth
import AdaptiveShaper.Proofs.Rate.Ideal
import AdaptiveShaper.Proofs.Rate.Phases
import AdaptiveShaper.Proofs.Rate.Recovering
import AdaptiveShaper.Proofs.Rate.Run
import AdaptiveShaper.Proofs.Rate.Steps
import AdaptiveShaper.Proofs.Rate.Symmetry
import AdaptiveShaper.Proofs.Rate.Unlimited
import AdaptiveShaper.Proofs.Sample.Grammar
import AdaptiveShaper.Proofs.Settings.Checks
import AdaptiveShaper.Proofs.Settings.Sources
import AdaptiveShaper.Proofs.Shaper.Alarms
import AdaptiveShaper.Proofs.Shaper.Past
import AdaptiveShaper.Proofs.Text.Numeral
import AdaptiveShaper.Proofs.Window.ExactSum
import AdaptiveShaper.Proofs.Window.Forgetting
import AdaptiveShaper.Proofs.Window.MeanRange
import AdaptiveShaper.Proofs.Window.Median
import AdaptiveShaper.Proofs.Window.Retention
import AdaptiveShaper.Rate.Controller
import AdaptiveShaper.Rate.Settings
import AdaptiveShaper.Sample.Reading
import AdaptiveShaper.Settings.Basic
import AdaptiveShaper.Settings.Load
import AdaptiveShaper.Shaper.Actuator
import AdaptiveShaper.Shaper.Enforcement
import AdaptiveShaper.Shaper.Health
import AdaptiveShaper.Shaper.Setpoint
import AdaptiveShaper.Status.Snapshot
import AdaptiveShaper.Text.Basic
import AdaptiveShaper.Text.Quoted
import AdaptiveShaper.Text.Reader
import AdaptiveShaper.Time.Span
import AdaptiveShaper.Toml.Document
import AdaptiveShaper.Toml.Scalar
import AdaptiveShaper.Toml.Table
import AdaptiveShaper.Window.Basic
