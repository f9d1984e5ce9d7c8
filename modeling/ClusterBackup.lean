import ClusterBackup.Api.Cluster
import ClusterBackup.Api.Discovery
import ClusterBackup.Api.Http
import ClusterBackup.Api.Target
import ClusterBackup.Calendar.Field
import ClusterBackup.Calendar.Reader
import ClusterBackup.Calendar.Upcoming
import ClusterBackup.Cluster.LabelSelector
import ClusterBackup.Cluster.Metadata
import ClusterBackup.Cluster.Pod
import ClusterBackup.Cluster.Secret
import ClusterBackup.Cluster.Shape.Container
import ClusterBackup.Cluster.Shape.Definition
import ClusterBackup.Cluster.Shape.Object
import ClusterBackup.Cluster.Shape.Pod
import ClusterBackup.Cluster.Shape.Storage
import ClusterBackup.Cluster.Workload
import ClusterBackup.CommandLine.Command
import ClusterBackup.CommandLine.Flag
import ClusterBackup.CommandLine.Usage
import ClusterBackup.CronTable
import ClusterBackup.Failure
import ClusterBackup.Gate
import ClusterBackup.Host
import ClusterBackup.Json.Fault
import ClusterBackup.Json.Numeral
import ClusterBackup.Json.Reader
import ClusterBackup.Json.Shape
import ClusterBackup.Json.Skip
import ClusterBackup.Json.Token
import ClusterBackup.Json.Value
import ClusterBackup.Json.Writer
import ClusterBackup.Main
import ClusterBackup.Metrics
import ClusterBackup.Number.Binary64
import ClusterBackup.Number.Digits
import ClusterBackup.Number.Fixed
import ClusterBackup.Number.Limits
import ClusterBackup.Number.Shortest
import ClusterBackup.Options
import ClusterBackup.Program
import ClusterBackup.Proofs.Backup.Footprint
import ClusterBackup.Proofs.Backup.History
import ClusterBackup.Proofs.Backup.Recorded
import ClusterBackup.Proofs.Environment.Location
import ClusterBackup.Proofs.Environment.Separation
import ClusterBackup.Proofs.Environment.Isolation
import ClusterBackup.Proofs.Program.Contract
import ClusterBackup.Proofs.Program.Ending
import ClusterBackup.Proofs.Program.Footprint
import ClusterBackup.Proofs.Program.Inevitable
import ClusterBackup.Proofs.Program.Interleaving
import ClusterBackup.Proofs.Program.Path
import ClusterBackup.Proofs.Program.Within
import ClusterBackup.Proofs.Retry.Contract
import ClusterBackup.Proofs.Retry.Rounds
import ClusterBackup.Proofs.Session.Admission
import ClusterBackup.Proofs.Status.Reports
import ClusterBackup.Proofs.Status.Update
import ClusterBackup.Proofs.Store.Answers
import ClusterBackup.Proofs.Store.Evolution
import ClusterBackup.Proofs.Store.Version
import ClusterBackup.Proofs.Text.Path
import ClusterBackup.Proofs.Text.Trim
import ClusterBackup.Request
import ClusterBackup.Resource.Backend
import ClusterBackup.Resource.Configuration
import ClusterBackup.Resource.Definition
import ClusterBackup.Resource.Hosts
import ClusterBackup.Resource.Repository
import ClusterBackup.Resource.Resource
import ClusterBackup.Resource.Retention
import ClusterBackup.Resource.Schema
import ClusterBackup.Resource.Session
import ClusterBackup.Retry
import ClusterBackup.Run.Backup
import ClusterBackup.Run.Check
import ClusterBackup.Run.Cron
import ClusterBackup.Run.Restore
import ClusterBackup.Run.Rollout
import ClusterBackup.Run.Snapshots
import ClusterBackup.Schedule
import ClusterBackup.Sidecar
import ClusterBackup.Simulation.Fault
import ClusterBackup.Simulation.Files
import ClusterBackup.Simulation.Machine
import ClusterBackup.Simulation.Reading
import ClusterBackup.Simulation.Report
import ClusterBackup.Simulation.Scenario
import ClusterBackup.Simulation.Service
import ClusterBackup.Simulation.Shell
import ClusterBackup.Simulation.Store
import ClusterBackup.Simulation.Trial
import ClusterBackup.Simulation.Workloads
import ClusterBackup.Simulation.World
import ClusterBackup.Status
import ClusterBackup.Text.Base64
import ClusterBackup.Text.CodeTable
import ClusterBackup.Text.Composition
import ClusterBackup.Text.Dictionary
import ClusterBackup.Text.Direction
import ClusterBackup.Text.Joining
import ClusterBackup.Text.Path
import ClusterBackup.Text.Quoted
import ClusterBackup.Text.Scan
import ClusterBackup.Text.Utf8
import ClusterBackup.Text.Visible
import ClusterBackup.Time.Calendar
import ClusterBackup.Time.Duration
import ClusterBackup.Time.DurationText
import ClusterBackup.Time.Instant
import ClusterBackup.Time.Rfc3339
import ClusterBackup.Tool.Environment
import ClusterBackup.Tool.Execution
import ClusterBackup.Tool.Invocation
import ClusterBackup.Tool.Listing
import ClusterBackup.Url.DomainName
import ClusterBackup.Url.Escape
import ClusterBackup.Url.Host
import ClusterBackup.Url.NameMapping
import ClusterBackup.Url.Punycode
import ClusterBackup.Url.Url
import ClusterBackup.Watch.Reconcile
import ClusterBackup.Watch.Requeue
import ClusterBackup.Watch.Trigger
import ClusterBackup.Proofs.Session.Entries
import ClusterBackup.Proofs.Session.Complete
import ClusterBackup.Proofs.Session.Alone
import ClusterBackup.Proofs.Snapshots.Course
import ClusterBackup.Proofs.Snapshots.Passes
import ClusterBackup.Proofs.Snapshots.Outcome
import ClusterBackup.Proofs.Number.Rounding
import ClusterBackup.Proofs.Time.Seconds
import ClusterBackup.Proofs.CommandLine.Given
import ClusterBackup.Proofs.Sidecar.Arguments
import ClusterBackup.Proofs.Status.Attempts
import ClusterBackup.Proofs.Session.Answer
import ClusterBackup.Proofs.Restore.Rule
import ClusterBackup.Proofs.Session.Course
import ClusterBackup.Proofs.Session.Reporting
import ClusterBackup.Proofs.Session.Outcome
import ClusterBackup.Proofs.Restore.Completeness
import ClusterBackup.Proofs.Session.Rivals
import ClusterBackup.Proofs.Backup.Groups
import ClusterBackup.Proofs.Backup.Course
import ClusterBackup.Proofs.Backup.Calls
import ClusterBackup.Proofs.Backup.Counting
import ClusterBackup.Proofs.Session.Overlap
import ClusterBackup.Proofs.Rollout.Calls
import ClusterBackup.Proofs.Rollout.Following
import ClusterBackup.Proofs.Text.Dictionary
import ClusterBackup.Proofs.Sidecar.Edits
import ClusterBackup.Proofs.Simulation.Steady
import ClusterBackup.Proofs.Cron.Turns
import ClusterBackup.Proofs.Cron.Table
import ClusterBackup.Proofs.Status.Settled
import ClusterBackup.Proofs.Cron.Reset
import ClusterBackup.Proofs.Rollout.Attempts
import ClusterBackup.Proofs.Rollout.Register
import ClusterBackup.Proofs.Rollout.Replaced
import ClusterBackup.Proofs.Retry.Polls
import ClusterBackup.Proofs.Rollout.Course
import ClusterBackup.Proofs.Rollout.Assured
import ClusterBackup.Proofs.Sidecar.Repeated
import ClusterBackup.Proofs.Sidecar.Frame
import ClusterBackup.Proofs.Rollout.Again
import ClusterBackup.Proofs.Watch.Settled
import ClusterBackup.Proofs.Selector.Matching
import ClusterBackup.Proofs.Watch.Desired
import ClusterBackup.Proofs.Text.Pieces
import ClusterBackup.Proofs.Text.Quoted
import ClusterBackup.Proofs.Schedule.Fields
import ClusterBackup.Proofs.Schedule.Weekdays
import ClusterBackup.Proofs.Selector.Query
import ClusterBackup.Proofs.Selector.Reading
import ClusterBackup.Proofs.Selector.Text
import ClusterBackup.Proofs.Json.Codec
import ClusterBackup.Proofs.Rollout.Selected
import ClusterBackup.Proofs.Time.Calendar
import ClusterBackup.Proofs.Time.Text
import ClusterBackup.Proofs.Json.Carried
import ClusterBackup.Proofs.Cluster.Codecs
import ClusterBackup.Proofs.Resource.Codecs
import ClusterBackup.Proofs.Resource.Records
import ClusterBackup.Proofs.Restore.Selection
import ClusterBackup.Proofs.Watch.Requeues
import ClusterBackup.Proofs.Watch.Hopeless
import ClusterBackup.Proofs.Host.Sharing
import ClusterBackup.Proofs.Program.Repeating
import ClusterBackup.Proofs.Retry.Outcomes
import ClusterBackup.Proofs.Retry.Deadline
import ClusterBackup.Proofs.Number.Decimal
import ClusterBackup.Proofs.Time.Floating
import ClusterBackup.Proofs.Time.Terms
import ClusterBackup.Proofs.Time.Units
import ClusterBackup.Proofs.Restore.Validation
import ClusterBackup.Proofs.Retry.Pauses
