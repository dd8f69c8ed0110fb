import JobDispatch.Config.Basic
import JobDispatch.Config.Decode
import JobDispatch.Config.Load
import JobDispatch.Config.Standard
import JobDispatch.Config.Tree
import JobDispatch.Config.VariableFile
import JobDispatch.Coordinator.Instance
import JobDispatch.Coordinator.Loops
import JobDispatch.Coordinator.Settings
import JobDispatch.Cron.Expression
import JobDispatch.Cron.Fields
import JobDispatch.Cron.Next
import JobDispatch.Cron.Schedule
import JobDispatch.Election.Elector
import JobDispatch.Election.Lease
import JobDispatch.Job.Capabilities
import JobDispatch.Job.Context
import JobDispatch.Job.EntryId
import JobDispatch.Job.Error
import JobDispatch.Job.Payload
import JobDispatch.Job.Registry
import JobDispatch.Job.Request
import JobDispatch.Job.RequestText
import JobDispatch.Json.Decode
import JobDispatch.Json.Reader
import JobDispatch.Json.Value
import JobDispatch.Json.Writer
import JobDispatch.Log.Directive
import JobDispatch.Log.Filter
import JobDispatch.Log.Level
import JobDispatch.Log.Metrics
import JobDispatch.Log.Notice
import JobDispatch.Log.Pattern
import JobDispatch.Log.Setup
import JobDispatch.Main
import JobDispatch.Number.Binary64
import JobDispatch.Number.Power
import JobDispatch.Number.Shortest
import JobDispatch.Program.Run
import JobDispatch.Script.Basic
import JobDispatch.Script.Run
import JobDispatch.Store.Basic
import JobDispatch.Store.Entry
import JobDispatch.Store.Error
import JobDispatch.Store.Statement
import JobDispatch.Store.Tables
import JobDispatch.Text.Alphanumeric
import JobDispatch.Text.Blank
import JobDispatch.Text.Bytes
import JobDispatch.Text.Printable
import JobDispatch.Text.Quoted
import JobDispatch.Text.Report
import JobDispatch.Time.Calendar
import JobDispatch.Time.Duration
import JobDispatch.Time.Instant
import JobDispatch.Time.Timestamp
import JobDispatch.Toml.Document
import JobDispatch.Toml.Number
import JobDispatch.Toml.Table
import JobDispatch.Toml.Text
import JobDispatch.Upkeep.Cycle
import JobDispatch.Upkeep.Plan
import JobDispatch.Work.Body
import JobDispatch.Work.Purge
import JobDispatch.Work.Worker
import JobDispatch.Zone.Basic
import JobDispatch.Zone.Table
import JobDispatch.Proofs.Config.Lease
import JobDispatch.Proofs.Cron.Earliest
import JobDispatch.Proofs.Cron.Fields
import JobDispatch.Proofs.Cron.Levels
import JobDispatch.Proofs.Cron.Onset
import JobDispatch.Proofs.Cron.Search
import JobDispatch.Proofs.Cron.Soundness
import JobDispatch.Proofs.Election.Attempt
import JobDispatch.Proofs.Election.Chronicle
import JobDispatch.Proofs.Election.Exclusion
import JobDispatch.Proofs.Election.Succession
import JobDispatch.Proofs.Election.Tenure
import JobDispatch.Proofs.Job.NameLength
import JobDispatch.Proofs.Job.Roster
import JobDispatch.Proofs.Script.Outcome
import JobDispatch.Proofs.Script.Protocol
import JobDispatch.Proofs.Script.Reading
import JobDispatch.Proofs.Script.Turn
import JobDispatch.Proofs.Store.Queue
import JobDispatch.Proofs.Store.Sharing
import JobDispatch.Proofs.Store.Strikes
import JobDispatch.Proofs.Store.Transaction
import JobDispatch.Proofs.Time.Order
import JobDispatch.Proofs.Upkeep.Delivery
import JobDispatch.Proofs.Upkeep.Locking
import JobDispatch.Proofs.Upkeep.Occurrence
import JobDispatch.Proofs.Upkeep.Promise
import JobDispatch.Proofs.Upkeep.Single
import JobDispatch.Proofs.Upkeep.Upsert
import JobDispatch.Proofs.Work.Archive
import JobDispatch.Proofs.Work.Claim
import JobDispatch.Proofs.Work.Completeness
import JobDispatch.Proofs.Work.Conservation
import JobDispatch.Proofs.Work.Ledger
import JobDispatch.Proofs.Work.Loss
import JobDispatch.Proofs.Work.Recording
import JobDispatch.Proofs.Work.Results
import JobDispatch.Proofs.Work.Retention
import JobDispatch.Proofs.Zone.Gaps
import JobDispatch.Proofs.Zone.Order
import JobDispatch.Proofs.Cron.Answer
import JobDispatch.Proofs.Cron.YearColumn
import JobDispatch.Proofs.Cron.Overlap
import JobDispatch.Proofs.Upkeep.Halting
import JobDispatch.Proofs.Upkeep.Rows
import JobDispatch.Proofs.Upkeep.Outcomes
import JobDispatch.Proofs.Upkeep.Convergence
import JobDispatch.Proofs.Upkeep.Coverage
import JobDispatch.Proofs.Upkeep.Touched
import JobDispatch.Proofs.Upkeep.Isolation
import JobDispatch.Proofs.Work.Drain
import JobDispatch.Proofs.Work.Shift
import JobDispatch.Proofs.Config.Startup
import JobDispatch.Proofs.Script.Sent
import JobDispatch.Proofs.Work.Purging
import JobDispatch.Proofs.Script.Server
import JobDispatch.Proofs.Work.Retries
import JobDispatch.Proofs.Script.Twins
import JobDispatch.Proofs.Work.Undeclared
import JobDispatch.Proofs.Time.RoundTrip
import JobDispatch.Proofs.Job.RoundTrip
import JobDispatch.Proofs.Config.Spans
import JobDispatch.Proofs.Cron.SecondsColumn
