import JobDispatch.Log.Level
import JobDispatch.Time.Duration

/-!
What the program reports in its log.

A `Notice` is one kind of log line. `Notice.level`, `Notice.message` and `Notice.target` give its
level, its wording and the part of the program it comes from, and `Notice.fields` the names of the
values it carries; `Notice.line` puts level and wording together.
-/

namespace JobDispatch

/-- A signal that asks the program to stop. -/
inductive Signal where
  | interrupt | terminate
  deriving DecidableEq, Repr

/-- One kind of log line. -/
inductive Notice where
  | jobRegistered
  | registryCleared
  | claimed
  | discarded
  | jobStarting
  | jobCompleted
  | jobFailed
  | jobAborted
  | resultRetried
  | resultLost
  | workerStarted
  | workRetried
  | workFailed
  | workerStopping
  | leaseAcquired
  | leaseTakenOver
  | leaseLost
  | electionAttempt
  | leaderCheckFailed
  | electionStarted
  | electionFailed
  | steppingDown
  | electionStopping
  | entryQueued
  | entryRescheduled
  | upsertFailed
  | noFireTime
  | cycleComplete
  | schedulerStarted
  | schedulerStopping
  | resultsPurged
  | enqueued
  | enqueuedUnregistered
  | coordinatorStarting
  | alreadyStarted
  | shutdownInitiated
  | awaitingLoops (timeout : Duration)
  | loopsExited
  | loopsAborted (timeout : Duration)
  | programStarting
  | migrationsRunning
  | migrationsCompleted
  | instanceIdentity
  | signalReceived (signal : Signal)
  | programStopped
  deriving DecidableEq, Repr

/-- The version of the program. -/
def version : String := "0.3.0"

/-- The name of a signal. -/
def Signal.text : Signal → String
  | .interrupt => "SIGINT"
  | .terminate => "SIGTERM"

namespace Notice

/-- The level of a log line. -/
def level : Notice → Level
  | discarded | jobFailed | jobAborted | resultLost | workFailed => .error
  | resultRetried | leaseLost | leaderCheckFailed | electionFailed | steppingDown | upsertFailed
  | noFireTime | enqueuedUnregistered | alreadyStarted | loopsAborted _ => .warn
  | registryCleared | claimed | workRetried | electionAttempt | entryQueued | cycleComplete =>
    .debug
  | _ => .info

/-- The wording of a log line. -/
def message : Notice → String
  | jobRegistered => "Job registered"
  | registryCleared => "Job registry cleared"
  | claimed => "Claimed queue entry"
  | discarded => "Claimed entry for unregistered job, discarding"
  | jobStarting => "Job starting"
  | jobCompleted => "Job completed successfully"
  | jobFailed => "Job failed"
  | jobAborted => "Job aborted"
  | resultRetried => "Retrying result write"
  | resultLost => "Failed to record job result"
  | workerStarted => "Worker started"
  | workRetried => "Transient store error, retrying immediately"
  | workFailed => "Worker iteration failed"
  | workerStopping => "Worker shutting down"
  | leaseAcquired => "Acquired leader lease"
  | leaseTakenOver => "Took over expired leader lease"
  | leaseLost => "Lost leader lease"
  | electionAttempt => "Election attempt"
  | leaderCheckFailed => "Leader check failed"
  | electionStarted => "Leader election started"
  | electionFailed => "Election attempt failed, not leader this cycle"
  | steppingDown => "Stepping down until the next successful election"
  | electionStopping => "Leader election shutting down"
  | entryQueued => "Queued periodic job"
  | entryRescheduled => "Rescheduled periodic job"
  | upsertFailed => "Failed to schedule periodic job"
  | noFireTime => "Schedule has no upcoming fire time"
  | cycleComplete => "Schedule cycle complete"
  | schedulerStarted => "Cron scheduler started"
  | schedulerStopping => "Cron scheduler shutting down"
  | resultsPurged => "Cleaned up old job results"
  | enqueued => "Job enqueued"
  | enqueuedUnregistered => "Enqueuing job that is not registered here"
  | coordinatorStarting => "Starting job coordinator"
  | alreadyStarted => "Job coordinator already started"
  | shutdownInitiated => "Initiating job coordinator shutdown"
  | awaitingLoops timeout => "Waiting for loops to exit (timeout: " ++ timeout.text ++ ")"
  | loopsExited => "All loops exited gracefully"
  | loopsAborted timeout =>
    "Coordinator shutdown timed out after " ++ timeout.text ++ ", aborting remaining loops"
  | programStarting => "Starting job coordinator v" ++ version
  | migrationsRunning => "Running database migrations..."
  | migrationsCompleted => "Migrations completed"
  | instanceIdentity => "Instance identity"
  | signalReceived signal => "Received " ++ signal.text ++ ", initiating graceful shutdown"
  | programStopped => "Job coordinator stopped"

/-- The part of the program that a log line comes from. -/
def target : Notice → String
  | jobRegistered | registryCleared => "domain::services::registry"
  | claimed | discarded | jobStarting | jobCompleted | jobFailed | jobAborted | resultRetried
  | resultLost | workerStarted | workRetried | workFailed | workerStopping =>
    "job_coordinator::jobs::worker"
  | leaseAcquired | leaseTakenOver | leaseLost | electionAttempt | leaderCheckFailed
  | electionStarted | electionFailed | steppingDown | electionStopping =>
    "job_coordinator::jobs::election"
  | entryQueued | entryRescheduled | upsertFailed | noFireTime | cycleComplete | schedulerStarted
  | schedulerStopping => "job_coordinator::jobs::cron"
  | resultsPurged => "job_coordinator::jobs::purge_results"
  | enqueued | enqueuedUnregistered | coordinatorStarting | alreadyStarted | shutdownInitiated
  | awaitingLoops _ | loopsExited | loopsAborted _ => "job_coordinator::jobs::service"
  | programStarting | migrationsRunning | migrationsCompleted | instanceIdentity
  | signalReceived _ | programStopped => "job_coordinator"

/-- The field that holds the wording of a log line. -/
def messageField : String := "message"

/-- The names of the values that a log line carries besides its wording. -/
def values : Notice → List String
  | jobRegistered => ["job", "schedule", "wants_store_handle", "wants_parameters"]
  | claimed | discarded | jobStarting | enqueued => ["job", "id"]
  | jobCompleted => ["job", "id", "elapsed_ms"]
  | jobFailed | jobAborted => ["job", "id", "elapsed_ms", "error"]
  | resultRetried => ["job", "id", "attempt", "error"]
  | resultLost => ["job", "id", "error"]
  | workerStarted => ["idle_interval_ms"]
  | workRetried | workFailed => ["error"]
  | leaseAcquired | steppingDown | electionStopping | instanceIdentity => ["instance"]
  | leaseTakenOver => ["instance", "previous"]
  | leaseLost => ["instance", "holder"]
  | electionAttempt => ["instance", "outcome"]
  | leaderCheckFailed | electionFailed => ["instance", "error"]
  | electionStarted => ["instance", "renewal_interval_secs", "lease_duration_secs"]
  | entryQueued => ["job", "not_before"]
  | entryRescheduled => ["job", "from", "to"]
  | upsertFailed => ["job", "error"]
  | noFireTime => ["job", "schedule"]
  | cycleComplete => ["inserted", "rescheduled", "unchanged", "failed"]
  | schedulerStarted => ["interval_secs", "time_zone"]
  | resultsPurged => ["deleted", "retention_days"]
  | enqueuedUnregistered => ["job"]
  | coordinatorStarting => ["instance", "jobs"]
  | registryCleared | workerStopping | schedulerStopping | alreadyStarted | shutdownInitiated
  | awaitingLoops _ | loopsExited | loopsAborted _ | programStarting | migrationsRunning
  | migrationsCompleted | signalReceived _ | programStopped => []

/-- The names of all fields of a log line. -/
def fields (n : Notice) : List String := messageField :: n.values

/-- The level and the wording of a log line. -/
def line (n : Notice) : String := n.level.text ++ " " ++ n.message

end Notice

end JobDispatch
