import JobDispatch.Coordinator.Settings
import JobDispatch.Cron.Schedule

/-!
The configuration of the program.

A `Config` has a section for each part of the program. `Config.validate` accepts a configuration
that the program can run with; `ConfigFault` lists the refusals in the order in which they are
looked for. `Config.settings` makes the settings of an instance from it. Time zones have names; the
zones that there are come from the surroundings.
-/

namespace JobDispatch

/-- How the store is reached. -/
structure DatabaseConfig where
  url : String
  maxConnections : UInt32
  minConnections : UInt32
  connectTimeoutSecs : UInt64
  idleTimeoutSecs : UInt64
  deriving DecidableEq, Repr

/-- What is logged, and in which form. -/
structure LoggingConfig where
  level : String
  format : String
  deriving DecidableEq, Repr

/-- How an instance tries to lead; an empty identity is replaced by a generated one. -/
structure ElectionConfig where
  instanceId : String
  renewalIntervalSecs : UInt64
  leaseDurationSecs : UInt64
  deriving DecidableEq, Repr

/-- How periodic jobs are kept queued. -/
structure SchedulerConfig where
  intervalSecs : UInt64
  timeZone : String
  safetyMarginSecs : UInt64
  deriving DecidableEq, Repr

/-- How due entries are run. -/
structure WorkerConfig where
  idleIntervalMs : UInt64
  lockTimeoutMs : UInt64
  deriving DecidableEq, Repr

/-- How long results are kept; an empty schedule means that nothing deletes them. -/
structure ResultsConfig where
  retentionDays : UInt32
  purgeSchedule : String
  deriving DecidableEq, Repr

/-- The configuration of the program. -/
structure Config where
  database : DatabaseConfig
  logging : LoggingConfig
  election : ElectionConfig
  scheduler : SchedulerConfig
  worker : WorkerConfig
  results : ResultsConfig
  shutdownTimeoutSecs : UInt64
  deriving DecidableEq, Repr

/-- Why a configuration is refused. An interval that cannot be doubled in 64 bits is not refused in
words, it breaks the program off. -/
inductive ConfigFault where
  | missingUrl
  | minAboveMax
  | zeroRenewal
  | intervalTooLong
  | shortLease (lease renewal : UInt64)
  | zeroScheduling
  | zeroIdle
  | retention
  | timeZone (name : String)
  | purgeSchedule (fault : ScheduleError)
  deriving DecidableEq, Repr

namespace ConfigFault

/-- The wording of a fault, after what is common to all faults but the first. Twice the interval
being too long for 64 bits has none. -/
def detail? : ConfigFault → Option String
  | missingUrl => some "JC__DATABASE__URL environment variable must be set"
  | minAboveMax => some "min_connections cannot exceed max_connections"
  | zeroRenewal => some "election.renewal_interval_secs cannot be 0"
  | intervalTooLong => none
  | shortLease lease renewal => some
    s!"election.lease_duration_secs ({lease}) must exceed twice renewal_interval_secs ({renewal})"
  | zeroScheduling => some "scheduler.interval_secs cannot be 0"
  | zeroIdle => some "worker.idle_interval_ms cannot be 0"
  | retention => some "results.retention_days must be between 1 and 36500"
  | timeZone name => some s!"Unknown time zone '{name}': {Zone.unknownMessage name}"
  | purgeSchedule fault => some ("results.purge_schedule: " ++ fault.message)

/-- The wording of each fault that has one. -/
def message? (fault : ConfigFault) : Option String :=
  let kind := if fault = missingUrl then "Missing required configuration: "
    else "Invalid configuration value: "
  fault.detail?.map (kind ++ ·)

end ConfigFault

/-- The time zone in which schedules are understood, among those that there are. -/
def SchedulerConfig.zone (zones : List Zone) (c : SchedulerConfig) : Except ConfigFault Zone :=
  match Zone.find? zones c.timeZone with
  | some z => .ok z
  | none => .error (.timeZone c.timeZone)

namespace Config

/-- The longest time for which results may be kept, in days. -/
abbrev longestRetentionDays : UInt32 := 36500

/-- Accepts a schedule for deleting results, or none. -/
def validatePurgeSchedule (text : String) : Except ConfigFault Unit :=
  if text.isEmpty then .ok ⟨⟩
  else
    match Schedule.parse text with
    | .ok _ => .ok ⟨⟩
    | .error fault => .error (.purgeSchedule fault)

/-- Accepts a configuration that the program can run with. A holder of the lead gets at least two
attempts at renewal before its lease expires; twice the interval is computed in 64 bits, which it
has to fit in. -/
def validate (zones : List Zone) (c : Config) : Except ConfigFault Unit := do
  let renewal := c.election.renewalIntervalSecs
  let lease := c.election.leaseDurationSecs
  if c.database.url.isEmpty then .error .missingUrl
  if c.database.maxConnections < c.database.minConnections then .error .minAboveMax
  if renewal = 0 then .error .zeroRenewal
  if UInt64.size ≤ 2 * renewal.toNat then .error .intervalTooLong
  if lease ≤ 2 * renewal then .error (.shortLease lease renewal)
  if c.scheduler.intervalSecs = 0 then .error .zeroScheduling
  if c.worker.idleIntervalMs = 0 then .error .zeroIdle
  if c.results.retentionDays = 0 ∨ longestRetentionDays < c.results.retentionDays then
    .error .retention
  let _ ← c.scheduler.zone zones
  validatePurgeSchedule c.results.purgeSchedule

/-- The host name used where none is known. -/
def unknownHost : String := "instance"

/-- A generated identity: the host name with a suffix of its own for every start of the program. -/
def generatedId (host : Option String) (suffix : String) : String :=
  host.getD unknownHost ++ "-" ++ suffix

/-- The settings of an instance. -/
def settings (zones : List Zone) (c : Config) (host : Option String) (suffix : String) :
    Except ConfigFault Settings := do
  let timeZone ← c.scheduler.zone zones
  let given := c.election.instanceId
  .ok {
    instanceId := if given.isEmpty then generatedId host suffix else given
    renewalInterval := .ofSecs c.election.renewalIntervalSecs.toNat
    leaseDuration := .ofSecs c.election.leaseDurationSecs.toNat
    scheduleInterval := .ofSecs c.scheduler.intervalSecs.toNat
    timeZone
    safetyMargin := .ofSecs c.scheduler.safetyMarginSecs.toNat
    idleInterval := .ofMillis c.worker.idleIntervalMs.toNat
    lockTimeout := .ofMillis c.worker.lockTimeoutMs.toNat }

end Config

end JobDispatch
