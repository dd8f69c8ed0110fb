import JobDispatch.Job.Error
import JobDispatch.Work.Body

/-!
Running due entries.

A worker claims one due entry, which takes it out of the queue, looks up its job, runs the body and
records one result. A result that meets a transient error is written again, up to three times in
all. When the store refuses the value of a success for good, a failure is recorded in its place.

* `Worker.claim` takes an entry, `Worker.execute` runs it, `Worker.writeResult` records it.
* `Worker.runOnce` is one round of all three.
-/

namespace JobDispatch

/-- What became of a claimed entry. -/
inductive WorkOutcome where
  | succeeded (id : EntryId) (jobName : String)
  | failed (id : EntryId) (jobName : String)
  | discarded (id : EntryId) (jobName : String)
  deriving DecidableEq, Repr

namespace WorkOutcome

/-- The entry that the outcome is about. -/
def id : WorkOutcome → EntryId
  | succeeded id _ | failed id _ | discarded id _ => id

/-- The name of the entry's job. -/
def jobName : WorkOutcome → String
  | succeeded _ name | failed _ name | discarded _ name => name

/-- The outcome as figures name it. -/
def label : WorkOutcome → String
  | succeeded _ _ => "succeeded"
  | failed _ _ => "failed"
  | discarded _ _ => "discarded"

/-- The job as figures name it; unknown names are lumped together. -/
def countedJob : WorkOutcome → String
  | succeeded _ name | failed _ name => name
  | discarded _ _ => "unregistered"

/-- The outcome that a recorded result stands for. -/
def ofResult (entry : Entry) (row : ResultRow) : WorkOutcome :=
  if row.isError then failed entry.id entry.jobName else succeeded entry.id entry.jobName

end WorkOutcome

namespace Worker

/-- How often a result is written when transient errors get in the way. -/
abbrev maxAttempts : Nat := 3

/-- Takes one due entry out of the queue. -/
def claim (lockTimeout : Duration) : Attempt (Option Entry) := do
  let entry ← Attempt.committed lockTimeout do
    let now ← liftM Script.now
    Attempt.timed "claim_next" (.query (.claimNext now))
  if entry.isSome then liftM (Script.log .claimed)
  pure entry

/-- The result of an entry by the ending of its body, and what the log says of it. -/
def resultOf (entry : Entry) (executedAt : Instant) : Ending → Notice × ResultRow
  | .returned value =>
    (.jobCompleted, .success entry.id entry.jobName executedAt entry.parameters value)
  | .failed report =>
    (.jobFailed, .failure entry.id entry.jobName executedAt entry.parameters report.text)
  | .panicked message =>
    (.jobAborted, .failure entry.id entry.jobName executedAt entry.parameters
      (Ending.abortText message))
  | .cancelled =>
    (.jobAborted, .failure entry.id entry.jobName executedAt entry.parameters
      "job task was cancelled")

/-- The context in which an entry runs. -/
def contextOf (r : Registration Body) (entry : Entry) : Context :=
  .build entry.id entry.jobName r.capabilities entry.parameters

/-- Runs the body of an entry. -/
def execute (r : Registration Body) (entry : Entry) : Script ResultRow := do
  let executedAt ← Script.now
  Script.log .jobStarting
  let ending ← r.body (contextOf r entry)
  Script.record (.jobTimed entry.jobName)
  let (notice, row) := resultOf entry executedAt ending
  Script.log notice
  pure row

/-- Writes a result once. -/
def tryWrite (lockTimeout : Duration) (row : ResultRow) : Attempt Unit :=
  .committed lockTimeout do
    let _ ← Attempt.timed "insert_job_result" (.query (.insertResult row))

/-- Ends with an error after which a result is not written again. -/
def giveUp (fault : StoreError) : Script (Except StoreError Unit) := do
  Script.log .resultLost
  pure (.error fault)

/-- Writes a result, again after a transient error; that many attempts are left after this one. -/
def writeWithin (lockTimeout : Duration) (row : ResultRow) : Nat → Script (Except StoreError Unit)
  | 0 => do
    match ← (tryWrite lockTimeout row).run with
    | .ok _ => pure (.ok ())
    | .error fault => giveUp fault
  | attempts + 1 => do
    match ← (tryWrite lockTimeout row).run with
    | .ok _ => pure (.ok ())
    | .error fault =>
      if fault.isTransient then
        Script.log .resultRetried
        writeWithin lockTimeout row attempts
      else giveUp fault

/-- Writes a result, up to `maxAttempts` times. -/
def writeResult (lockTimeout : Duration) (row : ResultRow) : Script (Except StoreError Unit) :=
  writeWithin lockTimeout row (maxAttempts - 1)

/-- The failure recorded in place of a success that the store refuses. -/
def unstorable (row : ResultRow) (fault : StoreError) : ResultRow :=
  .failure row.id row.jobName row.executedAt row.parameters
    ("Failed to store job result: " ++ fault.message)

/-- Records a result, a success that the store refuses for good as a failure. -/
def record (lockTimeout : Duration) (row : ResultRow) : Attempt ResultRow := ExceptT.mk do
  match ← writeResult lockTimeout row with
  | .ok _ => pure (.ok row)
  | .error fault =>
    if row.isError ∨ fault.isTransient then pure (.error fault)
    else
      match ← writeResult lockTimeout (unstorable row fault) with
      | .ok _ => pure (.ok (unstorable row fault))
      | .error fault => pure (.error fault)

/-- Deals with a claimed entry. -/
def handle (g : Registry Body) (lockTimeout : Duration) (entry : Entry) :
    Attempt WorkOutcome := do
  match g.find? entry.jobName with
  | none =>
    let outcome := WorkOutcome.discarded entry.id entry.jobName
    liftM (Script.log .discarded)
    liftM (Script.record (.jobFinished outcome.countedJob outcome.label))
    pure outcome
  | some r =>
    let row ← liftM (execute r entry)
    let recorded ← record lockTimeout row
    let outcome := WorkOutcome.ofResult entry recorded
    liftM (Script.record (.jobFinished outcome.countedJob outcome.label))
    pure outcome

/-- One round: deals with one due entry, if there is one. -/
def runOnce (g : Registry Body) (lockTimeout : Duration) :
    Script (Except OperationError (Option WorkOutcome)) := do
  let outcome ← ExceptT.run (do
    match ← claim lockTimeout with
    | none => pure none
    | some entry => some <$> handle g lockTimeout entry : Attempt (Option WorkOutcome))
  pure (outcome.mapError .store)

end Worker

end JobDispatch
