import JobDispatch.Work.Body

/-!
The job that deletes old results.

Results are deleted in batches. A batch that is not full is the last one, so that the number of
statements is one more than the number of full batches.

* `Purge.deleteOlder` deletes in batches and gives the number of deleted rows.
* `Purge.bodyInBatches` deletes what is older than the retention, in batches of any size.
* `Purge.body` is the job.
* `Registry.withBuiltin` registers it when it has a schedule.
-/

namespace JobDispatch

namespace Purge

/-- The name under which the job is registered. -/
def jobName : String := "purge_job_results"

/-- The number of rows deleted by one statement of the job. -/
abbrev batchSize : Int := 10000

/-- More batches than a count of 64 bits can number. -/
abbrev batchBound : Nat := UInt64.size

/-- Deletes batches until one is not full; `room` bounds their number and `deleted` counts the rows
deleted so far. -/
def deleteBatches (cutoff : Instant) (batch : Int) : Nat → Nat → Attempt Nat
  | 0, _ => ExceptT.mk (.halt .endless)
  | room + 1, deleted => do
    let (count : Nat) ← Attempt.query (.deleteResults cutoff batch)
    if (count : Int) < batch then pure (deleted + count)
    else deleteBatches cutoff batch room (deleted + count)

/-- Deletes the results from before the cutoff, in batches. -/
def deleteOlder (cutoff : Instant) (batch : Int) : Attempt Nat :=
  deleteBatches cutoff batch batchBound 0

/-- A length of time in whole days. -/
def days (n : Nat) : Span := n * (secsPerDay * nanosPerSec)

/-- The instant before which results are deleted. -/
def cutoff? (now : Instant) (retentionDays : Nat) : Option Instant := now.back? (days retentionDays)

/-- The value that the job returns. -/
def value (deleted retentionDays : Nat) : Json :=
  .object [("deleted", .ofNat deleted), ("retention_days", .ofNat retentionDays)]

/-- Deletes what is older than the retention, in batches of the given size. -/
def bodyInBatches (batch : Int) (retentionDays : Nat) : Body := fun c =>
  Body.granted c.store fun _ => do
    let now ← Script.now
    match cutoff? now retentionDays with
    | none => pure (.failed ⟨s!"retention_days {retentionDays} is out of range", []⟩)
    | some cutoff =>
      match ← (deleteOlder cutoff batch).run with
      | .error fault =>
        pure (.failed ⟨"Failed to delete old job results: " ++ fault.message, []⟩)
      | .ok deleted =>
        Script.log .resultsPurged
        pure (.returned (value deleted retentionDays))

/-- Deletes what is older than the retention. -/
def body (retentionDays : Nat) : Body := bodyInBatches batchSize retentionDays

end Purge

/-- The registry with the job that deletes old results, unless that has no schedule. -/
def Registry.withBuiltin (g : Registry Body) (retentionDays : Nat) (purgeSchedule : String) :
    Except RegistryError (Registry Body) :=
  if purgeSchedule.isEmpty then .ok g
  else g.register Purge.jobName purgeSchedule .store (Purge.body retentionDays)

end JobDispatch
