import JobDispatch.Election.Elector
import JobDispatch.Job.Registry
import JobDispatch.Upkeep.Plan

/-!
Cycles that keep every periodic job queued.

A cycle goes through the periodic jobs in the order of their names. For each it computes the next
time and brings the pending entry to it, in a transaction of its own that holds the lock of the
name. A job whose transaction fails is counted and does not stop the others.

* `Upkeep.upsert` does this for one job and `Upkeep.runOnce` is a whole cycle.
* `Upkeep.tick` runs a cycle if the instance leads.
-/

namespace JobDispatch

/-- How many jobs a cycle dealt with in each way. -/
structure CycleReport where
  inserted : Nat
  rescheduled : Nat
  unchanged : Nat
  failed : Nat
  deriving DecidableEq, Repr

/-- What cycles work with: the zone in which schedules are read, the margin within which entries
stay, and how long to wait for locks. -/
structure Upkeep where
  zone : Zone
  margin : Span
  lockTimeout : Duration
  deriving DecidableEq, Repr

namespace CycleReport

/-- A report on no job. -/
def empty : CycleReport := ⟨0, 0, 0, 0⟩

/-- The report with one more job, by what was done to it. -/
def count (r : CycleReport) : Except StoreError Plan → CycleReport
  | .ok (.insert _) => { r with inserted := r.inserted + 1 }
  | .ok (.reschedule _ _ _) => { r with rescheduled := r.rescheduled + 1 }
  | .ok .keep => { r with unchanged := r.unchanged + 1 }
  | .error _ => { r with failed := r.failed + 1 }

end CycleReport

namespace Upkeep

variable {Body : Type}

/-- The upkeep with the given settings. -/
def ofSettings (zone : Zone) (safetyMargin lockTimeout : Duration) : Upkeep :=
  ⟨zone, marginSpan safetyMargin, lockTimeout⟩

/-- Takes the lock of a name and reads the pending entry of that job. -/
def pending (jobName : String) : Attempt (Option Entry) := do
  Attempt.query (.lockJob jobName)
  .timed "find_pending_for_update" (.query (.findPending jobName))

/-- Carries out a plan for a job. -/
def carryOut (jobName : String) : Plan → Attempt Unit
  | .insert next => do
    let _ ← Attempt.query (.insertEntry jobName (some next) Json.emptyObject)
  | .reschedule id _ next => do
    let _ ← Attempt.query (.reschedule id next)
  | .keep => pure ()

/-- Brings the pending entry of a job to its next time. -/
def reconcile (u : Upkeep) (jobName : String) (next now : Instant) : Attempt Plan :=
  .committed u.lockTimeout do
    let plan := Plan.make (← pending jobName) next now u.margin
    carryOut jobName plan
    pure plan

/-- Keeps one job queued. One that has no schedule, or fires no more, stays as it is. -/
def upsert (u : Upkeep) (r : Registration Body) (now : Instant) :
    Script (Except StoreError Plan) :=
  match r.schedule with
  | none => pure (.ok .keep)
  | some schedule =>
    match schedule.nextAfter now u.zone with
    | .outOfCalendar => .halt .outOfCalendar
    | .never => do
      Script.log .noFireTime
      pure (.ok .keep)
    | .at next => (u.reconcile r.name next now).run

/-- What the log reports about a job of a cycle. -/
def notice? : Except StoreError Plan → Option Notice
  | .ok (.insert _) => some .entryQueued
  | .ok (.reschedule _ _ _) => some .entryRescheduled
  | .ok .keep => none
  | .error _ => some .upsertFailed

/-- Goes through the given jobs and counts what is done. -/
def goThrough (u : Upkeep) (now : Instant) :
    CycleReport → List (Registration Body) → Script CycleReport
  | report, [] => pure report
  | report, r :: rest => do
    let outcome ← u.upsert r now
    match notice? outcome with
    | some n => Script.log n
    | none => pure ()
    u.goThrough now (report.count outcome) rest

/-- Runs one cycle at the given instant. -/
def runOnce (u : Upkeep) (g : Registry Body) (now : Instant) : Script CycleReport := do
  let report ← u.goThrough now .empty g.periodic
  Script.record (.entriesInserted report.inserted)
  Script.record (.entriesRescheduled report.rescheduled)
  Script.record (.upsertsFailed report.failed)
  pure report

/-- Runs one cycle if the instance leads. -/
def tick (u : Upkeep) (g : Registry Body) (e : Elector) : Script (Option CycleReport) := do
  if ← e.isLeader then
    let now ← Script.now
    let report ← u.runOnce g now
    Script.log .cycleComplete
    pure (some report)
  else pure none

end Upkeep

end JobDispatch
