import JobDispatch.Script.Basic

/-!
Attempts to lead.

An attempt is one transaction that holds the lock of the lease table: it reads the lease, then the
clock, and renews the lease, takes it over or leaves it, as `Lease.decide` says.

* `Elector.electOnce` is one attempt. Whether the instance led before the attempt and leads after
  it is passed through, because the log reports changes of it.
* `Elector.checkLeader` asks without a lock whether the instance leads.
-/

namespace JobDispatch

/-- What comes of an attempt to lead. -/
inductive ElectionOutcome where
  | acquired
  | renewed
  | stolen (previous : String)
  | follower (holder : String)
  deriving DecidableEq, Repr

/-- The instance leads after the attempt. -/
def ElectionOutcome.isLeader : ElectionOutcome → Bool
  | follower _ => false
  | _ => true

/-- What the log reports about an attempt, given whether the instance led before. -/
def ElectionOutcome.notice (wasLeader : Bool) : ElectionOutcome → Notice
  | stolen _ => if wasLeader then .electionAttempt else .leaseTakenOver
  | acquired | renewed => if wasLeader then .electionAttempt else .leaseAcquired
  | follower _ => if wasLeader then .leaseLost else .electionAttempt

/-- One candidate for the lead: its identity, the age at which it takes over a lease, and how long
it waits for locks. -/
structure Elector where
  instanceId : String
  span : Span
  lockTimeout : Duration
  deriving DecidableEq, Repr

namespace Elector

/-- The candidate with the given settings. -/
def ofSettings (instanceId : String) (leaseDuration lockTimeout : Duration) : Elector :=
  ⟨instanceId, leaseSpan leaseDuration, lockTimeout⟩

/-- Reads the lease. -/
def readLease : Attempt (Option Lease) := .timed "find_lease" (.query .findLease)

/-- What an attempt does under the lock of the lease table. -/
def underLock (e : Elector) : Attempt ElectionOutcome := do
  Attempt.query .lockLease
  let lease ← readLease
  let now ← liftM Script.now
  match Lease.decide lease e.instanceId now e.span with
  | .acquire =>
    let _ ← Attempt.query (.insertLease e.instanceId now)
    Attempt.control .commit
    pure .acquired
  | .renew =>
    let _ ← Attempt.query (.updateLease e.instanceId now)
    Attempt.control .commit
    pure .renewed
  | .steal previous =>
    let _ ← Attempt.query (.updateLease e.instanceId now)
    Attempt.control .commit
    pure (.stolen previous)
  | .yield holder =>
    Attempt.control .rollback
    pure (.follower holder)

/-- One attempt to lead. Gives what comes of it and whether the instance now counts as leader,
which only an attempt without an error changes. -/
def electOnce (e : Elector) (wasLeader : Bool) :
    Script (Except StoreError ElectionOutcome × Bool) := do
  match ← (Attempt.inTransaction e.lockTimeout e.underLock).run with
  | .error fault => pure (.error fault, wasLeader)
  | .ok outcome =>
    Script.record (.leading outcome.isLeader)
    Script.log (outcome.notice wasLeader)
    pure (.ok outcome, outcome.isLeader)

/-- Asks whether the instance holds a fresh lease; the clock is read after the lease. -/
def checkLeader (e : Elector) : Attempt Bool := do
  let lease ← readLease
  let now ← liftM Script.now
  pure (Lease.holdsFresh lease e.instanceId now e.span)

/-- Asks whether the instance holds a fresh lease; after an error it does not. -/
def isLeader (e : Elector) : Script Bool := do
  match ← e.checkLeader.run with
  | .ok leader => pure leader
  | .error _ =>
    Script.log .leaderCheckFailed
    pure false

/-- The instance gives up the lead until an attempt succeeds. -/
def stepDown (wasLeader : Bool) : Script Unit := do
  if wasLeader then Script.log .steppingDown
  Script.record (.leading false)

end Elector

end JobDispatch
