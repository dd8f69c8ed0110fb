import JobDispatch.Coordinator.Settings
import JobDispatch.Upkeep.Cycle
import JobDispatch.Work.Purge
import JobDispatch.Work.Worker

/-!
One running instance.

An instance tries to lead, keeps periodic jobs queued while it leads, and runs due entries whether
it leads or not. Each of these is a loop of rounds.

* `Instance.create` accepts settings that pass `Settings.validate`.
* `Instance.enqueue` adds an entry on request.
* `Instance.electionRound`, `Instance.upkeepRound` and `Instance.workRound` are the rounds.
-/

namespace JobDispatch

/-- What a loop does after a round: it goes on at once or pauses. -/
inductive Pace where
  | again
  | pause
  deriving DecidableEq, Repr

/-- An instance: its settings and the jobs it can run. -/
structure Instance where
  settings : Settings
  registry : Registry Body

namespace Instance

/-- The instance with the given settings, unless they are refused. -/
def create (settings : Settings) (registry : Registry Body) : Except SettingsError Instance :=
  match settings.validate with
  | .ok _ => .ok ⟨settings, registry⟩
  | .error fault => .error fault

/-- The instance as a candidate for the lead. -/
def elector (i : Instance) : Elector :=
  .ofSettings i.settings.instanceId i.settings.leaseDuration i.settings.lockTimeout

/-- How the instance keeps periodic jobs queued. -/
def upkeep (i : Instance) : Upkeep :=
  .ofSettings i.settings.timeZone i.settings.safetyMargin i.settings.lockTimeout

/-- Adds an entry for a request that passes validation. -/
def enqueue (i : Instance) (r : Request) : Script (Except OperationError EntryId) := do
  match r.validate with
  | .error fault => pure (.error (.request fault))
  | .ok _ =>
    if (i.registry.find? r.jobName).isNone then Script.log .enqueuedUnregistered
    match ← (Attempt.query (.insertEntry r.jobName r.notBefore r.parameters)).run with
    | .error fault => pure (.error (.store fault))
    | .ok (entry : Entry) =>
      Script.log .enqueued
      pure (.ok entry.id)

end Instance

/-! ### Rounds -/

/-- One round of trying to lead; after an error the candidate gives up the lead. -/
def Elector.round (e : Elector) (wasLeader : Bool) : Script Bool := do
  match ← e.electOnce wasLeader with
  | (.ok _, leads) => pure leads
  | (.error _, leads) =>
    Script.log .electionFailed
    Elector.stepDown leads
    pure false

/-- One round of running due entries: while there is work, and after an error that can be overcome,
the next round follows at once. -/
def Worker.round (g : Registry Body) (lockTimeout : Duration) : Script Pace := do
  match ← Worker.runOnce g lockTimeout with
  | .ok (some _) => pure .again
  | .ok none => pure .pause
  | .error fault =>
    if fault.isTransient then
      Script.log .workRetried
      pure .again
    else
      Script.log .workFailed
      pure .pause

namespace Instance

/-- One round of trying to lead. -/
def electionRound (i : Instance) (wasLeader : Bool) : Script Bool := i.elector.round wasLeader

/-- One round of keeping periodic jobs queued. -/
def upkeepRound (i : Instance) : Script Unit := do
  let _ ← i.upkeep.tick i.registry i.elector

/-- One round of running due entries. -/
def workRound (i : Instance) : Script Pace := Worker.round i.registry i.settings.lockTimeout

end Instance

end JobDispatch
