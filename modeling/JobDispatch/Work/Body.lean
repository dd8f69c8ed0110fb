import JobDispatch.Job.Context
import JobDispatch.Job.Payload
import JobDispatch.Job.Registry
import JobDispatch.Script.Basic

/-!
Job bodies: what a job does when it runs.

A body gets its context and ends by returning a value, by failing with a report, by panicking or by
being cancelled. The bodies given here are small ones that answer with their context or with a
fixed ending.
-/

namespace JobDispatch

/-- How a body comes to its end. A panic carries a text, or something else. -/
inductive Ending where
  | returned (value : Json)
  | failed (report : Report)
  | panicked (message : Option String)
  | cancelled
  deriving DecidableEq, Repr

/-- What a job does when it runs. -/
abbrev Body := Context → Script Ending

/-- What the log of a body that did not return says. -/
def Ending.abortText (message : Option String) : String :=
  "job panicked: " ++ message.getD "non-string panic payload"

namespace Body

/-- Ends the same way whatever the context. -/
def ending (e : Ending) : Body := fun _ => pure e

/-- Never ends. -/
def hanging : Body := fun _ => .halt .endless

/-- Goes on with what the context grants, and fails with the refusal otherwise. -/
def granted {α : Type} (asked : Except ContextError α) (go : α → Script Ending) : Script Ending :=
  match asked with
  | .ok value => go value
  | .error refusal => pure (.failed refusal.report)

/-- Goes on with what the store answers, and fails with its error otherwise. -/
def answered {α : Type} (attempt : Attempt α) (go : α → Script Ending) : Script Ending := do
  match ← attempt.run with
  | .ok value => go value
  | .error fault => pure (.failed fault.report)

/-- Returns its parameters. -/
def echoing : Body := fun c => granted c.parameters fun v => pure (.returned v)

/-- Returns the job's name and its parameters. -/
def naming : Body := fun c => granted c.parameters fun v =>
  pure (.returned (.object [("job", .string c.jobName), ("p", v)]))

/-- Returns a greeting said as often as asked. -/
def greeting : Body := fun c => granted (c.parametersAs Greeting.ofJson) fun g =>
  pure (.returned (.object [("echo", .string g.said)]))

/-- Returns what its context holds. -/
def describing : Body := fun c =>
  pure (.returned (.object [("has_parameters", .bool c.hasParameters),
    ("has_pool", .bool c.hasStore), ("name", .string c.jobName)]))

/-- Returns the number of waiting entries. -/
def counting : Body := fun c => granted c.store fun _ =>
  answered (.query .countEntries) fun (count : Nat) =>
    pure (.returned (.object [("pending", .ofNat count)]))

/-- Adds an entry for another job. -/
def enqueueing (jobName : String) : Body := fun c => granted c.store fun _ =>
  answered (.query (.insertEntry jobName none Json.emptyObject)) fun _ =>
    pure (.returned (.string "enqueued"))

end Body

end JobDispatch
