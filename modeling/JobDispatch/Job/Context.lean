import JobDispatch.Job.Capabilities
import JobDispatch.Job.EntryId
import JobDispatch.Json.Decode
import JobDispatch.Text.Report

/-!
The context in which a job body runs.

A context holds only what the job's capabilities ask for. `Context.store` and `Context.parameters`
refuse what was not asked for; `ContextError` words the refusals.
-/

namespace JobDispatch

/-- What a job body is given. -/
structure Context where
  jobId : EntryId
  jobName : String
  hasStore : Bool
  given : Option Json
  deriving DecidableEq, Repr

/-- Why a job body does not get what it asks for. -/
inductive ContextError where
  | storeNotDeclared (job : String)
  | parametersNotDeclared (job : String)
  | invalidParameters (job : String) (fault : DecodeError)
  deriving DecidableEq, Repr

namespace ContextError

/-- The wording of each refusal. -/
def message : ContextError → String
  | storeNotDeclared job => s!"Job '{job}' did not declare wants_store_handle"
  | parametersNotDeclared job => s!"Job '{job}' did not declare wants_parameters"
  | invalidParameters job fault =>
    let reason := fault.message
    s!"Invalid parameters for job '{job}': {reason}"

/-- The refusal with its cause. -/
def report (e : ContextError) : Report :=
  match e with
  | storeNotDeclared _ | parametersNotDeclared _ => ⟨e.message, []⟩
  | invalidParameters _ fault => ⟨e.message, [fault.message]⟩

end ContextError

namespace Context

/-- The context of a job with the given capabilities. -/
def build (jobId : EntryId) (jobName : String) (capabilities : Capabilities)
    (parameters : Json) : Context where
  jobId := jobId
  jobName := jobName
  hasStore := capabilities.wantsStore
  given := if capabilities.wantsParameters then some parameters else none

/-- The context holds parameters. -/
def hasParameters (c : Context) : Bool := c.given.isSome

/-- Leave to use the store. -/
def store (c : Context) : Except ContextError Unit :=
  if c.hasStore then .ok ⟨⟩ else .error (.storeNotDeclared c.jobName)

/-- The parameters of the entry. -/
def parameters (c : Context) : Except ContextError Json :=
  match c.given with
  | some v => .ok v
  | none => .error (.parametersNotDeclared c.jobName)

/-- The parameters read as a typed value. -/
def parametersAs {α : Type} (c : Context) (decode : Json → Json.Decoded α) :
    Except ContextError α := do
  (decode (← c.parameters)).mapError (.invalidParameters c.jobName)

end Context

end JobDispatch
