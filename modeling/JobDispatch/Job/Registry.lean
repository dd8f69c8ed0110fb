import JobDispatch.Cron.Schedule
import JobDispatch.Job.Capabilities
import JobDispatch.Text.Quoted
import JobDispatch.Text.Report

/-!
The registry: which jobs this program can run.

A registry keeps registrations in the byte order of their names, each name once: the first
registration of a name stays until the registry is cleared.

* `Registry.register` adds a job that fires by a schedule and `Registry.registerOnDemand` one that
  runs only when asked for. `RegistryError` lists the refusals: a bad schedule is found first, then
  a bad name, then a name that is taken.
* `Registry.find?`, `Registry.names` and `Registry.periodic` look things up.
-/

namespace JobDispatch

/-- A job: its name, its schedule if it has one, what it asks for, and its body. -/
structure Registration (Body : Type) where
  name : String
  schedule : Option Schedule
  capabilities : Capabilities
  body : Body

/-- Why a job is not registered. -/
inductive RegistryError where
  | invalidSchedule (job : String) (fault : ScheduleError)
  | invalidName (job : String)
  | duplicateJob (job : String)
  deriving DecidableEq, Repr

namespace RegistryError

/-- The wording of each refusal. -/
def message : RegistryError → String
  | invalidSchedule job fault =>
    let reason := fault.message
    s!"Invalid schedule for job '{job}': {reason}"
  | invalidName job => s!"Invalid job name '{job}': must be 1-255 characters"
  | duplicateJob job => s!"Job '{job}' is already registered"

/-- The refusal with its cause. -/
def report (e : RegistryError) : Report :=
  match e with
  | invalidSchedule _ fault => ⟨e.message, [fault.message]⟩
  | invalidName _ | duplicateJob _ => ⟨e.message, []⟩

end RegistryError

namespace Registration

variable {Body : Type}

/-- The job fires by a schedule. -/
def isPeriodic (r : Registration Body) : Bool := r.schedule.isSome

/-- The registration as it is shown. -/
def text (r : Registration Body) : String :=
  let name := Text.quoted r.name
  let schedule := match r.schedule with
    | some s => "Some(" ++ Text.quoted s.expression ++ ")"
    | none => "None"
  let capabilities := r.capabilities.text
  s!"JobRegistration \x7b name: {name}, schedule: {schedule}, capabilities: {capabilities}, .. \x7d"

/-- A name that a job can be registered under: 1 to 255 bytes. -/
def NameFits (name : String) : Prop := 1 ≤ name.utf8ByteSize ∧ name.utf8ByteSize ≤ 255

instance (name : String) : Decidable (NameFits name) := by unfold NameFits; infer_instance

end Registration

/-- The jobs that can run, in the byte order of their names. -/
structure Registry (Body : Type) where
  jobs : List (Registration Body)

namespace Registry

variable {Body : Type}

/-- The registry without jobs. -/
def empty : Registry Body := ⟨[]⟩

/-- The job with the given name. -/
def find? (g : Registry Body) (name : String) : Option (Registration Body) :=
  g.jobs.find? fun r => r.name == name

/-- The names of all jobs, ascending. -/
def names (g : Registry Body) : List String := g.jobs.map Registration.name

/-- The jobs that fire by a schedule, in ascending order of their names. -/
def periodic (g : Registry Body) : List (Registration Body) := g.jobs.filter Registration.isPeriodic

/-- The number of jobs. -/
def size (g : Registry Body) : Nat := g.jobs.length

/-- There are no jobs. -/
def isEmpty (g : Registry Body) : Bool := g.size == 0

/-- Puts a job in its place by name. -/
def insertSorted (r : Registration Body) : List (Registration Body) → List (Registration Body)
  | [] => [r]
  | s :: rest => if r.name < s.name then r :: s :: rest else s :: insertSorted r rest

/-- Adds a job unless its name does not fit or is taken. -/
def add (g : Registry Body) (r : Registration Body) : Except RegistryError (Registry Body) :=
  if ¬ Registration.NameFits r.name then .error (.invalidName r.name)
  else if (g.find? r.name).isSome then .error (.duplicateJob r.name)
  else .ok ⟨insertSorted r g.jobs⟩

/-- Adds a job that fires by a schedule. -/
def register (g : Registry Body) (name expression : String) (capabilities : Capabilities)
    (body : Body) : Except RegistryError (Registry Body) :=
  match Schedule.parse expression with
  | .error fault => .error (.invalidSchedule name fault)
  | .ok schedule => g.add { name, schedule := some schedule, capabilities, body }

/-- Adds a job that runs only when asked for. -/
def registerOnDemand (g : Registry Body) (name : String) (capabilities : Capabilities)
    (body : Body) : Except RegistryError (Registry Body) :=
  g.add { name, schedule := none, capabilities, body }

/-- The registry as it is shown. -/
def text (g : Registry Body) : String :=
  let names := ", ".intercalate (g.names.map Text.quoted)
  s!"JobRegistry \x7b jobs: [{names}] \x7d"

end Registry

end JobDispatch
