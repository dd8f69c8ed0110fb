import JobDispatch.Json.Decode

/-!
Requests to run a job once.

* `Request.validate` accepts names of 1 to 255 characters.
* `Request.toJson` writes a request and `Request.ofJson` reads one; a request without a time is due
  at once, and one without parameters has an empty object.
-/

namespace JobDispatch

/-- A request to run a job once, not before a given time. -/
structure Request where
  jobName : String
  notBefore : Option Instant
  parameters : Json
  deriving DecidableEq, Repr

/-- Why a request is refused. -/
inductive RequestError where
  | nameLength
  deriving DecidableEq, Repr

/-- The wording of a refusal. -/
def RequestError.message : RequestError → String
  | .nameLength => "job_name: Job name must be 1-255 characters"

/-- The greatest length of a job's name. -/
abbrev maxNameLength : Nat := 255

namespace Request

/-- A request that is due at once and has no parameters. -/
def named (jobName : String) : Request := ⟨jobName, none, Json.emptyObject⟩

/-- Accepts a request whose name has 1 to 255 characters. -/
def validate (r : Request) : Except RequestError Unit :=
  if 1 ≤ r.jobName.length ∧ r.jobName.length ≤ maxNameLength then .ok ⟨⟩
  else .error .nameLength

/-! ### As JSON -/

/-- The field for the name. -/
def nameField : Json.Field String := ⟨"job_name", Json.asString, none⟩

/-- The field for the earliest time. -/
def notBeforeField : Json.Field (Option Instant) :=
  ⟨"not_before", Json.asOption Json.asInstant, some none⟩

/-- The field for the parameters. -/
def parametersField : Json.Field Json := ⟨"parameters", .ok, some Json.emptyObject⟩

/-- The fields of a request. -/
def recordType : Json.RecordType :=
  ⟨"struct EnqueueRequest", [nameField.check, notBeforeField.check, parametersField.check]⟩

/-- Reads a request. -/
def ofJson : Json → Json.Decoded Request :=
  Json.record recordType fun found => do
    let jobName ← found.take recordType nameField
    let notBefore ← found.take recordType notBeforeField
    let parameters ← found.take recordType parametersField
    .ok { jobName, notBefore, parameters }

/-- The instant as JSON, `null` for none. -/
def instantJson : Option Instant → Json
  | none => .null
  | some t => .string t.text

/-- The request as JSON. -/
def toJson (r : Request) : Json :=
  .object [(nameField.name, .string r.jobName), (notBeforeField.name, instantJson r.notBefore),
    (parametersField.name, r.parameters)]

end Request

end JobDispatch
