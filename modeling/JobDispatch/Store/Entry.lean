import JobDispatch.Job.EntryId
import JobDispatch.Json.Value
import JobDispatch.Time.Instant

/-!
The rows of the store: entries waiting to run, and results of those that ran.

An entry is due at an instant when its earliest time, if it has one, has come. A result has either
a value or an error log, never both: `ResultRow.success` and `ResultRow.failure` build the two
kinds.
-/

namespace JobDispatch

/-- An occurrence of a job that waits to run. `createdAt` is its place in the order of creation;
the two keys are reserved and stay as they are. -/
structure Entry where
  id : EntryId
  jobName : String
  notBefore : Option Instant
  parameters : Json
  concurrencyKey : Option String
  dedupKey : Option String
  createdAt : Nat
  deriving DecidableEq, Repr

/-- The entry may run at the given instant. -/
def Entry.Due (e : Entry) (now : Instant) : Prop :=
  match e.notBefore with
  | none => True
  | some t => t ≤ now

instance (e : Entry) (now : Instant) : Decidable (e.Due now) := by
  unfold Entry.Due; cases e.notBefore <;> infer_instance

/-- The outcome of an occurrence. -/
structure ResultRow where
  id : EntryId
  jobName : String
  executedAt : Instant
  parameters : Json
  result : Option Json
  errorLog : String
  isError : Bool
  deriving DecidableEq, Repr

namespace ResultRow

/-- A text without NUL characters, which the store does not take. -/
def withoutNul (text : String) : String :=
  String.ofList (text.toList.filter (· ≠ '\x00'))

/-- The outcome of a body that returned a value. -/
def success (id : EntryId) (jobName : String) (executedAt : Instant) (parameters value : Json) :
    ResultRow where
  id := id
  jobName := jobName
  executedAt := executedAt
  parameters := parameters
  result := some value
  errorLog := ""
  isError := false

/-- The outcome of a body that failed. -/
def failure (id : EntryId) (jobName : String) (executedAt : Instant) (parameters : Json)
    (errorLog : String) : ResultRow where
  id := id
  jobName := jobName
  executedAt := executedAt
  parameters := parameters
  result := none
  errorLog := withoutNul errorLog
  isError := true

end ResultRow

end JobDispatch
