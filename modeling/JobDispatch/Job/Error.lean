import JobDispatch.Job.Registry
import JobDispatch.Job.Request
import JobDispatch.Store.Error

/-!
The errors of the program's operations, whatever part they come from.
-/

namespace JobDispatch

/-- Why an operation fails. -/
inductive OperationError where
  | store (fault : StoreError)
  | registry (fault : RegistryError)
  | request (fault : RequestError)
  | configuration (message : String)
  deriving DecidableEq, Repr

namespace OperationError

/-- The wording of each error. -/
def message : OperationError → String
  | store fault => "Database error: " ++ fault.message
  | registry fault => "Registry error: " ++ fault.message
  | request fault => "Validation error: " ++ fault.message
  | configuration message => "Invalid configuration: " ++ message

/-- The error with its causes. -/
def report (e : OperationError) : Report :=
  match e with
  | store fault => fault.report.within e.message
  | registry fault => fault.report.within e.message
  | request fault => ⟨e.message, [fault.message]⟩
  | configuration _ => ⟨e.message, []⟩

/-- The operation can be tried again at once. -/
def isTransient : OperationError → Bool
  | store fault => fault.isTransient
  | _ => false

end OperationError

end JobDispatch
