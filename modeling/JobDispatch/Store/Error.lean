import JobDispatch.Text.Report

/-!
What can go wrong with the store.

`StoreError.isTransient` singles out the errors that a retry can overcome: a lock that was not
available, a failure to serialize and a deadlock.
-/

namespace JobDispatch

/-- Why a statement fails. -/
inductive StoreError where
  | refused (code : Option String) (message : String)
  | unreachable (reason : String)
  | rowNotFound
  | poolTimedOut
  | poolClosed
  | workerCrashed
  | columnNotFound (name : String)
  | garbled (detail : String)
  deriving DecidableEq, Repr

namespace StoreError

/-- The wording of each error. -/
def message : StoreError → String
  | refused _ message => s!"error returned from database: {message}"
  | unreachable reason => s!"error communicating with database: {reason}"
  | rowNotFound => "no rows returned by a query that expected to return at least one row"
  | poolTimedOut => "pool timed out while waiting for an open connection"
  | poolClosed => "attempted to acquire a connection on a closed pool"
  | workerCrashed => "attempted to communicate with a crashed background worker"
  | columnNotFound name => s!"no column found for name: {name}"
  | garbled detail => s!"encountered unexpected or invalid data: {detail}"

/-- The error with its cause: what the store itself said. -/
def report (e : StoreError) : Report :=
  match e with
  | refused _ message => ⟨e.message, [message]⟩
  | unreachable reason => ⟨e.message, [reason]⟩
  | _ => ⟨e.message, []⟩

/-- The codes of errors that a retry can overcome. -/
def transientCodes : List String := ["55P03", "40001", "40P01"]

/-- A retry can overcome the error. -/
def isTransient : StoreError → Bool
  | refused (some code) _ => transientCodes.contains code
  | _ => false

end StoreError

end JobDispatch
