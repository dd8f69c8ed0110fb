/-!
Figures about the running program.

A `Measurement` is one observation; `Metrics` keeps one number for each series: the total of a
counter, the last value of a gauge, the number of samples of a distribution.
-/

namespace JobDispatch

/-- One observation. -/
inductive Measurement where
  | queryTimed (query : String)
  | jobTimed (job : String)
  | jobFinished (job outcome : String)
  | entriesInserted (count : Nat)
  | entriesRescheduled (count : Nat)
  | upsertsFailed (count : Nat)
  | leading (isLeader : Bool)
  deriving DecidableEq, Repr

namespace Measurement

/-- The name of a series with its labels. -/
def series (name : String) (labels : List (String × String)) : String :=
  let inner := ",".intercalate (labels.map fun l => l.1 ++ "=" ++ l.2)
  name ++ "\x7b" ++ inner ++ "\x7d"

/-- The series that an observation belongs to. -/
def key : Measurement → String
  | queryTimed query => series "database_query_duration_seconds" [("query", query)]
  | jobTimed job => series "worker_job_duration_seconds" [("job", job)]
  | jobFinished job outcome => series "worker_jobs_total" [("job", job), ("outcome", outcome)]
  | entriesInserted _ => series "scheduler_entries_inserted_total" []
  | entriesRescheduled _ => series "scheduler_entries_rescheduled_total" []
  | upsertsFailed _ => series "scheduler_upsert_failures_total" []
  | leading _ => series "scheduler_is_leader" []

/-- What an observation makes of the number of its series. -/
def update (m : Measurement) (before : Nat) : Nat :=
  match m with
  | queryTimed _ | jobTimed _ | jobFinished _ _ => before + 1
  | entriesInserted count | entriesRescheduled count | upsertsFailed count => before + count
  | leading isLeader => if isLeader then 1 else 0

end Measurement

/-- The numbers of all series observed so far, in the order of their first observation. -/
abbrev Metrics := List (String × Nat)

/-- Takes an observation into the numbers. -/
def Metrics.record (metrics : Metrics) (m : Measurement) : Metrics :=
  match metrics with
  | [] => [(m.key, m.update 0)]
  | (key, number) :: rest =>
    if key = m.key then (key, m.update number) :: rest
    else (key, number) :: Metrics.record rest m

end JobDispatch
