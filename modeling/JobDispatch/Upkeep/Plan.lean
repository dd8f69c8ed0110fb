import JobDispatch.Store.Entry
import JobDispatch.Time.Duration

/-!
What to do about the pending entry of a periodic job.

A job without an entry gets one at its next time. An entry is moved to the next time only while it
is more than a safety margin away; one that has no earliest time, or is nearer, stays.
-/

namespace JobDispatch

/-- A change to the pending entry of a job. -/
inductive Plan where
  | insert (instant : Instant)
  | reschedule (id : EntryId) (current next : Instant)
  | keep
  deriving DecidableEq, Repr

/-- The change that brings the pending entry of a job to its next time. -/
def Plan.make (pending : Option Entry) (next now : Instant) (margin : Span) : Plan :=
  match pending with
  | none => .insert next
  | some entry =>
    match entry.notBefore with
    | none => .keep
    | some current =>
      if margin < current.since now ∧ current ≠ next then .reschedule entry.id current next
      else .keep

/-- The margin when the configured duration exceeds the longest span: five minutes. -/
abbrev defaultMargin : Span := 5 * 60 * nanosPerSec

/-- The length of time before which an entry is not moved any more. -/
def marginSpan (configured : Duration) : Span := configured.toSpan?.getD defaultMargin

end JobDispatch
