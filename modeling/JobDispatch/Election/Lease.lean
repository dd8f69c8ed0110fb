import JobDispatch.Time.Duration

/-!
The lease by which one instance leads.

The lease names its holder and the instant of its last renewal. Its age at an instant decides what
an attempt does (`Lease.decide`) and who may act as leader (`Lease.holdsFresh`): a lease that is
fresh for its holder cannot be taken over at the same instant.

* `Decision` is what an attempt does with the lease.
* `leaseSpan` is the length of time that a configured duration stands for.
-/

namespace JobDispatch

/-- The right to lead: who has it, and when it was last renewed. -/
structure Lease where
  holder : String
  renewedAt : Instant
  deriving DecidableEq, Repr

/-- What an attempt to lead does with the lease. -/
inductive Decision where
  | acquire
  | renew
  | steal (previous : String)
  | yield (holder : String)
  deriving DecidableEq, Repr

namespace Lease

/-- The time since the last renewal, negative for a renewal in the future. -/
def age (l : Lease) (now : Instant) : Span := now.since l.renewedAt

/-- What an attempt of `candidate` does at `now`: the holder renews its lease, others take it over
once its age reaches `span`. -/
def decide (lease : Option Lease) (candidate : String) (now : Instant) (span : Span) : Decision :=
  match lease with
  | none => .acquire
  | some l =>
    if l.holder = candidate then .renew
    else if span ≤ l.age now then .steal l.holder
    else .yield l.holder

/-- The lease names the candidate and has not reached the age `span`. -/
def HoldsFresh (lease : Option Lease) (candidate : String) (now : Instant) (span : Span) : Prop :=
  ∃ l, lease = some l ∧ l.holder = candidate ∧ l.age now < span

instance (lease : Option Lease) (candidate : String) (now : Instant) (span : Span) :
    Decidable (HoldsFresh lease candidate now span) :=
  match lease with
  | none => isFalse (by rintro ⟨l, h, _⟩; cases h)
  | some l =>
    if h : l.holder = candidate ∧ l.age now < span then isTrue ⟨l, rfl, h⟩
    else isFalse (by rintro ⟨m, e, h'⟩; cases e; exact h h')

/-- The lease is the candidate's and still fresh. -/
def holdsFresh (lease : Option Lease) (candidate : String) (now : Instant) (span : Span) : Bool :=
  Decidable.decide (HoldsFresh lease candidate now span)

end Lease

/-- The span of a lease whose configured duration exceeds the longest span: 365000 days. -/
abbrev unboundedLease : Span := 365000 * (secsPerDay * nanosPerSec)

/-- The length of time after which a lease can be taken over. -/
def leaseSpan (configured : Duration) : Span := configured.toSpan?.getD unboundedLease

end JobDispatch
