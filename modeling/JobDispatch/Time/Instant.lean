import JobDispatch.Time.Calendar

/-!
Instants on the UTC time line, and signed lengths of time between them.

An `Instant` counts whole seconds from 1970-01-01T00:00:00Z and nanoseconds past that second. A
leap second has no second of its own: it is the second before it with `10^9` nanoseconds or more.
It comes after that second and before the next one in the order, while differences go by the plain
count `Instant.toNanos`, so that 23:59:60 lies one second after 23:59:59.

* `Instant.Representable` is the range of instants that a clock, a text or an input can name.
* `Instant.stored` is the nearest instant, toward 2000-01-01, that a table can hold.
-/

namespace JobDispatch

/-- A signed length of time, in nanoseconds. -/
abbrev Span := Int

/-- Nanoseconds in one second. -/
abbrev nanosPerSec : Nat := 1000000000

/-- Seconds in one day. -/
abbrev secsPerDay : Nat := 86400

/-- A point on the UTC time line. -/
structure Instant where
  secs : Int
  nanos : Nat
  deriving DecidableEq, Repr

namespace Instant

/-- The first second of the year -262143. -/
abbrev firstSec : Int := -8334601228800

/-- The last second of the year 262142. -/
abbrev lastSec : Int := 8210266876799

/-- Instants that a clock can show: years from -262143 to 262142, and a leap second only as the
last second of a minute. -/
def Representable (t : Instant) : Prop :=
  firstSec ≤ t.secs ∧ t.secs ≤ lastSec ∧
    (t.nanos < nanosPerSec ∨ t.nanos < 2 * nanosPerSec ∧ t.secs % 60 = 59)

instance (t : Instant) : Decidable t.Representable := by unfold Representable; infer_instance

/-- The plain count of nanoseconds since 1970-01-01T00:00:00Z. -/
def toNanos (t : Instant) : Int := t.secs * nanosPerSec + t.nanos

/-- The instant, outside a leap second, with the given count of nanoseconds. -/
def ofNanos (n : Int) : Instant := ⟨n / nanosPerSec, (n % nanosPerSec).toNat⟩

/-- The order of instants: by second, and within a second by the nanoseconds past it. -/
instance : LE Instant := ⟨fun a b => a.secs < b.secs ∨ a.secs = b.secs ∧ a.nanos ≤ b.nanos⟩

/-- The strict order of instants. -/
instance : LT Instant := ⟨fun a b => a.secs < b.secs ∨ a.secs = b.secs ∧ a.nanos < b.nanos⟩

instance (a b : Instant) : Decidable (a ≤ b) :=
  inferInstanceAs (Decidable (a.secs < b.secs ∨ a.secs = b.secs ∧ a.nanos ≤ b.nanos))

instance (a b : Instant) : Decidable (a < b) :=
  inferInstanceAs (Decidable (a.secs < b.secs ∨ a.secs = b.secs ∧ a.nanos < b.nanos))

/-- The signed length of time from `start` to `t`. -/
def since (t start : Instant) : Span := t.toNanos - start.toNanos

/-- The instant at a whole second. -/
def ofSecs (s : Int) : Instant := ⟨s, 0⟩

/-- The instant with the given parts, when it is representable. -/
def ofParts? (secs : Int) (nanos : Nat) : Option Instant :=
  if Representable ⟨secs, nanos⟩ then some ⟨secs, nanos⟩ else none

/-- The instant `span` earlier, when it is representable. -/
def back? (t : Instant) (span : Span) : Option Instant :=
  let earlier := ofNanos (t.toNanos - span)
  if earlier.Representable then some earlier else none

/-- The instant `span` later, representable or not. -/
def advance (t : Instant) (span : Span) : Instant := ofNanos (t.toNanos + span)

/-- 2000-01-01T00:00:00Z, from which tables count. -/
abbrev tableOrigin : Int := 946684800 * nanosPerSec

/-- What a table keeps of an instant: whole microseconds, cut off toward 2000-01-01. -/
def stored (t : Instant) : Instant :=
  ofNanos (tableOrigin + (t.toNanos - tableOrigin).tdiv 1000 * 1000)

@[simp] theorem toNanos_ofNanos (n : Int) : (ofNanos n).toNanos = n := by
  simp only [ofNanos, toNanos, nanosPerSec]; omega

theorem le_def (a b : Instant) : a ≤ b ↔ a.secs < b.secs ∨ a.secs = b.secs ∧ a.nanos ≤ b.nanos :=
  Iff.rfl

theorem lt_def (a b : Instant) : a < b ↔ a.secs < b.secs ∨ a.secs = b.secs ∧ a.nanos < b.nanos :=
  Iff.rfl

/-- Outside leap seconds the order is that of the plain count. -/
theorem le_iff_toNanos (a b : Instant) (ha : a.nanos < nanosPerSec) (hb : b.nanos < nanosPerSec) :
    a ≤ b ↔ a.toNanos ≤ b.toNanos := by
  simp only [le_def, toNanos, nanosPerSec] at *; omega

/-- Outside leap seconds the strict order is that of the plain count. -/
theorem lt_iff_toNanos (a b : Instant) (ha : a.nanos < nanosPerSec) (hb : b.nanos < nanosPerSec) :
    a < b ↔ a.toNanos < b.toNanos := by
  simp only [lt_def, toNanos, nanosPerSec] at *; omega

/-- No count of nanoseconds makes a leap second. -/
theorem nanos_ofNanos_lt (n : Int) : (ofNanos n).nanos < nanosPerSec := by
  simp only [ofNanos, nanosPerSec]; omega

@[simp] theorem toNanos_stored (t : Instant) :
    t.stored.toNanos = tableOrigin + (t.toNanos - tableOrigin).tdiv 1000 * 1000 := by
  simp [stored]

/-- Storing twice keeps what storing once keeps. -/
@[simp] theorem stored_stored (t : Instant) : t.stored.stored = t.stored := by
  have h (n : Int) : (n.tdiv 1000 * 1000).tdiv 1000 = n.tdiv 1000 :=
    Int.mul_tdiv_cancel _ (by decide)
  have h' (n : Int) : tableOrigin + n - tableOrigin = n := by omega
  rw [stored, toNanos_stored, h', h, ← stored]

end Instant

end JobDispatch
