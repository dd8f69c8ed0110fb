import JobDispatch.Number.Power
import JobDispatch.Time.Instant

/-!
Durations: lengths of time that are never negative, as settings give them.

* `Duration.text` writes a duration in the largest unit among seconds, milliseconds, microseconds
  and nanoseconds that does not exceed it, with exact decimals.
* `Duration.toSpan?` is the signed length of the same time, which has an upper bound,
  `Span.greatest`; `Duration.twice?` doubles a duration unless that exceeds the largest duration.
-/

namespace JobDispatch

/-- The longest signed length of time: `2^63 - 1` milliseconds. -/
abbrev Span.greatest : Span := (int64Bound - 1) * 1000000

/-- The span of whole milliseconds and further nanoseconds, unless it exceeds the longest one. -/
def Span.ofParts? (millis extra : Int) : Option Span :=
  let whole : Span := millis * 1000000
  if whole.natAbs ≤ Span.greatest.natAbs ∧ (whole + extra).natAbs ≤ Span.greatest.natAbs then
    some (whole + extra)
  else none

/-- The whole seconds of a span, cut off toward zero. -/
def Span.secs (s : Span) : Int := s.tdiv nanosPerSec

/-- The nanoseconds of a span past its whole seconds, with the same sign. -/
def Span.restNanos (s : Span) : Int := s.tmod nanosPerSec

/-- A length of time, in nanoseconds. -/
structure Duration where
  nanos : Nat
  deriving DecidableEq, Repr

namespace Duration

/-- No duration reaches this many seconds. -/
abbrev secsBound : Nat := UInt64.size

/-- The duration of whole seconds and further nanoseconds. -/
def ofParts (secs nanos : Nat) : Duration := ⟨secs * nanosPerSec + nanos⟩

/-- The duration of whole seconds. -/
def ofSecs (secs : Nat) : Duration := ⟨secs * nanosPerSec⟩

/-- The duration of whole milliseconds. -/
def ofMillis (millis : Nat) : Duration := ⟨millis * 1000000⟩

/-- The whole milliseconds of a duration. -/
def millis (d : Duration) : Nat := d.nanos / 1000000

instance : LE Duration := ⟨fun a b => a.nanos ≤ b.nanos⟩
instance : LT Duration := ⟨fun a b => a.nanos < b.nanos⟩

instance (a b : Duration) : Decidable (a ≤ b) := inferInstanceAs (Decidable (a.nanos ≤ b.nanos))
instance (a b : Duration) : Decidable (a < b) := inferInstanceAs (Decidable (a.nanos < b.nanos))

/-- Twice the duration, unless its seconds exceed 64 bits. -/
def twice? (d : Duration) : Option Duration :=
  if 2 * d.nanos < secsBound * nanosPerSec then some ⟨2 * d.nanos⟩ else none

/-- The signed length of the same time, unless it exceeds the longest one. -/
def toSpan? (d : Duration) : Option Span :=
  if (d.nanos : Int) ≤ Span.greatest then some d.nanos else none

/-- The decimals of a quotient whose denominator is `10 ^ places`, without trailing zeros. -/
def decimals (places rest : Nat) : List Char :=
  let digits := Nat.toDigits 10 rest
  let padded := List.replicate (places - digits.length) '0' ++ digits
  (padded.reverse.dropWhile (· = '0')).reverse

/-- A number of nanoseconds in a unit of `10 ^ places` nanoseconds. -/
def inUnit (places nanos : Nat) (unit : String) : String :=
  let rest := nanos % tenTo places
  let fraction := if rest = 0 then "" else "." ++ String.ofList (decimals places rest)
  toString (nanos / tenTo places) ++ fraction ++ unit

/-- The duration in its largest unit. -/
def text (d : Duration) : String :=
  if 1000000000 ≤ d.nanos then inUnit 9 d.nanos "s"
  else if 1000000 ≤ d.nanos then inUnit 6 d.nanos "ms"
  else if 1000 ≤ d.nanos then inUnit 3 d.nanos "µs"
  else inUnit 0 d.nanos "ns"

end Duration

end JobDispatch
