import JobDispatch.Script.Basic

/-!
Running a script alone.

A `Session` is what a script meets: the store, a clock, and a journal of what it reported. Each
reading of the clock takes the next of its readings.
-/

namespace JobDispatch

/-- What a procedure has reported: its log lines, oldest first, and the measurements. -/
structure Journal where
  notices : List Notice
  metrics : Metrics
  deriving DecidableEq, Repr

/-- What a script meets when it runs alone. -/
structure Session where
  store : Store
  clock : Nat → Instant
  readings : Nat
  journal : Journal

namespace Session

/-- A session with a new store. -/
def new (clock : Nat → Instant) : Session := ⟨.new, clock, 0, ⟨[], []⟩⟩

/-- The session after a log line. -/
def logged (s : Session) (n : Notice) : Session :=
  { s with journal := { s.journal with notices := s.journal.notices ++ [n] } }

/-- The session after a measurement. -/
def measured (s : Session) (m : Measurement) : Session :=
  { s with journal := { s.journal with metrics := s.journal.metrics.record m } }

end Session

/-- Runs a script to its end, if it has one. -/
def Script.run {α : Type} : Script α → Session → Except Halt α × Session
  | done value, s => (.ok value, s)
  | halt h, s => (.error h, s)
  | exec statement next, s =>
    let (reply, store) := s.store.perform statement
    (next reply).run { s with store }
  | clock next, s => (next (s.clock s.readings)).run { s with readings := s.readings + 1 }
  | note n next, s => next.run (s.logged n)
  | measure m next, s => next.run (s.measured m)

end JobDispatch
