import JobDispatch.Log.Metrics
import JobDispatch.Log.Notice
import JobDispatch.Store.Basic

/-!
Scripts: procedures that talk to the store.

A `Script` is a tree. At each node the procedure sends a statement, reads the clock, writes a log
line or takes a measurement, and goes on by the answer; or it is done, or it halts for good. What
the answers are is not part of it, so that the same script can be run alone (`Script.run`) or step
by step among others.

* `Attempt` is a script that may end with an error of the store.
* `Attempt.inTransaction` puts a transaction around an attempt. One that is left open by an error
  is abandoned, so that nothing of it stays.
-/

namespace JobDispatch

/-- Why a script never comes to an end: it waits for ever, or an instant leaves the calendar. -/
inductive Halt where
  | endless
  | outOfCalendar
  deriving DecidableEq, Repr

/-- A procedure that talks to the store. -/
inductive Script (α : Type) where
  | done (value : α)
  | exec (s : Statement) (next : Except StoreError s.Reply → Script α)
  | clock (next : Instant → Script α)
  | note (n : Notice) (next : Script α)
  | measure (m : Measurement) (next : Script α)
  | halt (h : Halt)

namespace Script

variable {α β γ : Type}

/-- Goes on with a second procedure when the first is done. -/
def bind : Script α → (α → Script β) → Script β
  | done value, f => f value
  | exec s next, f => exec s fun reply => (next reply).bind f
  | clock next, f => clock fun now => (next now).bind f
  | note n next, f => note n (next.bind f)
  | measure m next, f => measure m (next.bind f)
  | halt h, _ => halt h

instance : Monad Script where
  pure := done
  bind := bind

theorem bind_assoc (p : Script α) (f : α → Script β) (g : β → Script γ) :
    (p.bind f).bind g = p.bind fun a => (f a).bind g := by
  induction p with
  | done value => rfl
  | halt h => rfl
  | exec s next ih => simp only [bind]; congr 1; funext reply; exact ih reply
  | clock next ih => simp only [bind]; congr 1; funext now; exact ih now
  | note n next ih => simp only [bind]; congr 1
  | measure m next ih => simp only [bind]; congr 1

theorem bind_done (p : Script α) : p.bind done = p := by
  induction p with
  | done value => rfl
  | halt h => rfl
  | exec s next ih => simp only [bind]; congr 1; funext reply; exact ih reply
  | clock next ih => simp only [bind]; congr 1; funext now; exact ih now
  | note n next ih => simp only [bind]; congr 1
  | measure m next ih => simp only [bind]; congr 1

instance : LawfulMonad Script := .mk' Script bind_done (fun _ _ => rfl) bind_assoc

/-- Reads the clock. -/
def now : Script Instant := clock done

/-- Writes a log line. -/
def log (n : Notice) : Script Unit := note n (done ())

/-- Takes a measurement. -/
def record (m : Measurement) : Script Unit := measure m (done ())

end Script

/-- A procedure that may end with an error of the store. -/
abbrev Attempt (α : Type) := ExceptT StoreError Script α

namespace Attempt

variable {α : Type}

/-- Sends a statement. -/
def send (s : Statement) : Attempt s.Reply := ExceptT.mk (.exec s .done)

/-- Sends a control statement. -/
def control (c : Control) : Attempt Unit := send (.control c)

/-- Sends a query. -/
def query (q : Query) : Attempt q.Reply := send (.query q)

/-- Counts the attempt among the timed queries, whatever comes of it. -/
def timed (name : String) (attempt : Attempt α) : Attempt α :=
  ExceptT.mk (attempt.run.bind fun outcome => .measure (.queryTimed name) (.done outcome))

/-- The time for which a statement waits for a lock, in milliseconds; never zero. -/
def lockTimeoutMillis (lockTimeout : Duration) : Nat := max lockTimeout.millis 1

/-- Runs an attempt and abandons the open transaction if it fails. -/
def orAbandon (attempt : Attempt α) : Attempt α :=
  ExceptT.mk (attempt.run.bind fun outcome =>
    match outcome with
    | .ok value => .done (.ok value)
    | .error fault => .exec (.control .abandon) fun _ => .done (.error fault))

/-- Runs an attempt inside a new transaction, which the attempt itself has to end. -/
def inTransaction (lockTimeout : Duration) (attempt : Attempt α) : Attempt α := do
  control .begin
  orAbandon do
    control .setIsolation
    control (.setLockTimeout (lockTimeoutMillis lockTimeout))
    attempt

/-- Runs an attempt inside a new transaction and commits it. -/
def committed (lockTimeout : Duration) (attempt : Attempt α) : Attempt α :=
  inTransaction lockTimeout do
    let value ← attempt
    control .commit
    pure value

end Attempt

end JobDispatch
