import JobDispatch.Cron.Expression
import JobDispatch.Cron.Next
import JobDispatch.Text.Blank

/-!
Schedules: recurrence expressions that have been read.

* `Schedule.parse` reads an expression; five columns get a seconds column of `0` put before them.
  `ScheduleError` says what can be wrong with one.
* `Schedule.nextAfter` is the next time at which the schedule fires.
-/

namespace JobDispatch

open Cron (Fields Upcoming)

/-- Why a text is no schedule. -/
inductive ScheduleError where
  | empty
  | invalid (expression : String)
  deriving DecidableEq, Repr

/-- The wording of each fault. -/
def ScheduleError.message : ScheduleError → String
  | .empty => "Empty schedule expression"
  | .invalid expression =>
    s!"Invalid schedule expression '{expression}': Invalid expression: Invalid cron expression."

/-- A recurrence with the expression it was given as. -/
structure Schedule where
  expression : String
  fields : Fields
  deriving DecidableEq, Repr

namespace Schedule

/-- The expression with all its columns: five columns get a seconds column. -/
def withSeconds (s : List Char) : List Char :=
  if s.head? ≠ some '@' ∧ (Text.pieces s).length = 5 then '0' :: ' ' :: s else s

/-- Reads a schedule; blanks at its two ends do not count. -/
def parse (text : String) : Except ScheduleError Schedule :=
  let s := Text.trim text.toList
  let expression := String.ofList s
  if s.isEmpty then .error .empty
  else
    match Cron.expression? (withSeconds s) with
    | some fields => .ok { expression, fields }
    | none => .error (.invalid expression)

/-- The next time after `now` at which the schedule fires in the zone. -/
def nextAfter (s : Schedule) (now : Instant) (z : Zone) : Upcoming := s.fields.nextAfter z now

end Schedule

end JobDispatch
