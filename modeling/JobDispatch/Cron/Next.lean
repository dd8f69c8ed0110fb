import JobDispatch.Cron.Fields
import JobDispatch.Zone.Basic

/-!
The next time at which a recurrence fires.

The search walks down the calendar from the second after the given instant: years, months, days,
hours, minutes and seconds, each level through the values of its field in ascending order. The
first branch of the walk is `tight`: it starts each level at the value that the local clock shows.
All later branches start at the least value of the unit.

* `Verdict` says what becomes of one local second: the recurrence fires, does not, or the zone has
  no such day.
* `Fields.nextAfter` is the whole search. A local time that the zone skips or shows twice never
  fires.
-/

namespace JobDispatch.Cron

/-! ### Verdicts -/

/-- What a part of the search comes to. -/
inductive Verdict where
  | nothing
  | leaveDay
  | noSuchDay
  | fires (secs : Int)
  deriving DecidableEq, Repr

/-- The first verdict other than `nothing`, going through `values`; only the first value is visited
with the flag `tight`. -/
def firstVerdict (visit : Bool → Nat → Verdict) (tight : Bool) : List Nat → Verdict
  | [] => .nothing
  | v :: later =>
    match visit tight v with
    | .nothing => firstVerdict visit false later
    | verdict => verdict

/-- The search goes on with the next day. -/
def Verdict.untilNextDay : Verdict → Verdict
  | .leaveDay => .nothing
  | verdict => verdict

/-! ### Levels -/

/-- Goes through the values of a level from `shown` on when the branch is tight, and from the least
value on otherwise. The first value stays tight only if it is the shown one. -/
def levelFrom (tight : Bool) (shown low : Nat) (values : List Nat) (visit : Bool → Nat → Verdict) :
    Verdict :=
  let bound := if tight then shown else low
  firstVerdict visit (tight && values.contains bound) (values.filter (bound ≤ ·))

namespace Fields

variable (f : Fields) (z : Zone)

/-- What becomes of one local second. -/
def verdictAt (c : CalendarTime) : Verdict :=
  if z.hasDay c.date.toDays then
    match z.instantsOf c.toSecs with
    | [secs] => if f.weekdays.contains c.weekday then .fires secs else .leaveDay
    | _ => .nothing
  else .noSuchDay

/-- The search through the seconds of a minute. -/
def inMinute (start : CalendarTime) (date : Date) (hour minute : Nat) (tight : Bool) : Verdict :=
  levelFrom tight start.second CalendarUnit.second.low f.seconds fun _ second =>
    f.verdictAt z { date, hour, minute, second }

/-- The search through the minutes of an hour. -/
def inHour (start : CalendarTime) (date : Date) (hour : Nat) (tight : Bool) : Verdict :=
  levelFrom tight start.minute CalendarUnit.minute.low f.minutes fun tight minute =>
    f.inMinute z start date hour minute tight

/-- The search through the hours of a day. -/
def inDay (start : CalendarTime) (date : Date) (tight : Bool) : Verdict :=
  Verdict.untilNextDay <|
    levelFrom tight start.hour CalendarUnit.hour.low f.hours fun tight hour =>
      f.inHour z start date hour tight

/-- The search through the days of a month. The first day is never later than the last of the
month. -/
def inMonth (start : CalendarTime) (year month : Nat) (tight : Bool) : Verdict :=
  let last := daysInMonth year month
  let bound := if tight then start.date.day else CalendarUnit.day.low
  let days := f.days.filter fun day => min bound last ≤ day && day ≤ last
  firstVerdict (fun tight day => f.inDay z start ⟨year, month, day⟩ tight)
    (tight && f.days.contains bound) days

/-- The search through the months of a year. -/
def inYear (start : CalendarTime) (year : Nat) (tight : Bool) : Verdict :=
  levelFrom tight start.date.month CalendarUnit.month.low f.months fun tight month =>
    f.inMonth z start year month tight

/-- The search through the years, from the local time `start` on. -/
def search (start : CalendarTime) : Verdict :=
  if start.date.year < 0 then .nothing
  else
    firstVerdict (fun tight year => f.inYear z start year tight) true
      (f.years.filter fun year => start.date.year ≤ (year : Int))

end Fields

/-! ### The next time -/

/-- The answer to when a recurrence fires next. -/
inductive Upcoming where
  | never
  | outOfCalendar
  | at (instant : Instant)
  deriving DecidableEq, Repr

/-- The next time after `now` at which the recurrence fires in the zone. There is no answer,
`outOfCalendar`, when the calendar ends at `now` or the search meets a day that the zone skips. -/
def Fields.nextAfter (f : Fields) (z : Zone) (now : Instant) : Upcoming :=
  let start := now.secs + 1
  if Instant.lastSec < start then .outOfCalendar
  else
    match f.search z (CalendarTime.ofSecs (z.localAt start)) with
    | .fires secs => .at (Instant.ofSecs secs)
    | .noSuchDay => .outOfCalendar
    | .nothing | .leaveDay => .never

end JobDispatch.Cron
