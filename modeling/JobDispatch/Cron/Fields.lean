import JobDispatch.Time.Calendar

/-!
The fields of a recurrence: for each calendar unit the values at which it fires.

* `CalendarUnit` names the seven calendar units, with their ranges (`CalendarUnit.low`,
  `CalendarUnit.high`).
* `Fields` holds the values of each unit, in ascending order; `Fields.everyYear` says that the year
  is unrestricted.
* `CalendarTime` is a local calendar reading and `Fields.Admits` says that every part of it lies in
  its field.
-/

namespace JobDispatch.Cron

/-- The calendar units that a recurrence restricts. -/
inductive CalendarUnit where
  | second | minute | hour | day | month | weekday | year
  deriving DecidableEq, Repr

namespace CalendarUnit

/-- The least value of a unit. -/
def low : CalendarUnit → Nat
  | second | minute | hour => 0
  | day | month | weekday => 1
  | year => 1970

/-- The greatest value of a unit. -/
def high : CalendarUnit → Nat
  | second | minute => 59
  | hour => 23
  | day => 31
  | month => 12
  | weekday => 7
  | year => 2100

/-- The values from `first` to `last`, ascending. -/
def between (first last : Nat) : List Nat := List.range' first (last + 1 - first)

/-- All values of a unit, ascending. -/
def values (u : CalendarUnit) : List Nat := between u.low u.high

end CalendarUnit

/-- The values at which each unit fires, in ascending order. -/
structure Fields where
  seconds : List Nat
  minutes : List Nat
  hours : List Nat
  days : List Nat
  months : List Nat
  weekdays : List Nat
  years : List Nat
  deriving DecidableEq, Repr

/-- A local calendar reading. -/
structure CalendarTime where
  date : Date
  hour : Nat
  minute : Nat
  second : Nat
  deriving DecidableEq, Repr

namespace CalendarTime

/-- The reading as local seconds since 1970-01-01T00:00:00. -/
def toSecs (c : CalendarTime) : Int :=
  c.date.toDays * 86400 + c.hour * 3600 + c.minute * 60 + c.second

/-- The reading at the given local seconds. -/
def ofSecs (shown : Int) : CalendarTime :=
  let clock := (shown % 86400).toNat
  { date := Date.ofDays (shown / 86400)
    hour := clock / 3600
    minute := clock / 60 % 60
    second := clock % 60 }

/-- The weekday of the reading; 1 is Sunday. -/
def weekday (c : CalendarTime) : Nat := weekdayOf c.date.toDays

end CalendarTime

namespace Fields

/-- The year is not restricted. -/
def everyYear (f : Fields) : Bool := f.years == CalendarUnit.year.values

/-- Every part of the reading lies in its field. -/
def Admits (f : Fields) (c : CalendarTime) : Prop :=
  c.second ∈ f.seconds ∧ c.minute ∈ f.minutes ∧ c.hour ∈ f.hours ∧ c.date.day ∈ f.days ∧
    c.date.month ∈ f.months ∧ c.weekday ∈ f.weekdays ∧ ∃ y ∈ f.years, c.date.year = (y : Int)

end Fields

end JobDispatch.Cron
