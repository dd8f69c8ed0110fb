import JobDispatch.Store.Tables

/-!
The store: its tables, the open transaction, and the faults that are to strike.

A transaction remembers the tables as they were when it began. Rolling back brings them back, and
so does a commit that fails. A fault makes statements of one point fail: it first lets `skip` of
them pass and then strikes `times` of them.

* `Store.perform` executes one statement.
* `Store.faultsUsed` says that no fault is left to strike.
-/

namespace JobDispatch

/-- Statements of one point that are to fail. -/
structure Fault where
  point : Point
  code : String
  message : String
  times : Nat
  skip : Nat
  deriving DecidableEq, Repr

/-- The error of a statement that the fault strikes. -/
def Fault.error (f : Fault) : StoreError := .refused (some f.code) f.message

namespace Fault

/-- The first fault that concerns the point, and is not used up, counts the statement: it lets it
pass or strikes it. -/
def strike (point : Point) : List Fault → Option StoreError × List Fault
  | [] => (none, [])
  | f :: rest =>
    if f.point = point ∧ 0 < f.times then
      if 0 < f.skip then (none, { f with skip := f.skip - 1 } :: rest)
      else (some f.error, { f with times := f.times - 1 } :: rest)
    else
      let (error, rest) := strike point rest
      (error, f :: rest)

/-- The first fault that concerns the point, and is not used up, lets a statement pass that cannot
fail. -/
def letPass (point : Point) : List Fault → List Fault
  | [] => []
  | f :: rest =>
    if f.point = point ∧ 0 < f.times then { f with skip := f.skip - 1 } :: rest
    else f :: letPass point rest

end Fault

/-- The store. `saved` are the tables as they were when the open transaction began, `lots` gives
the lots of the rows for each statement, and `turn` counts the statements. -/
structure Store where
  tables : Tables
  saved : Option Tables
  faults : List Fault
  lots : Nat → EntryId → Nat
  turn : Nat
  lockTimeout : Option Nat

namespace Store

/-- A new store, in which the earliest row is always picked. -/
def new : Store where
  tables := .empty
  saved := none
  faults := []
  lots := fun _ _ => 0
  turn := 1
  lockTimeout := none

/-- No fault is left to strike. -/
def faultsUsed (st : Store) : Bool := st.faults.all fun f => f.times == 0

/-- The tables as they were before the open transaction. -/
def restored (st : Store) : Store := { st with tables := st.saved.getD st.tables, saved := none }

/-- What the lots and the numbering are for the next query. -/
def draw (st : Store) : Tables.Draw := ⟨st.turn, st.lots st.turn⟩

/-- The effect of a control statement. -/
def controlled (st : Store) : Control → Store
  | .begin => { st with saved := some st.tables }
  | .setIsolation => st
  | .setLockTimeout millis => { st with lockTimeout := some millis }
  | .commit => { st with saved := none }
  | .rollback | .abandon => st.restored

/-- The effect of a statement that a fault strikes. -/
def struck (st : Store) : Statement → Store
  | .control .commit => st.restored
  | _ => st

/-- Executes a statement that no fault strikes. -/
def execute (st : Store) : (s : Statement) → Except StoreError s.Reply × Store
  | .control c => (.ok (), st.controlled c)
  | .query q =>
    match st.tables.apply st.draw q with
    | .ok (reply, tables) => (.ok reply, { st with tables })
    | .error fault => (.error fault, st)

/-- Executes one statement. -/
def perform (st : Store) (s : Statement) : Except StoreError s.Reply × Store :=
  let (error, faults) := match s, s.point with
    | .control .abandon, _ => (none, Fault.letPass .rollback st.faults)
    | _, some point => Fault.strike point st.faults
    | _, none => (none, st.faults)
  let st := { st with faults, turn := st.turn + 1 }
  match error with
  | some e => (.error e, st.struck s)
  | none => st.execute s

end Store

end JobDispatch
