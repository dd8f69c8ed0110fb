import JobDispatch.Election.Lease
import JobDispatch.Store.Entry

/-!
The statements that the program sends to the store.

A `Query` reads or changes the tables; a `Control` statement belongs to the transaction around the
queries. `Statement.Reply` is the type of what the store answers, and `Statement.point` names the
point at which a statement can be made to fail.
-/

namespace JobDispatch

/-- Statements about the transaction in which queries run. `abandon` is the rollback of a
transaction that was left open. -/
inductive Control where
  | begin
  | setIsolation
  | setLockTimeout (millis : Nat)
  | commit
  | rollback
  | abandon
  deriving DecidableEq, Repr

/-- Statements that read or change the tables. -/
inductive Query where
  | lockLease
  | findLease
  | insertLease (holder : String) (renewedAt : Instant)
  | updateLease (holder : String) (renewedAt : Instant)
  | forceLease (holder : String) (renewedAt : Instant)
  | lockJob (jobName : String)
  | findPending (jobName : String)
  | insertEntry (jobName : String) (notBefore : Option Instant) (parameters : Json)
  | reschedule (id : EntryId) (notBefore : Instant)
  | claimNext (now : Instant)
  | findEntry (id : EntryId)
  | entriesOf (jobName : String)
  | countEntries
  | insertResult (row : ResultRow)
  | findResult (id : EntryId)
  | resultsOf (jobName : String) (limit : Int)
  | countResults
  | deleteResults (cutoff : Instant) (limit : Int)
  deriving DecidableEq, Repr

/-- A statement that the program sends to the store. -/
inductive Statement where
  | control (c : Control)
  | query (q : Query)
  deriving DecidableEq, Repr

/-- What the store answers to a query. -/
abbrev Query.Reply : Query → Type
  | lockLease | lockJob _ => Unit
  | findLease => Option Lease
  | insertLease _ _ | updateLease _ _ | forceLease _ _ => Lease
  | findPending _ | claimNext _ | findEntry _ => Option Entry
  | insertEntry _ _ _ => Entry
  | entriesOf _ => List Entry
  | insertResult _ => ResultRow
  | findResult _ => Option ResultRow
  | resultsOf _ _ => List ResultRow
  | reschedule _ _ | countEntries | countResults | deleteResults _ _ => Nat

/-- What the store answers to a statement. -/
abbrev Statement.Reply : Statement → Type
  | control _ => Unit
  | query q => q.Reply

/-- The points of a procedure at which a statement can be made to fail. -/
inductive Point where
  | begin | setIsolation | setTimeout | commit | rollback
  | lockLease | findLease | insertLease | updateLease | forceLease
  | lockJob | findPending | insertQueue | reschedule | claim
  | insertResult | deleteResults
  deriving DecidableEq, Repr

/-- The point to which a query belongs; plain reads belong to none. -/
def Query.point : Query → Option Point
  | lockLease => some .lockLease
  | findLease => some .findLease
  | insertLease _ _ => some .insertLease
  | updateLease _ _ => some .updateLease
  | forceLease _ _ => some .forceLease
  | lockJob _ => some .lockJob
  | findPending _ => some .findPending
  | insertEntry _ _ _ => some .insertQueue
  | reschedule _ _ => some .reschedule
  | claimNext _ => some .claim
  | insertResult _ => some .insertResult
  | deleteResults _ _ => some .deleteResults
  | findEntry _ | entriesOf _ | countEntries | findResult _ | resultsOf _ _ | countResults => none

/-- The point to which a control statement belongs. -/
def Control.point : Control → Point
  | begin => .begin
  | setIsolation => .setIsolation
  | setLockTimeout _ => .setTimeout
  | commit => .commit
  | rollback | abandon => .rollback

/-- The point to which a statement belongs. -/
def Statement.point : Statement → Option Point
  | control c => some c.point
  | query q => q.point

end JobDispatch
