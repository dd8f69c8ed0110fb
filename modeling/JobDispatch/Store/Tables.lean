import JobDispatch.Store.Error
import JobDispatch.Store.Statement

/-!
The tables of the store and what queries do to them.

There are waiting entries and results, each in the order of insertion, and at most one lease.
Instants are kept at the resolution of `Instant.stored`. Where a query may pick among rows, it
picks by lot: each row has a lot for the query, and the least lot wins, the earlier row of two with
the same lot.

* `Query.refusal?` lists the values that the store does not take.
* `Tables.apply` answers a query and gives the tables after it.
-/

namespace JobDispatch

/-- The rows of the store. -/
structure Tables where
  queue : List Entry
  results : List ResultRow
  lease : Option Lease
  deriving DecidableEq, Repr

/-! ### Values that are refused -/

namespace StoreError

/-- A text with a NUL character. -/
def nulInText : StoreError :=
  refused (some "22021") "invalid byte sequence for encoding \"UTF8\": 0x00"

/-- A JSON value with a NUL character in a string or key. -/
def nulInJson : StoreError := refused (some "22P05") "unsupported Unicode escape sequence"

/-- A name longer than its column. -/
def nameTooLong : StoreError :=
  refused (some "22001") "value too long for type character varying(255)"

/-- A row whose key is taken. -/
def duplicateKey (table : String) : StoreError :=
  refused (some "23505") s!"duplicate key value violates unique constraint \"{table}_pkey\""

/-- A negative number of rows. -/
def negativeLimit : StoreError := refused (some "2201W") "LIMIT must not be negative"

end StoreError

/-- The width of the columns for names. -/
abbrev nameWidth : Nat := 255

/-- Why a text is refused. -/
def textRefusal? (text : String) : Option StoreError :=
  if text.toList.contains '\x00' then some .nulInText else none

/-- Why a name is refused. -/
def nameRefusal? (name : String) : Option StoreError :=
  textRefusal? name <|> if nameWidth < name.length then some .nameTooLong else none

/-- Why a JSON value is refused. -/
def jsonRefusal? (v : Json) : Option StoreError :=
  if v.mentions '\x00' then some .nulInJson else none

/-- Why a number of rows is refused. -/
def limitRefusal? (limit : Int) : Option StoreError :=
  if limit < 0 then some .negativeLimit else none

/-- Why a result is refused; its columns are looked at in order. -/
def ResultRow.refusal? (r : ResultRow) : Option StoreError :=
  nameRefusal? r.jobName <|> jsonRefusal? r.parameters <|> r.result.bind jsonRefusal? <|>
    textRefusal? r.errorLog

/-- Why a query is refused for its values. -/
def Query.refusal? : Query → Option StoreError
  | insertLease holder _ | updateLease holder _ | forceLease holder _ => textRefusal? holder
  | lockJob name | findPending name | entriesOf name => textRefusal? name
  | insertEntry name _ parameters => nameRefusal? name <|> jsonRefusal? parameters
  | insertResult row => row.refusal?
  | resultsOf name limit => textRefusal? name <|> limitRefusal? limit
  | deleteResults _ limit => limitRefusal? limit
  | lockLease | findLease | reschedule _ _ | claimNext _ | findEntry _ | countEntries
  | findResult _ | countResults => none

/-! ### Order -/

/-- The first element that no other comes before. -/
def leastBy {α : Type} (before : α → α → Bool) : List α → Option α
  | [] => none
  | a :: rest =>
    match leastBy before rest with
    | none => some a
    | some b => if before b a then some b else some a

/-- The first entry becomes due earlier, or at the same time and was created earlier. Entries
without an earliest time come first. -/
def Entry.before (a b : Entry) : Bool :=
  match a.notBefore, b.notBefore with
  | none, none => a.createdAt < b.createdAt
  | none, some _ => true
  | some _, none => false
  | some s, some t => s < t || (s == t && a.createdAt < b.createdAt)

/-- The rows, those with lesser lots first. -/
def sortedByLot {α : Type} (lot : α → Nat) (rows : List α) : List α :=
  rows.mergeSort fun a b => lot a ≤ lot b

/-! ### Queries -/

namespace Tables

/-- The store as it is created. -/
def empty : Tables := ⟨[], [], none⟩

/-- What a query needs besides the tables: its place in the order of statements, from which new
rows are numbered, and the lots of the rows. -/
structure Draw where
  turn : Nat
  lot : EntryId → Nat

/-- The lease in place of any other. -/
def withLease (t : Tables) (holder : String) (renewedAt : Instant) : Lease × Tables :=
  let lease : Lease := ⟨holder, renewedAt.stored⟩
  (lease, { t with lease := some lease })

/-- The entry of a job that becomes due first. -/
def pendingOf (t : Tables) (jobName : String) : Option Entry :=
  leastBy Entry.before (t.queue.filter fun e => e.jobName == jobName)

/-- The entries of a job in the order in which they become due. -/
def entriesOf (t : Tables) (jobName : String) : List Entry :=
  (t.queue.filter fun e => e.jobName == jobName).mergeSort fun a b => !b.before a

/-- A new entry at the end of the queue. -/
def insertEntry (t : Tables) (d : Draw) (jobName : String) (notBefore : Option Instant)
    (parameters : Json) : Entry × Tables :=
  let entry : Entry :=
    { id := .drawn d.turn, jobName, notBefore := notBefore.map Instant.stored, parameters
      concurrencyKey := none, dedupKey := none, createdAt := d.turn }
  (entry, { t with queue := t.queue ++ [entry] })

/-- The entry with the given identifier gets another earliest time. -/
def reschedule (t : Tables) (id : EntryId) (notBefore : Instant) : Nat × Tables :=
  let moved := t.queue.map fun e =>
    if e.id = id then { e with notBefore := some notBefore.stored } else e
  (t.queue.countP (·.id = id), { t with queue := moved })

/-- The entries that are due. -/
def due (t : Tables) (now : Instant) : List Entry := t.queue.filter fun e => e.Due now.stored

/-- Takes one of the due entries, by lot, out of the queue. -/
def claim (t : Tables) (d : Draw) (now : Instant) : Option Entry × Tables :=
  match leastBy (fun a b => d.lot a.id < d.lot b.id) (t.due now) with
  | none => (none, t)
  | some entry => (some entry, { t with queue := t.queue.filter fun e => e.id ≠ entry.id })

/-- The result as it is stored. -/
def storedResult (row : ResultRow) : ResultRow := { row with executedAt := row.executedAt.stored }

/-- The results of a job, the latest first. -/
def resultsOf (t : Tables) (jobName : String) (limit : Int) : List ResultRow :=
  let rows := t.results.filter fun r => r.jobName == jobName
  (rows.mergeSort fun a b => b.executedAt ≤ a.executedAt).take limit.toNat

/-- The results from before the cutoff. -/
def older (t : Tables) (cutoff : Instant) : List ResultRow :=
  t.results.filter fun r => r.executedAt < cutoff.stored

/-- Deletes at most `limit` results from before the cutoff, chosen by lot. -/
def deleteResults (t : Tables) (d : Draw) (cutoff : Instant) (limit : Int) : Nat × Tables :=
  let chosen := ((sortedByLot (fun r : ResultRow => d.lot r.id) (t.older cutoff)).take
    limit.toNat).map ResultRow.id
  (chosen.length, { t with results := t.results.filter fun r => r.id ∉ chosen })

/-- Answers a query whose values are taken. -/
def answer (t : Tables) (d : Draw) : (q : Query) → Except StoreError (q.Reply × Tables)
  | .lockLease | .lockJob _ => .ok ((), t)
  | .findLease => .ok (t.lease, t)
  | .insertLease holder renewedAt =>
    match t.lease with
    | none => .ok (t.withLease holder renewedAt)
    | some _ => .error (.duplicateKey "scheduler_lease")
  | .updateLease holder renewedAt =>
    match t.lease with
    | none => .error .rowNotFound
    | some _ => .ok (t.withLease holder renewedAt)
  | .forceLease holder renewedAt => .ok (t.withLease holder renewedAt)
  | .findPending name => .ok (t.pendingOf name, t)
  | .insertEntry name notBefore parameters => .ok (t.insertEntry d name notBefore parameters)
  | .reschedule id notBefore => .ok (t.reschedule id notBefore)
  | .claimNext now => .ok (t.claim d now)
  | .findEntry id => .ok (t.queue.find? fun e => e.id = id, t)
  | .entriesOf name => .ok (t.entriesOf name, t)
  | .countEntries => .ok (t.queue.length, t)
  | .insertResult row =>
    if t.results.any fun r => r.id = row.id then .error (.duplicateKey "job_results")
    else .ok (storedResult row, { t with results := t.results ++ [storedResult row] })
  | .findResult id => .ok (t.results.find? fun r => r.id = id, t)
  | .resultsOf name limit => .ok (t.resultsOf name limit, t)
  | .countResults => .ok (t.results.length, t)
  | .deleteResults cutoff limit => .ok (t.deleteResults d cutoff limit)

/-- Answers a query and gives the tables after it, or says why it is refused. -/
def apply (t : Tables) (d : Draw) (q : Query) : Except StoreError (q.Reply × Tables) :=
  match q.refusal? with
  | some fault => .error fault
  | none => t.answer d q

end Tables

end JobDispatch
