import JobDispatch.Proofs.Upkeep.Upsert
import JobDispatch.Proofs.Work.Ledger
import Mathlib.Logic.Function.Basic
import Mathlib.Logic.Relation

/-!
Rounds of workers and other tasks that take turns.

A round of a worker claims an entry, starts its body, lets it run, and records its result, in steps
of their own: a body takes a turn after each of its statements or transactions, and each attempt to
write the result is a turn. Other tasks take a turn after each of their statements or transactions.
Faults may strike at any time, and any task may stop for good.

* `Task` and `Task.turn`: a task and how far it has come.
* `Task.left`: what is left of a round. The steps of a round make up `Worker.runOnce`
  (`Task.run_left_claim`, `Task.left_start`, `Task.run_left_turn`).
* `Floor`: tasks that share a store, and what has happened so far.
* `Floor.Step` and `Floor.Run`: what can happen.
* `Floor.Starts`: how a run begins.
-/

namespace JobDispatch

/-- What takes turns at the store: an errand, or a round of a worker and how far it has come. -/
inductive Task where
  | errand (rest : Script Unit)
  | ready (g : Registry Body) (lockTimeout : Duration)
  | claimed (g : Registry Body) (lockTimeout : Duration) (entry : Entry)
  | running (lockTimeout : Duration) (entry : Entry) (rest : Script ResultRow)
  | recording (entry : Entry) (rest : Script (Except StoreError ResultRow))
  | finished

namespace Task

/-- The entry that a round has claimed. -/
def entry? : Task → Option Entry
  | claimed _ _ entry | running _ entry _ | recording entry _ => some entry
  | _ => none

/-- A round after its claim. -/
def afterClaim (g : Registry Body) (lockTimeout : Duration) :
    Except Halt (Except StoreError (Option Entry)) → Task
  | .ok (.ok (some entry)) => claimed g lockTimeout entry
  | _ => finished

/-- A round that starts the body of its entry, unless the job is unknown. -/
def start (g : Registry Body) (lockTimeout : Duration) (entry : Entry) : Task :=
  match g.find? entry.jobName with
  | none => finished
  | some r => running lockTimeout entry (Worker.execute r entry)

/-- A task after a turn. A body that has come to its end is followed by the record of its result. -/
def turn : Task → Session → Task × Session
  | errand p, s => (errand (p.turn s).1, (p.turn s).2)
  | running lockTimeout entry (.done row), s =>
    (recording entry (Worker.record lockTimeout row).run, s)
  | running lockTimeout entry p, s => (running lockTimeout entry (p.turn s).1, (p.turn s).2)
  | recording entry p, s => (recording entry (p.turn s).1, (p.turn s).2)
  | t, s => (t, s)

/-! ### Rounds -/

/-- What a round does once its result has been recorded. -/
def closing (entry : Entry) (recorded : ResultRow) : Attempt (Option WorkOutcome) := do
  let outcome := WorkOutcome.ofResult entry recorded
  liftM (Script.record (.jobFinished outcome.countedJob outcome.label))
  pure (some outcome)

/-- What is left of a round. -/
def left : Task → Script (Except StoreError (Option WorkOutcome))
  | ready g lockTimeout => ExceptT.run do
    match ← Worker.claim lockTimeout with
    | none => pure none
    | some entry => some <$> Worker.handle g lockTimeout entry
  | claimed g lockTimeout entry => (some <$> Worker.handle g lockTimeout entry).run
  | running lockTimeout entry rest => ExceptT.run do
    let recorded ← Worker.record lockTimeout (← liftM rest)
    closing entry recorded
  | recording entry rest => ExceptT.run do
    let recorded ← ExceptT.mk rest
    closing entry recorded
  | errand _ | finished => pure (.ok none)

variable {g : Registry Body} {lockTimeout : Duration} {entry : Entry}

lemma runOnce_eq_left : Worker.runOnce g lockTimeout = (do
    let outcome ← (ready g lockTimeout).left
    pure (outcome.mapError .store)) := rfl

/-- After a claim a round goes on with its entry. -/
lemma run_left_claim {s s' : Session}
    (hrun : (Worker.claim lockTimeout).run.run s = (.ok (.ok (some entry)), s')) :
    (ready g lockTimeout).left.run s = (claimed g lockTimeout entry).left.run s' := by
  rw [left, ExceptT.run_bind, Script.run_bind, hrun]
  rfl

/-- The body of an entry starts if its job is known. -/
lemma left_start {r : Registration Body} (hr : g.find? entry.jobName = some r) :
    (claimed g lockTimeout entry).left = (start g lockTimeout entry).left := by
  rw [left, Worker.handle, start, hr]
  simp [left, closing]

lemma left_running (p : Script ResultRow) : (running lockTimeout entry p).left = p >>= fun row =>
    ExceptT.run (Worker.record lockTimeout row >>= closing entry) := ExceptT.run_bind_lift p _

/-- A turn of a round leaves the rest of it. -/
lemma run_left_turn {t : Task} (h : t.entry? = some entry) (s : Session) :
    (t.turn s).1.left.run (t.turn s).2 = t.left.run s := by
  cases t with
  | errand p => cases h
  | ready g lockTimeout => rfl
  | claimed g lockTimeout entry => rfl
  | finished => rfl
  | recording entry p => exact Script.run_turn_bind p _ s
  | running lockTimeout entry p =>
      cases p with
      | done row => rw [left_running]; rfl
      | halt h => rfl
      | _ =>
          rw [left_running, ← Script.run_turn_bind, ← left_running]
          rfl

end Task

/-- Tasks that share a store, and what has happened so far: the entries that were added, the claims
and the starts of bodies, each with the task, and the results that were received. -/
structure Floor (ι : Type) where
  store : Store
  tasks : ι → Task
  inserted : List EntryId
  claims : List (ι × EntryId)
  starts : List (ι × EntryId)
  received : List EntryId

/-- What is there and was not there before. -/
def gained (before after : List EntryId) : List EntryId := after.filter fun id => id ∉ before

/-- A session at the store. -/
def Store.session (store : Store) (clock : Nat → Instant) : Session := ⟨store, clock, 0, ⟨[], []⟩⟩

namespace Floor

variable {ι : Type}

section Steps

variable [DecidableEq ι]

/-- After a task has left the store like this. A transaction that was left open is given up. -/
def moved (w : Floor ι) (i : ι) (task : Task) (store : Store) : Floor ι where
  store := store.restored
  tasks := Function.update w.tasks i task
  inserted := w.inserted ++ gained w.store.tables.waiting store.restored.tables.waiting
  claims := w.claims
  starts := w.starts
  received := w.received ++ gained w.store.tables.kept store.restored.tables.kept

/-- The entry that the task `i` has claimed. -/
def ofTask (i : ι) (task : Task) : List (ι × EntryId) :=
  task.entry?.toList.map fun entry => (i, entry.id)

/-- What can happen. The clock shows anything, and any faults may come up. -/
inductive Step : Floor ι → Floor ι → Prop
  | claim (w : Floor ι) (i : ι) (g : Registry Body) (lockTimeout : Duration)
      (clock : Nat → Instant) (outcome : Except Halt (Except StoreError (Option Entry)))
      (s : Session) (hi : w.tasks i = .ready g lockTimeout)
      (hrun : (Worker.claim lockTimeout).run.run (w.store.session clock) = (outcome, s)) :
      Step w { w.moved i (.afterClaim g lockTimeout outcome) s.store with
        claims := w.claims ++ ofTask i (.afterClaim g lockTimeout outcome) }
  | start (w : Floor ι) (i : ι) (g : Registry Body) (lockTimeout : Duration) (entry : Entry)
      (hi : w.tasks i = .claimed g lockTimeout entry) :
      Step w { w.moved i (.start g lockTimeout entry) w.store with
        starts := w.starts ++ ofTask i (.start g lockTimeout entry) }
  | turn (w : Floor ι) (i : ι) (clock : Nat → Instant) :
      Step w (w.moved i ((w.tasks i).turn (w.store.session clock)).1
        ((w.tasks i).turn (w.store.session clock)).2.store)
  | stop (w : Floor ι) (i : ι) : Step w (w.moved i .finished w.store)
  | disturb (w : Floor ι) (faults : List Fault) :
      Step w { w with store := { w.store with faults } }

/-- Some number of steps, in any order. -/
abbrev Run : Floor ι → Floor ι → Prop := Relation.ReflTransGen Step

end Steps

/-! ### Starts -/

/-- Errands: requests, cycles, attempts to lead, and whatever else leaves claims and results to the
rounds of workers. -/
inductive Errand : Script Unit → Prop
  | enqueue (i : Instance) (r : Request) : Errand (do let _ ← i.enqueue r)
  | cycle {Body : Type} (u : Upkeep) (g : Registry Body) (now : Instant) :
      Errand (do let _ ← u.runOnce g now)
  | tick {Body : Type} (u : Upkeep) (g : Registry Body) (e : Elector) :
      Errand (do let _ ← u.tick g e)
  | election (e : Elector) (wasLeader : Bool) : Errand (do let _ ← e.round wasLeader)
  | other (p : Script Unit) (hp : p.Only Statement.Tame) : Errand p

/-- A task that has not begun: an errand, or a round with bodies that leave claims and results to
the rounds. -/
inductive Begins : Task → Prop
  | errand {p : Script Unit} (h : Errand p) : Begins (.errand p)
  | round (g : Registry Body) (lockTimeout : Duration)
      (h : ∀ r ∈ g.jobs, ∀ c, (r.body c).Only Statement.Tame) : Begins (.ready g lockTimeout)

/-- No task has begun, and the entries that wait are those that were added so far. -/
structure Starts (w : Floor ι) : Prop where
  closed : w.store.saved = none
  keyed : w.store.tables.Keyed w.store.turn
  inserted : w.inserted = w.store.tables.waiting
  claims : w.claims = []
  starts : w.starts = []
  received : w.received = []
  tasks : ∀ i, Begins (w.tasks i)

/-- The entry waits. -/
def Waits (w : Floor ι) (id : EntryId) : Prop := ∃ e ∈ w.store.tables.queue, e.id = id

end Floor

end JobDispatch
