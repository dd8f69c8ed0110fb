import JobDispatch.Script.Basic
import Mathlib.Logic.Function.Basic
import Mathlib.Logic.Relation
import Mathlib.Tactic.Lemma

/-!
A queue that several scripts share, statement by statement.

Each client runs a script. A statement takes some time: it begins, and it is answered later, after
whatever the others have done in between. Of the store only this is assumed:

* A lock is held by one transaction at a time, until that transaction ends.
* What a transaction has changed is not seen by the others until it commits, and is lost when it
  ends in another way.
* A statement sees everything that was committed before it began (`Query.Admits`).

Any statement may fail, any client may disappear, and where none of the above settles an answer any
answer is possible. Clients do not wait for the rows that others have locked.

* `Change`: what a query does to the queue (`Query.changes`).
* `Sharing.Answer`: the possible answers to a statement.
* `Sharing.Step` and `Sharing.Run`: what can happen.
-/

namespace JobDispatch

/-! ### Changes to the queue -/

/-- One change to the queue. -/
inductive Change where
  | add (entry : Entry)
  | move (id : EntryId) (notBefore : Instant)
  | remove (id : EntryId)

namespace Change

/-- The queue after a change. -/
def on (queue : List Entry) : Change → List Entry
  | add entry => queue ++ [entry]
  | move id t => queue.map fun e => if e.id = id then { e with notBefore := some t.stored } else e
  | remove id => queue.filter fun e => e.id ≠ id

/-- The queue after several changes. -/
def onAll (changes : List Change) (queue : List Entry) : List Entry := changes.foldl on queue

/-- The change adds an entry of the job. -/
def adds (jobName : String) : Change → Bool
  | add entry => entry.jobName == jobName
  | _ => false

end Change

/-- The number of entries of a job. -/
def countOf (jobName : String) (queue : List Entry) : Nat :=
  queue.countP fun e => e.jobName == jobName

/-- What a query changes, by the answer to it. -/
def Query.changes : (q : Query) → q.Reply → List Change
  | .insertEntry _ _ _, (entry : Entry) => [.add entry]
  | .reschedule id t, _ => [.move id t]
  | .claimNext _, some (entry : Entry) => [.remove entry.id]
  | _, _ => []

/-- The locks that a query takes. -/
def Query.locks {κ : Type} (key : String → κ) : Query → List κ
  | .lockJob jobName => [key jobName]
  | _ => []

/-- The answers that are possible if `seen` was there when the query began and `now` is there when
it ends: a job has no entry only if all its entries that were there are gone, and a new entry is
one of the job that it was asked for. -/
def Query.Admits (seen now : List Entry) : (q : Query) → q.Reply → Prop
  | .findPending jobName, none =>
    ∀ e ∈ seen, e.jobName = jobName → ∀ e' ∈ now, e'.id ≠ e.id
  | .insertEntry jobName _ _, (entry : Entry) => entry.jobName = jobName
  | _, _ => True

namespace Change

variable {queue : List Entry} {jobName : String}

lemma countOf_on (c : Change) (queue : List Entry) (jobName : String) :
    countOf jobName (c.on queue) ≤ countOf jobName queue + if c.adds jobName then 1 else 0 := by
  cases c with
  | add entry => simp [on, adds, countOf, List.countP_append, List.countP_singleton]
  | move id t =>
      have hjob : ((fun e : Entry => e.jobName == jobName) ∘ fun e =>
          if e.id = id then { e with notBefore := some t.stored } else e) =
          fun e => e.jobName == jobName := by
        funext e
        by_cases h : e.id = id <;> simp [h]
      simp [on, adds, countOf, List.countP_map, hjob]
  | remove id =>
      have hle := (List.filter_sublist (p := fun e => decide (e.id ≠ id)) (l := queue)).countP_le
        (p := fun e => e.jobName == jobName)
      simpa [on, adds, countOf] using hle

/-- A job gets at most as many new entries as changes add. -/
lemma countOf_onAll (changes : List Change) (queue : List Entry) (jobName : String) :
    countOf jobName (onAll changes queue) ≤
      countOf jobName queue + changes.countP (adds jobName) := by
  induction changes generalizing queue with
  | nil => exact Nat.le_refl _
  | cons c rest ih =>
      have hrest := ih (c.on queue)
      have hfirst := c.countOf_on queue jobName
      rw [onAll, List.foldl_cons, ← onAll, List.countP_cons]
      omega

/-- An entry that is there after a change was there before, or the change has added it. -/
lemma mem_on {c : Change} {e : Entry} (he : e ∈ c.on queue) :
    (∃ e' ∈ queue, e'.id = e.id ∧ e'.jobName = e.jobName) ∨ c.adds e.jobName = true := by
  cases c with
  | add entry =>
      rcases List.mem_append.mp he with h | h
      · exact .inl ⟨e, h, rfl, rfl⟩
      · rw [List.mem_singleton.mp h]
        exact .inr (beq_self_eq_true _)
  | move id t =>
      obtain ⟨a, ha, rfl⟩ := List.mem_map.mp he
      refine .inl ⟨a, ha, ?_⟩
      by_cases h : a.id = id <;> simp [h]
  | remove id => exact .inl ⟨e, (List.mem_filter.mp he).1, rfl, rfl⟩

lemma mem_onAll {changes : List Change} {e : Entry} (he : e ∈ onAll changes queue) :
    (∃ e' ∈ queue, e'.id = e.id ∧ e'.jobName = e.jobName) ∨
      0 < changes.countP (adds e.jobName) := by
  induction changes generalizing queue with
  | nil => exact .inl ⟨e, he, rfl, rfl⟩
  | cons c rest ih =>
      rw [List.countP_cons]
      obtain ⟨a, ha, hid, hjob⟩ | hadded := @ih (c.on queue) he
      · obtain hbefore | hadds := mem_on ha
        · obtain ⟨b, hb, hid', hjob'⟩ := hbefore
          exact .inl ⟨b, hb, hid'.trans hid, hjob'.trans hjob⟩
        · rw [hjob] at hadds
          exact .inr (by simp [hadds])
      · exact .inr (Nat.lt_of_lt_of_le hadded (Nat.le_add_right _ _))

end Change

/-! ### Clients -/

/-- An open transaction: what it has changed so far and the keys of the locks that it holds. -/
structure Transaction (κ : Type) where
  changes : List Change
  keys : List κ

namespace Transaction

variable {κ : Type}

/-- A transaction that has just begun. -/
def new : Transaction κ := ⟨[], []⟩

/-- The queue as the transaction sees it. -/
def sees (t : Transaction κ) (queue : List Entry) : List Entry := Change.onAll t.changes queue

/-- The transaction after a query has been answered. -/
def after (key : String → κ) (t : Transaction κ) (q : Query) (reply : q.Reply) : Transaction κ where
  changes := t.changes ++ q.changes reply
  keys := q.locks key ++ t.keys

end Transaction

/-- A client: what is left of its script, its open transaction, and, while a statement is under
way, the queue as it was when the statement began. -/
structure Client (κ : Type) where
  rest : Script Unit
  transaction : Option (Transaction κ)
  seen : Option (List Entry)

/-- A client that has not done anything yet. -/
def Client.idle {κ : Type} (script : Script Unit) : Client κ := ⟨script, none, none⟩

/-- The committed queue and the clients that share it. -/
structure Sharing (ι κ : Type) where
  queue : List Entry
  clients : ι → Client κ

namespace Sharing

variable {ι κ : Type} [DecidableEq ι] {key : String → κ}

/-- No transaction of another client holds the lock. -/
def Free (w : Sharing ι κ) (i : ι) (k : κ) : Prop :=
  ∀ j ≠ i, ∀ t, (w.clients j).transaction = some t → k ∉ t.keys

/-- The possible answers to a statement of a client that began when `seen` was committed, with the
committed queue and the client's transaction before and after. `free` are the locks that the client
can take. -/
inductive Answer (key : String → κ) (free : κ → Prop) (seen : List Entry) :
    List Entry → Option (Transaction κ) → (q : Statement) → Except StoreError q.Reply →
      List Entry → Option (Transaction κ) → Prop
  | begun (queue : List Entry) :
      Answer key free seen queue none (.control .begin) (.ok ()) queue (some .new)
  | set (queue : List Entry) (t : Option (Transaction κ)) (c : Control)
      (hc : c = .setIsolation ∨ ∃ millis, c = .setLockTimeout millis) :
      Answer key free seen queue t (.control c) (.ok ()) queue t
  | committed (queue : List Entry) (t : Transaction κ) (reply : Except StoreError Unit) :
      Answer key free seen queue (some t) (.control .commit) reply (t.sees queue) none
  | ended (queue : List Entry) (t : Option (Transaction κ)) (c : Control)
      (hc : c = .rollback ∨ c = .abandon) (reply : Except StoreError Unit) :
      Answer key free seen queue t (.control c) reply queue none
  | answered (queue : List Entry) (t : Transaction κ) (q : Query) (reply : q.Reply)
      (hlock : ∀ k ∈ q.locks key, free k)
      (hreply : q.Admits (t.sees seen) (t.sees queue) reply) :
      Answer key free seen queue (some t) (.query q) (.ok reply) queue (some (t.after key q reply))
  | atOnce (queue : List Entry) (q : Query) (reply : q.Reply) (hreply : q.Admits seen queue reply) :
      Answer key free seen queue none (.query q) (.ok reply)
        (Change.onAll (q.changes reply) queue) none
  | failed (queue : List Entry) (t t' : Option (Transaction κ)) (ht : t' = t ∨ t' = none)
      (q : Statement) (fault : StoreError) :
      Answer key free seen queue t q (.error fault) queue t'

/-- The client `i` after a step of its own. -/
def put (w : Sharing ι κ) (i : ι) (c : Client κ) : Sharing ι κ :=
  { w with clients := Function.update w.clients i c }

/-- What can happen: a statement begins, a statement is answered, a client reads the clock or
reports something, or a client disappears together with its transaction. -/
inductive Step (key : String → κ) : Sharing ι κ → Sharing ι κ → Prop
  | ask (w : Sharing ι κ) (i : ι) (q : Statement) (next : Except StoreError q.Reply → Script Unit)
      (t : Option (Transaction κ)) (hi : w.clients i = ⟨.exec q next, t, none⟩) :
      Step key w (w.put i ⟨.exec q next, t, some w.queue⟩)
  | answer (w : Sharing ι κ) (i : ι) (q : Statement)
      (next : Except StoreError q.Reply → Script Unit) (t : Option (Transaction κ))
      (seen : List Entry) (hi : w.clients i = ⟨.exec q next, t, some seen⟩)
      (reply : Except StoreError q.Reply) (queue : List Entry) (t' : Option (Transaction κ))
      (hreply : Answer key (w.Free i) seen w.queue t q reply queue t') :
      Step key w ({ w with queue }.put i ⟨next reply, t', none⟩)
  | read (w : Sharing ι κ) (i : ι) (next : Instant → Script Unit) (t : Option (Transaction κ))
      (hi : w.clients i = ⟨.clock next, t, none⟩) (now : Instant) :
      Step key w (w.put i ⟨next now, t, none⟩)
  | report (w : Sharing ι κ) (i : ι) (next : Script Unit) (t : Option (Transaction κ))
      (hi : (∃ n, w.clients i = ⟨.note n next, t, none⟩) ∨
        ∃ m, w.clients i = ⟨.measure m next, t, none⟩) :
      Step key w (w.put i ⟨next, t, none⟩)
  | disappear (w : Sharing ι κ) (i : ι) : Step key w (w.put i (.idle (.done ())))

/-- Some number of steps, in any order. -/
abbrev Run (key : String → κ) : Sharing ι κ → Sharing ι κ → Prop :=
  Relation.ReflTransGen (Step key)

end Sharing

end JobDispatch
