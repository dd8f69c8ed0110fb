import JobDispatch.Proofs.Script.Outcome

/-!
Scripts that are served by anything.

A script that runs alone is answered by the store of its session. Here it is answered by any server,
which has a state of its own. What is shown of a script for all servers holds for every sequence of
answers; a server may also keep a list of what it is sent, so that no more and no less is sent than
what its state tells.

* `Script.serve`: a script run by a server.
* `Script.Total`: a script that comes to its end whatever it is told (`Script.Total.serve`).
* `Session.alone`: the store and the clock of a session as a server, which does what running alone
  does (`Script.run_eq_serve`).
-/

namespace JobDispatch

/-- Answers statements and shows the time. -/
structure Server (σ : Type) where
  answer : σ → (q : Statement) → Except StoreError q.Reply × σ
  read : σ → Instant × σ

variable {α β σ : Type} {S : Server σ} {s : σ}

namespace Script

/-- Runs a script by a server; reports go nowhere. -/
def serve (S : Server σ) : Script α → σ → Except Halt α × σ
  | done v, s => (.ok v, s)
  | halt h, s => (.error h, s)
  | exec q next, s => (next (S.answer s q).1).serve S (S.answer s q).2
  | clock next, s => (next (S.read s).1).serve S (S.read s).2
  | note _ next, s => next.serve S s
  | measure _ next, s => next.serve S s

lemma serve_bind (p : Script α) (f : α → Script β) (s : σ) :
    (p >>= f).serve S s = match p.serve S s with
      | (.ok v, s') => (f v).serve S s'
      | (.error h, s') => (.error h, s') := by
  show (p.bind f).serve S s = _
  induction p generalizing s with
  | done v => rfl
  | halt h => rfl
  | exec q next ih => exact ih _ _
  | clock next ih => exact ih _ _
  | note n next ih => exact ih _
  | measure m next ih => exact ih _

/-! ### Scripts that end -/

/-- The script does not halt, whatever it is told. -/
def Total : Script α → Prop
  | done _ => True
  | halt _ => False
  | exec _ next => ∀ reply, (next reply).Total
  | clock next => ∀ now, (next now).Total
  | note _ next => next.Total
  | measure _ next => next.Total

lemma Total.serve {p : Script α} (h : p.Total) (S : Server σ) (s : σ) :
    ∃ v s', p.serve S s = (.ok v, s') := by
  induction p generalizing s with
  | done v => exact ⟨v, s, rfl⟩
  | halt _ => exact h.elim
  | exec q next ih => exact ih _ (h _) _
  | clock next ih => exact ih _ (h _) _
  | note n next ih => exact ih h _
  | measure m next ih => exact ih h _

lemma Total.bind {p : Script α} {f : α → Script β} (h : p.Total) (hf : ∀ v, (f v).Total) :
    (p >>= f).Total := by
  show (p.bind f).Total
  induction p with
  | done v => exact hf v
  | halt _ => exact h.elim
  | exec q next ih => exact fun reply => ih reply (h reply)
  | clock next ih => exact fun now => ih now (h now)
  | note n next ih => exact ih h
  | measure m next ih => exact ih h

end Script

namespace Attempt

open Script (Total)

lemma total_pure (v : α) : (pure v : Attempt α).run.Total := trivial

lemma total_send (q : Statement) : (send q).run.Total := fun _ => trivial

lemma total_bind {a : Attempt α} {f : α → Attempt β} (h : a.run.Total)
    (hf : ∀ v, (f v).run.Total) : (a >>= f).run.Total := by
  rw [ExceptT.run_bind]
  refine h.bind fun outcome => ?_
  cases outcome with
  | ok v => exact hf v
  | error fault => trivial

lemma total_timed {a : Attempt α} (h : a.run.Total) (name : String) :
    (timed name a).run.Total :=
  Total.bind h fun _ => trivial

lemma total_orAbandon {a : Attempt α} (h : a.run.Total) : (orAbandon a).run.Total := by
  refine Total.bind h fun outcome => ?_
  cases outcome with
  | ok v => trivial
  | error fault => exact fun _ => trivial

/-- A transaction ends if what is done in it does. -/
lemma total_committed {a : Attempt α} (h : a.run.Total) (lockTimeout : Duration) :
    (committed lockTimeout a).run.Total :=
  total_bind (total_send _) fun _ => total_orAbandon (total_bind (total_send _) fun _ =>
    total_bind (total_send _) fun _ => total_bind h fun _ =>
      total_bind (total_send _) fun _ => total_pure _)

end Attempt

/-! ### Sessions -/

/-- The store and the clock of a session answer. -/
def Session.alone : Server Session where
  answer s q := ((s.store.perform q).1, { s with store := (s.store.perform q).2 })
  read s := (s.now, { s with readings := s.readings + 1 })

/-- Running alone is being served by the session, but for the journal. -/
lemma Script.run_eq_serve (p : Script α) (s : Session) (journal : Journal) :
    ∃ journal', p.run { s with journal } =
      ((p.serve Session.alone s).1, { (p.serve Session.alone s).2 with journal := journal' }) := by
  induction p generalizing s journal with
  | done v => exact ⟨journal, rfl⟩
  | halt h => exact ⟨journal, rfl⟩
  | exec q next ih => exact ih _ { s with store := (s.store.perform q).2 } journal
  | clock next ih => exact ih _ { s with readings := s.readings + 1 } journal
  | note n next ih => exact ih s { journal with notices := journal.notices ++ [n] }
  | measure m next ih => exact ih s { journal with metrics := journal.metrics.record m }

lemma Script.run_alone (p : Script α) (s : Session) :
    (p.run s).1 = (p.serve Session.alone s).1 ∧
      (p.run s).2.store = (p.serve Session.alone s).2.store := by
  obtain ⟨journal, hrun⟩ := p.run_eq_serve s s.journal
  have hall : p.run s = ((p.serve Session.alone s).1,
    { (p.serve Session.alone s).2 with journal }) := hrun
  rw [hall]
  exact ⟨rfl, rfl⟩

end JobDispatch
