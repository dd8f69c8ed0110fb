import JobDispatch.Proofs.Script.Outcome

/-!
Which statements a script sends when it runs alone.

* `Script.sent`: the statements, oldest first.
* `Script.Tells p s post`: from the session `s` the script `p` comes to an end, and `post` holds of
  its value, of the session it leaves, and of the statements it has sent.
-/

namespace JobDispatch.Script

variable {α β : Type}

/-- The statements that a script sends when it runs alone, oldest first. -/
def sent : Script α → Session → List Statement
  | done _, _ => []
  | halt _, _ => []
  | exec q next, s =>
    let (reply, store) := s.store.perform q
    q :: (next reply).sent { s with store }
  | clock next, s => (next s.now).sent { s with readings := s.readings + 1 }
  | note n next, s => next.sent (s.logged n)
  | measure m next, s => next.sent (s.measured m)

/-- Two scripts, one after the other; if the first one halts there is no second. -/
lemma sent_bind (p : Script α) (f : α → Script β) (s : Session) :
    (p >>= f).sent s = p.sent s ++ match p.run s with
      | (.ok v, s') => (f v).sent s'
      | (.error _, _) => [] := by
  show (p.bind f).sent s = _
  induction p generalizing s with
  | done v => rfl
  | halt h => rfl
  | exec q next ih => exact congrArg (q :: ·) (ih _ _)
  | clock next ih => exact ih _ _
  | note n next ih => exact ih _
  | measure m next ih => exact ih _

/-- The script comes to an end, with a value, a session and statements of which `post` holds. -/
def Tells (p : Script α) (s : Session) (post : α → Session → List Statement → Prop) : Prop :=
  ∃ v s', p.run s = (.ok v, s') ∧ post v s' (p.sent s)

lemma Tells.mono {p : Script α} {s : Session} {post post' : α → Session → List Statement → Prop}
    (h : p.Tells s post) (hpost : ∀ v s' sent, post v s' sent → post' v s' sent) :
    p.Tells s post' := by
  obtain ⟨v, s', hrun, hv⟩ := h
  exact ⟨v, s', hrun, hpost v s' _ hv⟩

variable {s : Session} {post : β → Session → List Statement → Prop}

lemma tells_pure (v : β) (h : post v s []) : (pure v : Script β).Tells s post := ⟨v, s, rfl, h⟩

lemma Tells.bind {p : Script α} {f : α → Script β}
    (h : p.Tells s fun v s' first =>
      (f v).Tells s' fun w s'' second => post w s'' (first ++ second)) :
    (p >>= f).Tells s post := by
  obtain ⟨v, s', hp, w, s'', hf, hw⟩ := h
  refine ⟨w, s'', by rw [run_bind, hp]; exact hf, ?_⟩
  rw [sent_bind, hp]
  exact hw

lemma tells_now (f : Instant → Script β)
    (h : (f s.now).Tells { s with readings := s.readings + 1 } post) :
    (now >>= f).Tells s post := h

lemma tells_log (n : Notice) (f : Unit → Script β) (h : (f ()).Tells (s.logged n) post) :
    (log n >>= f).Tells s post := h

lemma tells_exec {q : Statement} {next : Except StoreError q.Reply → Script β}
    {reply : Except StoreError q.Reply} {store : Store} (hq : s.store.perform q = (reply, store))
    (h : (next reply).Tells { s with store } fun v s' sent => post v s' (q :: sent)) :
    (exec q next).Tells s post := by
  obtain ⟨v, s', hrun, hv⟩ := h
  refine ⟨v, s', ?_, ?_⟩
  · rw [run, hq]
    exact hrun
  · rw [sent, hq]
    exact hv

end JobDispatch.Script
