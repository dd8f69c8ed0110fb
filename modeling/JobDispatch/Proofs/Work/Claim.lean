import JobDispatch.Proofs.Store.Queue
import JobDispatch.Proofs.Store.Transaction
import JobDispatch.Work.Worker

/-!
What a claim comes to.

* `Worker.claim_ends`: a claim takes one due entry out of the queue, or finds none, or fails and
  leaves the queue alone.
-/

namespace JobDispatch.Worker

variable {s : Session}

/-- A claim that started in `s` has taken a due entry, or there was none. -/
def Takes (s : Session) (taken : Option Entry) (s' : Session) : Prop :=
  (taken = none ∧ s.store.tables.due s.now = [] ∧ s.Leaves s' s.store.tables) ∨
    ∃ e ∈ s.store.tables.queue, e.Due s.now.stored ∧ taken = some e ∧
      s.Leaves s' (s.store.tables.without e.id)

lemma Takes.logged {taken : Option Entry} {s' : Session} (h : Takes s taken s') (n : Notice) :
    Takes s taken (s'.logged n) := by
  obtain ⟨hnone, hdue, hleaves⟩ | ⟨e, he, hdue, htaken, hleaves⟩ := h
  · exact .inl ⟨hnone, hdue, hleaves.logged n⟩
  · exact .inr ⟨e, he, hdue, htaken, hleaves.logged n⟩

/-- A claim takes one due entry out of the queue, or finds none; struck by a fault it changes
nothing. -/
lemma claim_ends (lockTimeout : Duration) (hsaved : s.store.saved = none) :
    (claim lockTimeout).Ends s (Takes s)
      fun _ s' => s.store.faults ≠ [] ∧ s.Leaves s' s.store.tables := by
  refine (Attempt.ends_bind _ _).mpr ((Attempt.ends_committed hsaved (fun s' hopen => ?_)
    fun fault s' hne hleaves => ⟨hne, hleaves⟩).mono (fun taken s' (h : Takes s taken s') => ?_)
    fun _ _ h => h)
  · refine (Attempt.ends_bind _ _).mpr ((Attempt.ends_lift _).mpr (Script.ends_now.mpr ?_))
    have hrestores := hopen.restores.read (s'.readings + 1)
    rw [hopen.now]
    refine (Attempt.ends_timed _ _).mpr (Attempt.ends_query (fun d taken s'' hanswer hs'' => ?_)
      fun fault s'' herror hkeeps => ?_)
    · have hundo := hrestores.answers hopen.saved (hs''.measured (.queryTimed "claim_next"))
      refine ⟨hundo, fun s₃ hcommit => ?_⟩
      have hleaves := hcommit.trans hundo
      rw [Session.store_measured] at hleaves
      have hclaim : s.store.tables.claim d s.now = (taken, s''.store.tables) := by
        rw [← hopen.tables]
        exact Except.ok.inj hanswer
      obtain ⟨hnone, hdue⟩ | ⟨e, he, hdue, hsome⟩ := s.store.tables.claim_cases d s.now
      · obtain ⟨rfl, ht⟩ := Prod.mk.inj (hclaim.symm.trans hnone)
        exact .inl ⟨rfl, hdue, ht ▸ hleaves⟩
      · obtain ⟨rfl, ht⟩ := Prod.mk.inj (hclaim.symm.trans hsome)
        exact .inr ⟨e, he, hdue, rfl, ht ▸ hleaves⟩
    · refine ⟨hrestores.keeps (hkeeps.measured _), fun s₃ hleaves => ⟨?_, hleaves⟩⟩
      obtain hne | ⟨d, hrefused⟩ := herror
      · exact hne ∘ hopen.faults
      · cases hrefused
  · by_cases htaken : taken.isSome = true
    · rw [if_pos htaken]
      exact (Attempt.ends_bind _ _).mpr ((Attempt.ends_lift _).mpr ((Script.ends_log _).mpr
        ((Attempt.ends_pure _).mpr (h.logged .claimed))))
    · rw [if_neg htaken]
      exact (Attempt.ends_bind _ _).mpr ((Attempt.ends_pure _).mpr ((Attempt.ends_pure _).mpr h))

end JobDispatch.Worker
