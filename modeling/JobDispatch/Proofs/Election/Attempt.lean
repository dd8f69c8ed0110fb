import JobDispatch.Election.Elector
import JobDispatch.Proofs.Store.Transaction

/-!
What an attempt to lead does to the store.

* `Elector.settled`: what an attempt comes to when no statement fails, and the tables after it.
* `Elector.electOnce_ends`: an attempt over a store with any faults settles or changes nothing, and
  without faults it settles unless the store does not take the name of the candidate.
* `Elector.checkLeader_upToClock`: a check reads the lease, and what is left of it depends on that
  row and on the clock alone.
-/

namespace JobDispatch

/-! ### Decisions about the lease -/

namespace Lease

variable {l : Lease} {candidate : String} {now : Instant} {span : Span}

lemma decide_acquire {lease : Option Lease} :
    decide lease candidate now span = .acquire ↔ lease = none := by
  cases lease with
  | none => exact iff_of_true rfl rfl
  | some l =>
      rw [decide]
      split
      · simp
      · split <;> simp

lemma exists_of_decide {lease : Option Lease} {d : Decision}
    (h : decide lease candidate now span = d) (hd : d ≠ .acquire) : ∃ l, lease = some l :=
  Option.ne_none_iff_exists'.mp fun hnone => hd (h ▸ decide_acquire.mpr hnone)

lemma decide_own (hown : l.holder = candidate) : decide (some l) candidate now span = .renew :=
  if_pos hown

lemma decide_stale (hother : l.holder ≠ candidate) (hold : span ≤ l.age now) :
    decide (some l) candidate now span = .steal l.holder :=
  (if_neg hother).trans (if_pos hold)

lemma decide_fresh (hother : l.holder ≠ candidate) (hfresh : ¬ span ≤ l.age now) :
    decide (some l) candidate now span = .yield l.holder :=
  (if_neg hother).trans (if_neg hfresh)

end Lease

/-! ### Queries about the lease -/

namespace Tables

variable {t t' : Tables} {d : Draw}

lemma apply_lockLease {reply : Unit} : t.apply d .lockLease = .ok (reply, t') ↔ t = t' := by
  simp [apply, Query.refusal?, answer]

lemma apply_findLease {lease : Option Lease} :
    t.apply d .findLease = .ok (lease, t') ↔ t.lease = lease ∧ t = t' := by
  simp [apply, Query.refusal?, answer]

lemma tables_of_insertLease {holder : String} {now : Instant} {lease : Lease}
    (h : t.apply d (.insertLease holder now) = .ok (lease, t')) :
    t' = (t.withLease holder now).2 := by
  have hanswer := (apply_eq_ok.mp h).2
  rw [answer] at hanswer
  split at hanswer
  · rw [Except.ok.inj hanswer]
  · cases hanswer

lemma tables_of_updateLease {holder : String} {now : Instant} {lease : Lease}
    (h : t.apply d (.updateLease holder now) = .ok (lease, t')) :
    t' = (t.withLease holder now).2 := by
  have hanswer := (apply_eq_ok.mp h).2
  rw [answer] at hanswer
  split at hanswer
  · cases hanswer
  · rw [Except.ok.inj hanswer]

/-- A first lease is refused for its holder only. -/
lemma refusal_of_insertLease {holder : String} {now : Instant} {fault : StoreError}
    (hnone : t.lease = none) (h : t.apply d (.insertLease holder now) = .error fault) :
    textRefusal? holder = some fault := by
  rw [apply] at h
  split at h
  · next hrefused => rw [Except.error.inj h] at hrefused; exact hrefused
  · simp [answer, hnone] at h

/-- A further lease is refused for its holder only. -/
lemma refusal_of_updateLease {holder : String} {now : Instant} {l : Lease} {fault : StoreError}
    (hsome : t.lease = some l) (h : t.apply d (.updateLease holder now) = .error fault) :
    textRefusal? holder = some fault := by
  rw [apply] at h
  split at h
  · next hrefused => rw [Except.error.inj h] at hrefused; exact hrefused
  · simp [answer, hsome] at h

end Tables

namespace Elector

variable (e : Elector)

/-! ### Attempts -/

/-- What an attempt at `now` comes to when no statement fails, and the tables after it. -/
def settled (now : Instant) (t : Tables) : ElectionOutcome × Tables :=
  match Lease.decide t.lease e.instanceId now e.span with
  | .acquire => (.acquired, (t.withLease e.instanceId now).2)
  | .renew => (.renewed, (t.withLease e.instanceId now).2)
  | .steal previous => (.stolen previous, (t.withLease e.instanceId now).2)
  | .yield holder => (.follower holder, t)

/-- An attempt that started in `s` has come to `o`, as it does when no statement fails. -/
def Settles (s : Session) (o : ElectionOutcome) (s' : Session) : Prop :=
  o = (e.settled s.now s.store.tables).1 ∧ s.Leaves s' (e.settled s.now s.store.tables).2

/-- Why an attempt that started in `s` may fail: a fault is there to strike it, or the store does
not take the name of the candidate. -/
def Blocks (s : Session) (fault : StoreError) : Prop :=
  s.store.faults ≠ [] ∨ textRefusal? e.instanceId = some fault

variable {e}

/-- A write of the lease, committed at once. -/
lemma ends_write {s s' : Session} {q : Query} {o : ElectionOutcome}
    (hq : ∀ (t : Tables) d reply t', t.apply d q = .ok (reply, t') →
      t' = (t.withLease e.instanceId s.now).2)
    (hrefused : ∀ d fault, s'.store.tables.apply d q = .error fault →
      textRefusal? e.instanceId = some fault)
    (ho : e.settled s.now s.store.tables = (o, (s.store.tables.withLease e.instanceId s.now).2))
    (ht : s'.store.tables = s.store.tables) (hsaved : s'.store.saved = some s.store.tables)
    (h : s.Restores s') :
    Attempt.Ends (do
        let _ ← Attempt.query q
        Attempt.control .commit
        pure o) s' (e.Settles s) fun fault s'' => s.Restores s'' ∧ e.Blocks s fault := by
  refine (Attempt.ends_bind _ _).mpr (Attempt.ends_query (fun d reply s₁ hanswer hs₁ => ?_)
    fun fault s₁ hwhy hkeeps => ⟨h.keeps hkeeps, hwhy.imp (fun hne => hne ∘ h.faults)
      fun ⟨d, herror⟩ => hrefused d fault herror⟩)
  have hrestores := h.answers hsaved hs₁
  refine (Attempt.ends_bind _ _).mpr (Attempt.ends_commit (fun s₂ hleaves => ?_)
    fun fault s₂ hne hleaves => ⟨hleaves.restores hrestores hrestores.tables,
      .inl (hne ∘ hrestores.faults)⟩)
  have hwritten := hq _ _ _ _ hanswer
  rw [ht] at hwritten
  refine (Attempt.ends_pure o).mpr ⟨by rw [ho], ?_⟩
  rw [ho, ← hwritten]
  exact hleaves.trans hrestores

/-- Under the lock an attempt settles, or it fails and what it did can be undone. -/
lemma underLock_ends {s s' : Session} (h : s.Opens s') :
    e.underLock.Ends s' (e.Settles s) fun fault s'' => s.Restores s'' ∧ e.Blocks s fault := by
  refine (Attempt.ends_bind _ _).mpr (Attempt.ends_query (fun d reply s₁ hlock hs₁ => ?_)
    fun fault s₁ hwhy hkeeps => ⟨(h.trans hkeeps).restores, .inl (hwhy.resolve_right (by
      simp [Tables.apply, Query.refusal?, Tables.answer]) ∘ h.faults)⟩)
  replace h := h.trans (hs₁.keeps (Tables.apply_lockLease.mp hlock).symm)
  refine (Attempt.ends_bind _ _).mpr ((Attempt.ends_timed _ _).mpr (Attempt.ends_query
    (fun d' lease s₂ hfind hs₂ => ?_)
    fun fault s₂ hwhy hkeeps => ⟨(h.trans (hkeeps.measured _)).restores, .inl
      (hwhy.resolve_right (by simp [Tables.apply, Query.refusal?, Tables.answer]) ∘ h.faults)⟩))
  obtain ⟨hlease, hfound⟩ := Tables.apply_findLease.mp hfind
  replace h := h.trans ((hs₂.keeps hfound.symm).measured (.queryTimed "find_lease"))
  refine (Attempt.ends_bind _ _).mpr ((Attempt.ends_lift _).mpr (Script.ends_now.mpr ?_))
  have hrestores := h.restores.read (s₂.readings + 1)
  have ht : s₂.store.tables = s.store.tables := h.tables
  have hrow : s.store.tables.lease = lease := by rw [← ht, ← hfound, hlease]
  have hfresh : s₂.store.tables.lease = lease := by rw [ht, hrow]
  rw [h.now]
  cases hd : Lease.decide lease e.instanceId s.now e.span with
  | acquire =>
      exact ends_write (fun _ _ _ _ => Tables.tables_of_insertLease)
        (fun _ _ => Tables.refusal_of_insertLease (hfresh.trans (Lease.decide_acquire.mp hd)))
        (by rw [settled, hrow, hd]) ht h.saved hrestores
  | renew =>
      obtain ⟨l, hl⟩ := Lease.exists_of_decide hd (by simp)
      exact ends_write (fun _ _ _ _ => Tables.tables_of_updateLease)
        (fun _ _ => Tables.refusal_of_updateLease (hfresh.trans hl))
        (by rw [settled, hrow, hd]) ht h.saved hrestores
  | steal previous =>
      obtain ⟨l, hl⟩ := Lease.exists_of_decide hd (by simp)
      exact ends_write (fun _ _ _ _ => Tables.tables_of_updateLease)
        (fun _ _ => Tables.refusal_of_updateLease (hfresh.trans hl))
        (by rw [settled, hrow, hd]) ht h.saved hrestores
  | yield holder =>
      have hsettled : e.settled s.now s.store.tables = (.follower holder, s.store.tables) := by
        rw [settled, hrow, hd]
      refine (Attempt.ends_bind _ _).mpr (Attempt.ends_rollback (fun s₃ hleaves => ?_)
        fun fault s₃ hne hkeeps => ⟨hrestores.keeps hkeeps, .inl (hne ∘ hrestores.faults)⟩)
      refine (Attempt.ends_pure _).mpr ⟨by rw [hsettled], ?_⟩
      rw [hsettled, ← hrestores.tables]
      exact hleaves.trans hrestores

/-- An attempt settles or changes nothing, whatever faults strike it. -/
theorem electOnce_ends (e : Elector) (wasLeader : Bool) {s : Session}
    (hs : s.store.saved = none) :
    (e.electOnce wasLeader).Ends s fun outcome s' =>
      (∃ o, outcome = (.ok o, o.isLeader) ∧ e.Settles s o s') ∨
      (∃ fault, outcome = (.error fault, wasLeader) ∧ e.Blocks s fault ∧
        s.Leaves s' s.store.tables) := by
  have hattempt : (Attempt.inTransaction e.lockTimeout e.underLock).Ends s (e.Settles s)
      fun fault s' => e.Blocks s fault ∧ s.Leaves s' s.store.tables :=
    Attempt.ends_inTransaction hs
      (fun s' hopen => (underLock_ends hopen).mono (fun _ _ h => h)
        fun _ _ ⟨hrestores, hwhy⟩ => ⟨hrestores, fun _ hleaves => ⟨hwhy, hleaves⟩⟩)
      fun _ _ hne hleaves => ⟨.inl hne, hleaves⟩
  refine (Script.ends_bind _ _).mpr (Script.Ends.mono hattempt fun outcome s' h => ?_)
  cases outcome with
  | error fault => exact (Script.ends_pure _).mpr (.inr ⟨fault, rfl, h⟩)
  | ok o =>
      obtain ⟨ho, hleaves⟩ := h
      refine (Script.ends_bind _ _).mpr ((Script.ends_record _).mpr ?_)
      refine (Script.ends_bind _ _).mpr ((Script.ends_log _).mpr ?_)
      exact (Script.ends_pure _).mpr (.inl ⟨o, rfl, ho, (hleaves.measured _).logged _⟩)

/-! ### Checks -/

/-- What is left of a check once it has read the lease. -/
def judge (e : Elector) (lease : Option Lease) : Script (Except StoreError Bool) :=
  .clock fun now => .done (.ok (Lease.holdsFresh lease e.instanceId now e.span))

/-- A check first sends its query and then has an error or the row to go on with. -/
lemma upToClock_checkLeader (e : Elector) (s : Session) :
    e.checkLeader.run.upToClock s =
      (Except.casesOn (s.store.perform (.query .findLease)).1 (fun fault => .done (.error fault))
        fun lease => e.judge lease,
      { s with store := (s.store.perform (.query .findLease)).2 }.measured
        (.queryTimed "find_lease")) := by
  show (Script.exec (.query .findLease) _).upToClock s = _
  rw [Script.upToClock]
  obtain ⟨reply, store⟩ := s.store.perform (.query .findLease)
  cases reply <;> rfl

/-- A check that has read the lease goes on with that row, or it has failed. -/
lemma checkLeader_upToClock (e : Elector) (s : Session) :
    ((∃ fault, (e.checkLeader.run.upToClock s).1 = .done (.error fault)) ∨
      (e.checkLeader.run.upToClock s).1 = e.judge s.store.tables.lease) ∧
    s.Keeps (e.checkLeader.run.upToClock s).2 := by
  rw [upToClock_checkLeader]
  obtain ⟨faults, hfaults, h | ⟨hne, -, fault, h⟩⟩ := s.store.perform_cases (.query .findLease)
  · rw [h]
    exact ⟨.inr rfl, rfl, rfl, rfl, rfl, Nat.le_succ _, hfaults⟩
  · rw [h]
    exact ⟨.inl ⟨fault, rfl⟩, rfl, rfl, rfl, rfl, Nat.le_succ _, fun h => absurd h hne⟩

end Elector

end JobDispatch
