import JobDispatch.Proofs.Script.Outcome

/-!
Statements that may fail, and transactions around them.

A store may hold any faults. Whatever they strike, a statement either does its work or leaves the
tables alone, and a transaction either does all of its work or none.

* `Session.Keeps`, `Session.Answers`, `Session.Opens`, `Session.Restores` and `Session.Leaves` say
  what has become of a session after some statements.
* `Attempt.ends_query` and the lemmas beside it: what a statement comes to, struck or not.
* `Attempt.ends_inTransaction` and `Attempt.ends_committed`: an attempt inside a transaction ends
  with its own changes, or with an error and the tables as they were. Without faults only the
  attempt itself can fail.
-/

namespace JobDispatch

/-! ### What has become of a session -/

namespace Session

variable (s s' : Session)

/-- Only marks that statements leave have changed, and the clock has not been read. -/
structure Keeps : Prop where
  clock : s'.clock = s.clock
  readings : s'.readings = s.readings
  tables : s'.store.tables = s.store.tables
  saved : s'.store.saved = s.store.saved
  turn : s.store.turn ≤ s'.store.turn
  faults : s.store.faults = [] → s'.store.faults = []

/-- A query has been answered with the draw `d`, and the clock has not been read. -/
structure Answers (d : Tables.Draw) : Prop where
  clock : s'.clock = s.clock
  readings : s'.readings = s.readings
  saved : s'.store.saved = s.store.saved
  drawn : d.turn = s.store.turn + 1
  turn : s'.store.turn = d.turn
  faults : s.store.faults = [] → s'.store.faults = []

/-- A transaction has begun, nothing else has happened, and the clock has not been read. -/
structure Opens : Prop where
  clock : s'.clock = s.clock
  readings : s'.readings = s.readings
  tables : s'.store.tables = s.store.tables
  saved : s'.store.saved = some s.store.tables
  turn : s.store.turn ≤ s'.store.turn
  faults : s.store.faults = [] → s'.store.faults = []

/-- Abandoning the open transaction, if there is one, brings the tables back. -/
structure Restores : Prop where
  clock : s'.clock = s.clock
  tables : s'.store.saved.getD s'.store.tables = s.store.tables
  turn : s.store.turn ≤ s'.store.turn
  faults : s.store.faults = [] → s'.store.faults = []

/-- No transaction is open, and the tables are the given ones. -/
structure Leaves (tables : Tables) : Prop where
  clock : s'.clock = s.clock
  tables : s'.store.tables = tables
  saved : s'.store.saved = none
  turn : s.store.turn ≤ s'.store.turn
  faults : s.store.faults = [] → s'.store.faults = []

variable {s s'} {s'' : Session} {d : Tables.Draw} {tables : Tables}

lemma Keeps.refl (s : Session) : s.Keeps s := ⟨rfl, rfl, rfl, rfl, Nat.le_refl _, id⟩

lemma Keeps.measured (h : s.Keeps s') (m : Measurement) : s.Keeps (s'.measured m) :=
  ⟨h.clock, h.readings, h.tables, h.saved, h.turn, h.faults⟩

lemma Answers.measured (h : s.Answers s' d) (m : Measurement) : s.Answers (s'.measured m) d :=
  ⟨h.clock, h.readings, h.saved, h.drawn, h.turn, h.faults⟩

lemma Opens.now (h : s.Opens s') : s'.now = s.now := by
  rw [Session.now, Session.now, h.clock, h.readings]

lemma Answers.keeps (h : s.Answers s' d) (ht : s'.store.tables = s.store.tables) :
    s.Keeps s' :=
  ⟨h.clock, h.readings, ht, h.saved, by rw [h.turn, h.drawn]; exact Nat.le_succ _, h.faults⟩

lemma Keeps.leaves (h : s.Keeps s') (hs : s.store.saved = none) :
    s.Leaves s' s.store.tables :=
  ⟨h.clock, h.tables, h.saved.trans hs, h.turn, h.faults⟩

lemma Opens.trans (h : s.Opens s') (h' : s'.Keeps s'') : s.Opens s'' where
  clock := h'.clock.trans h.clock
  readings := h'.readings.trans h.readings
  tables := h'.tables.trans h.tables
  saved := h'.saved.trans h.saved
  turn := Nat.le_trans h.turn h'.turn
  faults := h'.faults ∘ h.faults

lemma Opens.restores (h : s.Opens s') : s.Restores s' where
  clock := h.clock
  tables := by rw [h.saved]; rfl
  turn := h.turn
  faults := h.faults

/-- A change inside the transaction can still be undone. -/
lemma Restores.answers (h : s.Restores s') (hsaved : s'.store.saved = some s.store.tables)
    (h' : s'.Answers s'' d) : s.Restores s'' where
  clock := h'.clock.trans h.clock
  tables := by rw [h'.saved, hsaved]; rfl
  turn := by have := h.turn; rw [h'.turn, h'.drawn]; omega
  faults := h'.faults ∘ h.faults

lemma Opens.restores_of_answers (h : s.Opens s') (h' : s'.Answers s'' d) : s.Restores s'' :=
  h.restores.answers h.saved h'

lemma Restores.keeps (h : s.Restores s') (h' : s'.Keeps s'') : s.Restores s'' where
  clock := h'.clock.trans h.clock
  tables := by rw [h'.saved, h'.tables]; exact h.tables
  turn := Nat.le_trans h.turn h'.turn
  faults := h'.faults ∘ h.faults

/-- The clock may be read inside the transaction. -/
lemma Restores.read (h : s.Restores s') (n : Nat) : s.Restores { s' with readings := n } :=
  ⟨h.clock, h.tables, h.turn, h.faults⟩

lemma Leaves.logged (h : s.Leaves s' tables) (n : Notice) : s.Leaves (s'.logged n) tables :=
  ⟨h.clock, h.tables, h.saved, h.turn, h.faults⟩

lemma Leaves.measured (h : s.Leaves s' tables) (m : Measurement) :
    s.Leaves (s'.measured m) tables :=
  ⟨h.clock, h.tables, h.saved, h.turn, h.faults⟩

lemma Leaves.unchanged (h : s.Leaves s' s.store.tables) : s.Restores s' where
  clock := h.clock
  tables := by rw [h.saved]; exact h.tables
  turn := h.turn
  faults := h.faults

lemma Leaves.restores (h : s'.Leaves s'' tables) (h' : s.Restores s')
    (ht : tables = s.store.tables) : s.Restores s'' where
  clock := h.clock.trans h'.clock
  tables := by rw [h.saved, Option.getD_none, h.tables, ht]
  turn := Nat.le_trans h'.turn h.turn
  faults := h.faults ∘ h'.faults

lemma Leaves.trans (h' : s'.Leaves s'' tables) (h : s.Restores s') : s.Leaves s'' tables where
  clock := h'.clock.trans h.clock
  tables := h'.tables
  saved := h'.saved
  turn := Nat.le_trans h.turn h'.turn
  faults := h'.faults ∘ h.faults

/-- Nothing has happened yet. -/
lemma leaves_self (hsaved : s.store.saved = none) : s.Leaves s s.store.tables :=
  (Keeps.refl s).leaves hsaved

/-- The store has not been used. -/
lemma leaves_of_store (hstore : s'.store = s.store) (hclock : s'.clock = s.clock)
    (hsaved : s.store.saved = none) : s.Leaves s' s.store.tables where
  clock := hclock
  tables := congrArg Store.tables hstore
  saved := hstore ▸ hsaved
  turn := Nat.le_of_eq (congrArg Store.turn hstore).symm
  faults := fun hfaults => hstore ▸ hfaults

/-- What two scripts leave, one after the other. -/
lemma Leaves.after {tables' : Tables} (h' : s'.Leaves s'' tables') (h : s.Leaves s' tables) :
    s.Leaves s'' tables' where
  clock := h'.clock.trans h.clock
  tables := h'.tables
  saved := h'.saved
  turn := Nat.le_trans h.turn h'.turn
  faults := h'.faults ∘ h.faults

/-- What was noted before makes no difference. -/
lemma Leaves.of_same {s₁ : Session} (h : s₁.Leaves s' tables) (hstore : s₁.store = s.store)
    (hclock : s₁.clock = s.clock) : s.Leaves s' tables :=
  ⟨h.clock.trans hclock, h.tables, h.saved, hstore ▸ h.turn, hstore ▸ h.faults⟩

end Session

/-! ### One statement -/

lemma Tables.apply_eq_ok {t : Tables} {d : Tables.Draw} {q : Query} {x : q.Reply × Tables} :
    t.apply d q = .ok x ↔ q.refusal? = none ∧ t.answer d q = .ok x := by
  rw [apply]
  split <;> simp [*]

namespace Store

variable (st : Store)

/-- The store once a statement has been counted, before it takes effect. -/
def counted (faults : List Fault) : Store := { st with faults, turn := st.turn + 1 }

/-- A statement is executed unless a fault strikes it. Nothing strikes an abandonment. -/
lemma perform_cases (q : Statement) : ∃ faults, (st.faults = [] → faults = []) ∧
    (st.perform q = (st.counted faults).execute q ∨
      st.faults ≠ [] ∧ q ≠ .control .abandon ∧
        ∃ fault, st.perform q = (.error fault, (st.counted faults).struck q)) := by
  unfold perform
  split
  next error faults hq =>
    have hnone : st.faults = [] →
        ((error, faults) : Option StoreError × List Fault) = (none, []) := by
      intro h
      rw [← hq, h]
      split <;> rfl
    refine ⟨faults, fun h => (Prod.mk.inj (hnone h)).2, ?_⟩
    cases error with
    | none => exact .inl rfl
    | some fault =>
        refine .inr ⟨fun h => by simpa using hnone h, ?_, fault, rfl⟩
        rintro rfl
        simp at hq

end Store

namespace Attempt

variable {α : Type} {s : Session}

section Control

variable {ok : Unit → Session → Prop} {error : StoreError → Session → Prop}

/-- A control statement is executed or struck. -/
lemma ends_control {c : Control}
    (hok : ∀ faults, (s.store.faults = [] → faults = []) →
      ok () { s with store := (s.store.counted faults).controlled c })
    (hstruck : ∀ fault faults, s.store.faults ≠ [] →
      error fault { s with store := (s.store.counted faults).struck (.control c) }) :
    (control c).Ends s ok error := by
  refine ends_send.mpr ?_
  obtain ⟨faults, hfaults, h | ⟨hne, -, fault, h⟩⟩ := s.store.perform_cases (.control c)
  · rw [h]; exact hok faults hfaults
  · rw [h]; exact hstruck fault faults hne

lemma ends_begin (hok : ∀ s', s.Opens s' → ok () s')
    (hstruck : ∀ fault s', s.store.faults ≠ [] → s.Keeps s' → error fault s') :
    (control .begin).Ends s ok error :=
  ends_control (fun _ hfaults => hok _ ⟨rfl, rfl, rfl, rfl, Nat.le_succ _, hfaults⟩)
    fun _ _ hne => hstruck _ _ hne ⟨rfl, rfl, rfl, rfl, Nat.le_succ _, fun h => absurd h hne⟩

/-- The settings of a transaction leave everything as it is. -/
lemma ends_setting {c : Control} (hc : c = .setIsolation ∨ ∃ millis, c = .setLockTimeout millis)
    (hok : ∀ s', s.Keeps s' → ok () s')
    (hstruck : ∀ fault s', s.store.faults ≠ [] → s.Keeps s' → error fault s') :
    (control c).Ends s ok error := by
  refine ends_control (fun faults hfaults => ?_) fun fault faults hne => ?_
  · obtain rfl | ⟨millis, rfl⟩ := hc <;>
      exact hok _ ⟨rfl, rfl, rfl, rfl, Nat.le_succ _, hfaults⟩
  · obtain rfl | ⟨millis, rfl⟩ := hc <;>
      exact hstruck _ _ hne ⟨rfl, rfl, rfl, rfl, Nat.le_succ _, fun h => absurd h hne⟩

/-- A commit ends the transaction; one that fails brings the tables back. -/
lemma ends_commit (hok : ∀ s', s.Leaves s' s.store.tables → ok () s')
    (hstruck : ∀ fault s', s.store.faults ≠ [] →
      s.Leaves s' (s.store.saved.getD s.store.tables) → error fault s') :
    (control .commit).Ends s ok error :=
  ends_control (fun _ hfaults => hok _ ⟨rfl, rfl, rfl, Nat.le_succ _, hfaults⟩)
    fun _ _ hne => hstruck _ _ hne ⟨rfl, rfl, rfl, Nat.le_succ _, fun h => absurd h hne⟩

/-- A rollback brings the tables back; one that fails does nothing. -/
lemma ends_rollback (hok : ∀ s', s.Leaves s' (s.store.saved.getD s.store.tables) → ok () s')
    (hstruck : ∀ fault s', s.store.faults ≠ [] → s.Keeps s' → error fault s') :
    (control .rollback).Ends s ok error :=
  ends_control (fun _ hfaults => hok _ ⟨rfl, rfl, rfl, Nat.le_succ _, hfaults⟩)
    fun _ _ hne => hstruck _ _ hne ⟨rfl, rfl, rfl, rfl, Nat.le_succ _, fun h => absurd h hne⟩

end Control

/-- A query is answered from the tables, or it fails and leaves them as they are: struck by a
fault, or refused for what it asks. -/
lemma ends_query {q : Query} {ok : q.Reply → Session → Prop} {error : StoreError → Session → Prop}
    (hok : ∀ d reply s', s.store.tables.apply d q = .ok (reply, s'.store.tables) →
      s.Answers s' d → ok reply s')
    (herror : ∀ fault s', s.store.faults ≠ [] ∨ (∃ d, s.store.tables.apply d q = .error fault) →
      s.Keeps s' → error fault s') :
    (query q).Ends s ok error := by
  refine ends_send.mpr ?_
  obtain ⟨faults, hfaults, h | ⟨hne, -, fault, h⟩⟩ := s.store.perform_cases (.query q)
  · rw [h, Store.execute]
    cases hq : (s.store.counted faults).tables.apply (s.store.counted faults).draw q with
    | ok answer => exact hok _ _ _ hq ⟨rfl, rfl, rfl, rfl, rfl, hfaults⟩
    | error fault =>
        exact herror _ _ (.inr ⟨_, hq⟩) ⟨rfl, rfl, rfl, rfl, Nat.le_succ _, hfaults⟩
  · rw [h]
    exact herror _ _ (.inl hne) ⟨rfl, rfl, rfl, rfl, Nat.le_succ _, fun h => absurd h hne⟩

/-! ### Transactions -/

variable {ok : α → Session → Prop} {error : StoreError → Session → Prop}

/-- After an error the open transaction is abandoned. -/
lemma ends_orAbandon_of_restores {a : Attempt α} {s s' : Session}
    (h : a.Ends s' ok fun fault s'' =>
      s.Restores s'' ∧ ∀ s₃, s.Leaves s₃ s.store.tables → error fault s₃) :
    (orAbandon a).Ends s' ok error := by
  refine (ends_orAbandon _).mpr (h.mono (fun _ _ h => h) fun fault s'' h => ?_)
  obtain ⟨hrestores, herror⟩ := h
  obtain ⟨faults, hfaults, habandon | ⟨-, h, -⟩⟩ := s''.store.perform_cases (.control .abandon)
  · rw [habandon]
    exact herror _ ⟨hrestores.clock, hrestores.tables, rfl,
      Nat.le_trans hrestores.turn (Nat.le_succ _), hfaults ∘ hrestores.faults⟩
  · exact absurd rfl h

/-- An attempt in a transaction of its own, which the attempt has to end: what it comes to holds,
or there is an error and the tables are as they were. -/
lemma ends_inTransaction {a : Attempt α} {lockTimeout : Duration} (hs : s.store.saved = none)
    (hbody : ∀ s', s.Opens s' → a.Ends s' ok fun fault s'' =>
      s.Restores s'' ∧ ∀ s₃, s.Leaves s₃ s.store.tables → error fault s₃)
    (hstruck : ∀ fault s', s.store.faults ≠ [] → s.Leaves s' s.store.tables → error fault s') :
    (inTransaction lockTimeout a).Ends s ok error := by
  refine (ends_bind _ _).mpr (ends_begin (fun s' hopen => ?_) fun fault s' hne hkeeps =>
    hstruck fault s' hne (hkeeps.leaves hs))
  refine ends_orAbandon_of_restores ((ends_bind _ _).mpr (ends_setting (.inl rfl)
    (fun s'' hkeeps => ?_) fun fault s'' hne hkeeps =>
      ⟨(hopen.trans hkeeps).restores, fun s₃ h => hstruck fault s₃ (hne ∘ hopen.faults) h⟩))
  have hopen := hopen.trans hkeeps
  refine (ends_bind _ _).mpr (ends_setting (.inr ⟨_, rfl⟩) (fun s₃ hkeeps => ?_)
    fun fault s₃ hne hkeeps =>
      ⟨(hopen.trans hkeeps).restores, fun s₄ h => hstruck fault s₄ (hne ∘ hopen.faults) h⟩)
  exact hbody s₃ (hopen.trans hkeeps)

/-- An attempt in a transaction that is committed after it. -/
lemma ends_committed {a : Attempt α} {lockTimeout : Duration} (hs : s.store.saved = none)
    (hbody : ∀ s', s.Opens s' → a.Ends s'
      (fun v s'' => s.Restores s'' ∧ ∀ s₃, s''.Leaves s₃ s''.store.tables → ok v s₃)
      fun fault s'' => s.Restores s'' ∧ ∀ s₃, s.Leaves s₃ s.store.tables → error fault s₃)
    (hstruck : ∀ fault s', s.store.faults ≠ [] → s.Leaves s' s.store.tables → error fault s') :
    (committed lockTimeout a).Ends s ok error := by
  refine ends_inTransaction hs (fun s' hopen => (ends_bind _ _).mpr ((hbody s' hopen).mono
    (fun v s'' h => ?_) fun _ _ h => h)) hstruck
  obtain ⟨hrestores, hok⟩ := h
  refine (ends_bind _ _).mpr (ends_commit (fun s₃ hleaves => ?_) fun fault s₃ hne hleaves => ?_)
  · exact (ends_pure v).mpr (hok s₃ hleaves)
  · exact ⟨hleaves.restores hrestores hrestores.tables,
      fun s₄ hleaves => hstruck fault s₄ (hne ∘ hrestores.faults) hleaves⟩

end Attempt

end JobDispatch
