import JobDispatch.Proofs.Script.Sent
import JobDispatch.Proofs.Store.Transaction
import Mathlib.Data.List.Forall2

/-!
Two scripts side by side.

The sessions in which they start are the same but for what their stores contain: the tables, and
what an open transaction has saved of them. Faults strike both in the same way, and rows are drawn
and the clock is read in the same way.

* `Script.Twins`: the scripts send statements that are alike, and come to ends that are.
  `Script.Twins.bind` and the lemmas beside it say what has to be shown.
* `Attempt.Twins`: the same for attempts, which both succeed or fail with the same error.
* `Attempt.twins_committed`: attempts in transactions of their own.
-/

namespace JobDispatch

/-- The tables of a store, and what its open transaction has saved of them. -/
structure Contents where
  tables : Tables
  saved : Option Tables

/-- Both succeed, or both fail with the same error. -/
def Agree {α β : Type} (ok : α → β → Prop) (error : StoreError → Prop) :
    Except StoreError α → Except StoreError β → Prop
  | .ok v, .ok v' => ok v v'
  | .error fault, .error fault' => fault' = fault ∧ error fault
  | _, _ => False

lemma Agree.cases {α β : Type} {ok : α → β → Prop} {error : StoreError → Prop}
    {o : Except StoreError α} {o' : Except StoreError β} (h : Agree ok error o o') :
    (∃ v v', o = .ok v ∧ o' = .ok v' ∧ ok v v') ∨
      ∃ fault, o = .error fault ∧ o' = .error fault ∧ error fault := by
  cases o with
  | ok v =>
      cases o' with
      | ok v' => exact .inl ⟨v, v', rfl, rfl, h⟩
      | error fault' => exact h.elim
  | error fault =>
      cases o' with
      | ok v' => exact h.elim
      | error fault' => exact .inr ⟨fault, rfl, congrArg _ h.1, h.2⟩

lemma Agree.mono {α β : Type} {ok ok' : α → β → Prop} {error error' : StoreError → Prop}
    {o : Except StoreError α} {o' : Except StoreError β} (h : Agree ok error o o')
    (hok : ∀ v v', ok v v' → ok' v v') (herror : ∀ fault, error fault → error' fault) :
    Agree ok' error' o o' := by
  obtain ⟨v, v', rfl, rfl, hv⟩ | ⟨fault, rfl, rfl, hfault⟩ := h.cases
  · exact hok v v' hv
  · exact ⟨rfl, herror fault hfault⟩

namespace Contents

/-- The contents once the open transaction has been undone. -/
def restored (c : Contents) : Contents := ⟨c.saved.getD c.tables, none⟩

/-- The contents after a control statement. -/
def controlled (c : Contents) : Control → Contents
  | .begin => ⟨c.tables, some c.tables⟩
  | .setIsolation | .setLockTimeout _ => c
  | .commit => ⟨c.tables, none⟩
  | .rollback | .abandon => c.restored

/-- The contents after a control statement that a fault strikes. -/
def struck (c : Contents) : Control → Contents
  | .commit => c.restored
  | _ => c

end Contents

namespace Store

/-- The contents of the store. -/
def contents (st : Store) : Contents := ⟨st.tables, st.saved⟩

/-- The store with other contents. -/
def bearing (st : Store) (c : Contents) : Store := { st with tables := c.tables, saved := c.saved }

/-- What strikes at a point, if there is one, and the faults that are left. -/
def striking (faults : List Fault) : Option Point → Option StoreError × List Fault
  | some point => Fault.strike point faults
  | none => (none, faults)

/-- What strikes a statement, and the faults that are left. -/
def meets (st : Store) : Statement → Option StoreError × List Fault
  | .control .abandon => (none, Fault.letPass .rollback st.faults)
  | q => striking st.faults q.point

lemma perform_eq (st : Store) (q : Statement) : st.perform q =
    match (st.meets q).1 with
    | some fault => (.error fault, (st.counted (st.meets q).2).struck q)
    | none => (st.counted (st.meets q).2).execute q := by
  cases q with
  | control k => cases k <;> rfl
  | query q => cases q <;> rfl

/-- A control statement does not depend on what the store contains. -/
lemma perform_control_bearing (st : Store) (k : Control) :
    (∃ st₁ : Store, ∀ c,
      (st.bearing c).perform (.control k) = (.ok (), st₁.bearing (c.controlled k))) ∨
    ∃ fault, ∃ st₁ : Store, k ≠ .abandon ∧
      ∀ c, (st.bearing c).perform (.control k) = (.error fault, st₁.bearing (c.struck k)) := by
  have hmeets (c : Contents) : (st.bearing c).meets (.control k) = st.meets (.control k) := rfl
  cases hstrike : (st.meets (.control k)).1 with
  | none =>
      refine .inl ⟨(st.counted (st.meets (.control k)).2).controlled k, fun c => ?_⟩
      rw [perform_eq, hmeets, hstrike]
      cases k <;> rfl
  | some fault =>
      refine .inr ⟨fault, st.counted (st.meets (.control k)).2, ?_, fun c => ?_⟩
      · rintro rfl
        cases hstrike
      · rw [perform_eq, hmeets, hstrike]
        cases k <;> rfl

/-- Queries of the same point are struck in the same way, or answered from what the stores
contain. -/
lemma perform_query_bearing (st : Store) {q q' : Query} (hpoint : q'.point = q.point)
    (c c' : Contents) :
    (∃ st₁ : Store, ∃ d, (st.bearing c).perform (.query q) =
        (match c.tables.apply d q with
          | .ok (reply, tables) => (.ok reply, st₁.bearing ⟨tables, c.saved⟩)
          | .error fault => (.error fault, st₁.bearing c)) ∧
      (st.bearing c').perform (.query q') =
        match c'.tables.apply d q' with
        | .ok (reply, tables) => (.ok reply, st₁.bearing ⟨tables, c'.saved⟩)
        | .error fault => (.error fault, st₁.bearing c')) ∨
    ∃ fault, ∃ st₁ : Store, (st.bearing c).perform (.query q) = (.error fault, st₁.bearing c) ∧
      (st.bearing c').perform (.query q') = (.error fault, st₁.bearing c') := by
  have hmeets : (st.bearing c).meets (.query q) = striking st.faults q.point := rfl
  have hmeets' : (st.bearing c').meets (.query q') = striking st.faults q.point :=
    congrArg (striking st.faults) hpoint
  rw [perform_eq, perform_eq, hmeets, hmeets']
  rcases striking st.faults q.point with ⟨_ | fault, faults⟩
  · exact .inl ⟨st.counted faults, (st.counted faults).draw, rfl, rfl⟩
  · exact .inr ⟨fault, st.counted faults, rfl, rfl⟩

end Store

/-- The session in which the store contains something else. -/
def Session.bearing (s : Session) (c : Contents) : Session := { s with store := s.store.bearing c }

variable {α α' β β' : Type} {same : Statement → Statement → Prop} {s : Session} {c c' : Contents}

/-! ### Scripts -/

namespace Script

/-- From sessions that differ in their contents only, the scripts send statements that are alike.
They halt alike in the same session, or come to their ends in sessions that differ in their contents
only, and `post` holds of both. -/
def Twins (same : Statement → Statement → Prop) (p : Script α) (p' : Script α') (s : Session)
    (c c' : Contents) (post : α → α' → Session → Contents → Contents → Prop) : Prop :=
  List.Forall₂ same (p.sent (s.bearing c)) (p'.sent (s.bearing c')) ∧
  ((∃ h s₁, p.run (s.bearing c) = (.error h, s₁) ∧ p'.run (s.bearing c') = (.error h, s₁)) ∨
    ∃ v v' s₁ c₁ c₁', p.run (s.bearing c) = (.ok v, s₁.bearing c₁) ∧
      p'.run (s.bearing c') = (.ok v', s₁.bearing c₁') ∧ post v v' s₁ c₁ c₁')

namespace Twins

variable {p : Script α} {p' : Script α'}
  {post post' : α → α' → Session → Contents → Contents → Prop}

/-- What holds in the end, knowing that it is the end. -/
lemma imp (h : p.Twins same p' s c c' post)
    (hpost : ∀ v v' s₁ c₁ c₁', p.run (s.bearing c) = (.ok v, s₁.bearing c₁) →
      post v v' s₁ c₁ c₁' → post' v v' s₁ c₁ c₁') : p.Twins same p' s c c' post' := by
  obtain ⟨hsent, hhalt | ⟨v, v', s₁, c₁, c₁', hrun, hrun', hv⟩⟩ := h
  · exact ⟨hsent, .inl hhalt⟩
  · exact ⟨hsent, .inr ⟨v, v', s₁, c₁, c₁', hrun, hrun', hpost _ _ _ _ _ hrun hv⟩⟩

lemma mono (h : p.Twins same p' s c c' post)
    (hpost : ∀ v v' s₁ c₁ c₁', post v v' s₁ c₁ c₁' → post' v v' s₁ c₁ c₁') :
    p.Twins same p' s c c' post' := h.imp fun _ _ _ _ _ _ => hpost _ _ _ _ _

lemma bind {f : α → Script β} {f' : α' → Script β'}
    {post : β → β' → Session → Contents → Contents → Prop}
    (h : p.Twins same p' s c c' fun v v' s₁ c₁ c₁' =>
      (f v).Twins same (f' v') s₁ c₁ c₁' post) :
    (p >>= f).Twins same (p' >>= f') s c c' post := by
  rw [Twins, run_bind, run_bind, sent_bind, sent_bind]
  obtain ⟨hsent, ⟨halt, s₁, hrun, hrun'⟩ | ⟨v, v', s₁, c₁, c₁', hrun, hrun', hsent', hends⟩⟩ := h
  · rw [hrun, hrun']
    exact ⟨List.rel_append hsent .nil, .inl ⟨halt, s₁, rfl, rfl⟩⟩
  · rw [hrun, hrun']
    exact ⟨List.rel_append hsent hsent', hends⟩

end Twins

variable {post : α → α' → Session → Contents → Contents → Prop}

lemma twins_pure {v : α} {v' : α'} (h : post v v' s c c') :
    (pure v : Script α).Twins same (pure v' : Script α') s c c' post :=
  ⟨.nil, .inr ⟨v, v', s, c, c', rfl, rfl, h⟩⟩

lemma twins_now {post : Instant → Instant → Session → Contents → Contents → Prop}
    (h : ∀ t s₁, post t t s₁ c c') : now.Twins same now s c c' post :=
  ⟨.nil, .inr ⟨s.now, s.now, { s with readings := s.readings + 1 }, c, c', rfl, rfl, h _ _⟩⟩

lemma twins_log {n : Notice} {post : Unit → Unit → Session → Contents → Contents → Prop}
    (h : ∀ s₁, post () () s₁ c c') : (log n).Twins same (log n) s c c' post :=
  ⟨.nil, .inr ⟨(), (), s.logged n, c, c', rfl, rfl, h _⟩⟩

lemma twins_record {m : Measurement} {post : Unit → Unit → Session → Contents → Contents → Prop}
    (h : ∀ s₁, post () () s₁ c c') : (record m).Twins same (record m) s c c' post :=
  ⟨.nil, .inr ⟨(), (), s.measured m, c, c', rfl, rfl, h _⟩⟩

/-- Two statements that leave stores which differ in their contents only. -/
lemma twins_exec {q q' : Statement} {next : Except StoreError q.Reply → Script α}
    {next' : Except StoreError q'.Reply → Script α'} (hsame : same q q')
    {st₁ : Store} {c₁ c₁' : Contents} {reply : Except StoreError q.Reply}
    {reply' : Except StoreError q'.Reply}
    (hq : (s.store.bearing c).perform q = (reply, st₁.bearing c₁))
    (hq' : (s.store.bearing c').perform q' = (reply', st₁.bearing c₁'))
    (h : ∀ s₁, (next reply).Twins same (next' reply') s₁ c₁ c₁' post) :
    (exec q next).Twins same (exec q' next') s c c' post := by
  have hstep {γ : Type} {q : Statement} {next : Except StoreError q.Reply → Script γ}
      {c c₁ : Contents} {reply : Except StoreError q.Reply}
      (hq : (s.store.bearing c).perform q = (reply, st₁.bearing c₁)) :
      (exec q next).sent (s.bearing c) =
          q :: (next reply).sent (({ s with store := st₁ } : Session).bearing c₁) ∧
        (exec q next).run (s.bearing c) =
          (next reply).run (({ s with store := st₁ } : Session).bearing c₁) := by
    rw [sent, run, Session.bearing, hq]
    exact ⟨rfl, rfl⟩
  obtain ⟨hsent, hends⟩ := h { s with store := st₁ }
  rw [Twins, (hstep hq).1, (hstep hq).2, (hstep hq').1, (hstep hq').2]
  exact ⟨.cons hsame hsent, hends⟩

/-- A script beside itself. -/
lemma twins_self (hsame : ∀ q, same q q) (p : Script α) (s : Session) (c : Contents) :
    p.Twins same p s c c fun v v' _ c₁ c₁' => v' = v ∧ c₁' = c₁ := by
  refine ⟨List.forall₂_same.mpr fun q _ => hsame q, ?_⟩
  rcases hrun : p.run (s.bearing c) with ⟨h | v, s₁⟩
  · exact .inl ⟨h, s₁, rfl, rfl⟩
  · exact .inr ⟨v, v, s₁, s₁.store.contents, s₁.store.contents, rfl, rfl, rfl, rfl⟩

end Script

/-! ### Attempts -/

namespace Attempt

/-- The attempts run side by side. Both succeed and `ok` holds, or both fail with the same error and
`error` holds. -/
def Twins (same : Statement → Statement → Prop) (a : Attempt α) (a' : Attempt α') (s : Session)
    (c c' : Contents) (ok : α → α' → Session → Contents → Contents → Prop)
    (error : StoreError → Session → Contents → Contents → Prop) : Prop :=
  a.run.Twins same a'.run s c c' fun o o' s₁ c₁ c₁' =>
    Agree (fun v v' => ok v v' s₁ c₁ c₁') (fun fault => error fault s₁ c₁ c₁') o o'

variable {a : Attempt α} {a' : Attempt α'} {ok : α → α' → Session → Contents → Contents → Prop}
  {error : StoreError → Session → Contents → Contents → Prop}

lemma Twins.mono {ok' : α → α' → Session → Contents → Contents → Prop}
    {error' : StoreError → Session → Contents → Contents → Prop}
    (h : a.Twins same a' s c c' ok error)
    (hok : ∀ v v' s₁ c₁ c₁', ok v v' s₁ c₁ c₁' → ok' v v' s₁ c₁ c₁')
    (herror : ∀ fault s₁ c₁ c₁', error fault s₁ c₁ c₁' → error' fault s₁ c₁ c₁') :
    a.Twins same a' s c c' ok' error' :=
  Script.Twins.mono h fun _ _ _ _ _ hagree =>
    hagree.mono (fun _ _ => hok _ _ _ _ _) fun _ => herror _ _ _ _

lemma Twins.bind {f : α → Attempt β} {f' : α' → Attempt β'}
    {ok : β → β' → Session → Contents → Contents → Prop}
    (h : a.Twins same a' s c c'
      (fun v v' s₁ c₁ c₁' => (f v).Twins same (f' v') s₁ c₁ c₁' ok error) error) :
    Twins same (a >>= f) (a' >>= f') s c c' ok error := by
  rw [Twins, ExceptT.run_bind, ExceptT.run_bind]
  refine Script.Twins.bind (Script.Twins.mono h fun o o' s₁ c₁ c₁' hagree => ?_)
  obtain ⟨v, v', rfl, rfl, h⟩ | ⟨fault, rfl, rfl, h⟩ := hagree.cases
  · exact h
  · exact Script.twins_pure ⟨rfl, h⟩

lemma twins_pure {v : α} {v' : α'} (h : ok v v' s c c') :
    Twins same (pure v) (pure v') s c c' ok error := Script.twins_pure h

lemma twins_control {k : Control} {ok : Unit → Unit → Session → Contents → Contents → Prop}
    (hsame : ∀ q, same q q) (hok : ∀ s₁, ok () () s₁ (c.controlled k) (c'.controlled k))
    (herror : ∀ fault s₁, error fault s₁ (c.struck k) (c'.struck k)) :
    (control k).Twins same (control k) s c c' ok error := by
  obtain ⟨st₁, hq⟩ | ⟨fault, st₁, -, hq⟩ := s.store.perform_control_bearing k
  · exact Script.twins_exec (hsame _) (hq c) (hq c') fun s₁ => Script.twins_pure (hok s₁)
  · exact Script.twins_exec (hsame _) (hq c) (hq c') fun s₁ =>
      Script.twins_pure ⟨rfl, herror fault s₁⟩

/-- Queries of the same point. -/
lemma twins_query {q q' : Query} {ok : q.Reply → q'.Reply → Session → Contents → Contents → Prop}
    (hsame : same (.query q) (.query q')) (hpoint : q'.point = q.point)
    (happly : ∀ d s₁, Agree (fun x x' => ok x.1 x'.1 s₁ ⟨x.2, c.saved⟩ ⟨x'.2, c'.saved⟩)
      (fun fault => error fault s₁ c c') (c.tables.apply d q) (c'.tables.apply d q'))
    (herror : ∀ fault s₁, error fault s₁ c c') :
    (query q).Twins same (query q') s c c' ok error := by
  obtain ⟨st₁, d, hq, hq'⟩ | ⟨fault, st₁, hq, hq'⟩ := s.store.perform_query_bearing hpoint c c'
  · have hagree := happly d
    obtain ⟨x, x', hx, hx', -⟩ | ⟨fault, hx, hx', -⟩ := (hagree s).cases
    · rw [hx] at hq
      rw [hx'] at hq'
      rw [hx, hx'] at hagree
      exact Script.twins_exec hsame hq hq' fun s₁ => Script.twins_pure (hagree s₁)
    · rw [hx] at hq
      rw [hx'] at hq'
      rw [hx, hx'] at hagree
      exact Script.twins_exec hsame hq hq' fun s₁ => Script.twins_pure (hagree s₁)
  · exact Script.twins_exec hsame hq hq' fun s₁ => Script.twins_pure ⟨rfl, herror fault s₁⟩

lemma twins_lift {p : Script α} {p' : Script α'} (h : p.Twins same p' s c c' ok) :
    Twins same (liftM p) (liftM p') s c c' ok error :=
  Script.Twins.bind (h.mono fun _ _ _ _ _ hok => Script.twins_pure hok)

lemma twins_timed (name : String) (h : a.Twins same a' s c c'
    (fun v v' _ c₁ c₁' => ∀ s₁, ok v v' s₁ c₁ c₁')
    fun fault _ c₁ c₁' => ∀ s₁, error fault s₁ c₁ c₁') :
    (timed name a).Twins same (timed name a') s c c' ok error :=
  Script.Twins.bind (Script.Twins.mono h fun o o' s₁ c₁ c₁' hagree =>
    ⟨.nil, .inr ⟨o, o', s₁.measured (.queryTimed name), c₁, c₁', rfl, rfl,
      hagree.mono (fun _ _ hok => hok _) fun _ herror => herror _⟩⟩)

/-- After an error the transaction is undone. -/
lemma twins_orAbandon (hsame : ∀ q, same q q) (h : a.Twins same a' s c c' ok
      fun fault _ c₁ c₁' => ∀ s₁, error fault s₁ c₁.restored c₁'.restored) :
    (orAbandon a).Twins same (orAbandon a') s c c' ok error := by
  refine Script.Twins.bind (Script.Twins.mono h fun o o' s₁ c₁ c₁' hagree => ?_)
  obtain ⟨v, v', rfl, rfl, hok⟩ | ⟨fault, rfl, rfl, herror⟩ := hagree.cases
  · exact Script.twins_pure hok
  · obtain ⟨st₁, hq⟩ | ⟨-, -, hne, -⟩ := s₁.store.perform_control_bearing .abandon
    · exact Script.twins_exec (hsame _) (hq c₁) (hq c₁') fun s₂ =>
        Script.twins_pure ⟨rfl, herror s₂⟩
    · exact absurd rfl hne

/-- An attempt in a transaction that is committed after it. -/
lemma twins_committed (hsame : ∀ q, same q q) (lockTimeout : Duration)
    (hbody : ∀ s₁, a.Twins same a' s₁ ⟨c.tables, some c.tables⟩ ⟨c'.tables, some c'.tables⟩
      (fun v v' _ c₁ c₁' => c₁.saved = some c.tables ∧ c₁'.saved = some c'.tables ∧
        ∀ s₂, ok v v' s₂ ⟨c₁.tables, none⟩ ⟨c₁'.tables, none⟩)
      fun _ _ c₁ c₁' => c₁.saved = some c.tables ∧ c₁'.saved = some c'.tables)
    (hbegin : ∀ fault s₁, error fault s₁ c c')
    (herror : ∀ fault s₁, error fault s₁ ⟨c.tables, none⟩ ⟨c'.tables, none⟩) :
    (committed lockTimeout a).Twins same (committed lockTimeout a') s c c' ok error := by
  refine Twins.bind (twins_control hsame (fun s₁ => ?_) fun fault s₁ => hbegin fault s₁)
  refine twins_orAbandon hsame (Twins.bind (twins_control hsame (fun s₂ => ?_) fun fault _ =>
    herror fault))
  refine Twins.bind (twins_control hsame (fun s₃ => ?_) fun fault _ => herror fault)
  refine Twins.bind ((hbody s₃).mono (fun v v' s₄ c₁ c₁' hv => ?_) fun fault s₄ c₁ c₁' hsaved => ?_)
  · obtain ⟨hsaved, hsaved', hok⟩ := hv
    refine Twins.bind (twins_control hsame (fun s₅ => twins_pure (hok s₅)) fun fault _ s₆ => ?_)
    simp only [Contents.struck, Contents.restored, hsaved, hsaved', Option.getD_some]
    exact herror fault s₆
  · intro s₅
    simp only [Contents.restored, hsaved.1, hsaved.2, Option.getD_some]
    exact herror fault s₅

end Attempt

end JobDispatch
