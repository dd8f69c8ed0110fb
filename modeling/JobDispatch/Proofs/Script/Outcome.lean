import JobDispatch.Script.Run
import Mathlib.Tactic.Lemma

/-!
What a script comes to when it runs alone.

* `Script.Ends p s post`: from the session `s` the script `p` comes to an end, and `post` holds of
  its value and of the session it leaves. One lemma for each way of building a script says what has
  to be shown (`Script.ends_bind`, `Attempt.ends_bind`).
* `Script.runAt`: a script run alone at one reading of the clock, which is how it takes part in a
  system of several that share a store.
* `Script.upToClock`: a script run up to where it next reads the clock, with what is left of it.
  Running what is left comes to the same as running the whole (`Script.run_upToClock`).
-/

namespace JobDispatch

namespace Session

variable (s : Session)

@[simp] lemma store_measured (m : Measurement) : (s.measured m).store = s.store := rfl

/-- The reading that the clock gives next. -/
def now (s : Session) : Instant := s.clock s.readings

/-- A session in which the clock stands still. -/
def still (store : Store) (now : Instant) : Session := ⟨store, fun _ => now, 0, ⟨[], []⟩⟩

end Session

namespace Script

variable {α β : Type}

/-! ### Ends of scripts -/

/-- The script comes to an end, with a value and a session of which `post` holds. -/
def Ends (p : Script α) (s : Session) (post : α → Session → Prop) : Prop :=
  ∃ v s', p.run s = (.ok v, s') ∧ post v s'

lemma Ends.mono {p : Script α} {s : Session} {post post' : α → Session → Prop}
    (h : p.Ends s post) (hpost : ∀ v s', post v s' → post' v s') : p.Ends s post' := by
  obtain ⟨v, s', hrun, hv⟩ := h
  exact ⟨v, s', hrun, hpost v s' hv⟩

/-- A script has one end only. -/
lemma Ends.of_run {p : Script α} {s s' : Session} {v : α} {post : α → Session → Prop}
    (h : p.Ends s post) (hrun : p.run s = (.ok v, s')) : post v s' := by
  obtain ⟨w, s'', hrun', hw⟩ := h
  rw [hrun, Prod.mk.injEq, Except.ok.injEq] at hrun'
  obtain ⟨rfl, rfl⟩ := hrun'
  exact hw

lemma run_bind (p : Script α) (f : α → Script β) (s : Session) :
    (p >>= f).run s = match p.run s with
      | (.ok v, s') => (f v).run s'
      | (.error h, s') => (.error h, s') := by
  show (p.bind f).run s = _
  induction p generalizing s with
  | done v => rfl
  | halt h => rfl
  | exec q next ih => exact ih _ _
  | clock next ih => exact ih _ _
  | note n next ih => exact ih _
  | measure m next ih => exact ih _

variable {s : Session} {post : β → Session → Prop}

@[simp] lemma ends_pure (v : β) : (pure v : Script β).Ends s post ↔ post v s :=
  ⟨fun h => h.of_run rfl, fun h => ⟨v, s, rfl, h⟩⟩

lemma ends_bind (p : Script α) (f : α → Script β) :
    (p >>= f).Ends s post ↔ p.Ends s fun v s' => (f v).Ends s' post := by
  constructor
  · rintro ⟨w, s'', hrun, hw⟩
    rw [run_bind] at hrun
    split at hrun
    · next v s' hp => exact ⟨v, s', hp, w, s'', hrun, hw⟩
    · cases hrun
  · rintro ⟨v, s', hp, w, s'', hf, hw⟩
    exact ⟨w, s'', by rw [run_bind, hp]; exact hf, hw⟩

@[simp] lemma ends_now {post : Instant → Session → Prop} :
    now.Ends s post ↔ post s.now { s with readings := s.readings + 1 } :=
  ⟨fun h => h.of_run rfl, fun h => ⟨_, _, rfl, h⟩⟩

@[simp] lemma ends_log {post : Unit → Session → Prop} (n : Notice) :
    (log n).Ends s post ↔ post () (s.logged n) :=
  ⟨fun h => h.of_run rfl, fun h => ⟨_, _, rfl, h⟩⟩

@[simp] lemma ends_record {post : Unit → Session → Prop} (m : Measurement) :
    (record m).Ends s post ↔ post () (s.measured m) :=
  ⟨fun h => h.of_run rfl, fun h => ⟨_, _, rfl, h⟩⟩

/-! ### Scripts among others -/

/-- Runs a script alone while the clock shows one instant. -/
def runAt (p : Script α) (now : Instant) (store : Store) : Except Halt α × Store :=
  let (outcome, s) := p.run (.still store now)
  (outcome, s.store)

lemma Ends.runAt {p : Script α} {store : Store} {now : Instant} {post : α → Session → Prop}
    (h : p.Ends (.still store now) post) :
    ∃ v s', p.runAt now store = (.ok v, s'.store) ∧ post v s' := by
  obtain ⟨v, s', hrun, hv⟩ := h
  exact ⟨v, s', by simp [Script.runAt, hrun], hv⟩

/-- Runs a script up to where it next reads the clock, and gives what is left of it. -/
def upToClock : Script α → Session → Script α × Session
  | exec q next, s =>
    let (reply, store) := s.store.perform q
    (next reply).upToClock { s with store }
  | note n next, s => next.upToClock (s.logged n)
  | measure m next, s => next.upToClock (s.measured m)
  | done v, s => (done v, s)
  | clock next, s => (clock next, s)
  | halt h, s => (halt h, s)

lemma run_upToClock (p : Script α) (s : Session) :
    (p.upToClock s).1.run (p.upToClock s).2 = p.run s := by
  induction p generalizing s with
  | done v => rfl
  | halt h => rfl
  | exec q next ih => exact ih _ _
  | clock next => rfl
  | note n next ih => exact ih _
  | measure m next ih => exact ih _

end Script

/-! ### Ends of attempts -/

namespace Attempt

variable {α β : Type} {s : Session}

/-- The attempt comes to an end: `ok` holds if it succeeds and `error` if it fails. -/
def Ends (a : Attempt α) (s : Session) (ok : α → Session → Prop)
    (error : StoreError → Session → Prop) : Prop :=
  a.run.Ends s fun outcome s' =>
    Except.casesOn outcome (fun fault => error fault s') fun v => ok v s'

/-- A condition on the outcome, by whether the attempt succeeds or fails. -/
lemma ends_iff {a : Attempt α} {post : Except StoreError α → Session → Prop} :
    a.Ends s (fun v => post (.ok v)) (fun fault => post (.error fault)) ↔ a.run.Ends s post :=
  exists_congr fun outcome => by cases outcome <;> rfl

lemma Ends.mono {a : Attempt α} {ok ok' : α → Session → Prop}
    {error error' : StoreError → Session → Prop} (h : a.Ends s ok error)
    (hok : ∀ v s', ok v s' → ok' v s') (herror : ∀ fault s', error fault s' → error' fault s') :
    a.Ends s ok' error' :=
  Script.Ends.mono h fun outcome s' h => by
    cases outcome with
    | ok v => exact hok v s' h
    | error fault => exact herror fault s' h

variable {ok : β → Session → Prop} {error : StoreError → Session → Prop}

@[simp] lemma ends_pure (v : β) : Ends (pure v) s ok error ↔ ok v s := Script.ends_pure _

lemma ends_bind (a : Attempt α) (f : α → Attempt β) :
    Ends (a >>= f) s ok error ↔ a.Ends s (fun v s' => (f v).Ends s' ok error) error := by
  rw [Ends, ExceptT.run_bind, Script.ends_bind]
  refine exists_congr fun outcome => exists_congr fun s' => and_congr_right fun _ => ?_
  cases outcome with
  | ok v => rfl
  | error fault => exact Script.ends_pure _

lemma ends_map (f : α → β) (a : Attempt α) :
    (f <$> a).Ends s ok error ↔ a.Ends s (fun v s' => ok (f v) s') error := by
  rw [map_eq_pure_bind, ends_bind]
  simp only [ends_pure]

@[simp] lemma ends_lift (p : Script β) : Ends (liftM p) s ok error ↔ p.Ends s ok := by
  show (p >>= fun v => pure (Except.ok v)).Ends s _ ↔ _
  rw [Script.ends_bind]
  simp only [Script.ends_pure]

lemma ends_send {q : Statement} {ok : q.Reply → Session → Prop} :
    (send q).Ends s ok error ↔
      Except.casesOn (s.store.perform q).1
        (fun fault => error fault { s with store := (s.store.perform q).2 })
        fun reply => ok reply { s with store := (s.store.perform q).2 } :=
  Script.ends_pure _

@[simp] lemma ends_timed (name : String) (a : Attempt β) :
    (timed name a).Ends s ok error ↔
      a.Ends s (fun v s' => ok v (s'.measured (.queryTimed name)))
        fun fault s' => error fault (s'.measured (.queryTimed name)) := by
  show (a.run >>= fun outcome => .measure (.queryTimed name) (.done outcome)).Ends s _ ↔ _
  rw [Script.ends_bind]
  refine exists_congr fun outcome => exists_congr fun s' => and_congr_right fun _ => ?_
  cases outcome <;> exact Script.ends_pure _

lemma ends_orAbandon (a : Attempt β) :
    (orAbandon a).Ends s ok error ↔ a.Ends s ok fun fault s' =>
      error fault { s' with store := (s'.store.perform (.control .abandon)).2 } := by
  show (a.run >>= _).Ends s _ ↔ _
  rw [Script.ends_bind]
  refine exists_congr fun outcome => exists_congr fun s' => and_congr_right fun _ => ?_
  cases outcome <;> exact Script.ends_pure _

end Attempt

end JobDispatch
