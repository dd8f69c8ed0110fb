import JobDispatch.Proofs.Script.Turn
import JobDispatch.Script.Run

/-!
What a script asks of the store, by what it has read from the clock.

* `Session.seen`: what has been read in a session.
* `Script.Abides`: every statement is allowed by the readings before it, and a condition holds at
  the end, if there is one. `abides_bind` is for a script that is put together from others, and
  `Script.Only.abides` for one that sends statements of a kind that is allowed from now on.
* `Script.Abides.turn`: a relation that readings and allowed statements keep holds after a turn, and
  what is left of the script goes on like this.
-/

namespace JobDispatch

/-- What has been read from the clock so far. -/
def Session.seen (s : Session) : List Instant := (List.range s.readings).map s.clock

lemma Session.seen_read (s : Session) :
    { s with readings := s.readings + 1 }.seen = s.seen ++ [s.now] := by
  simp [seen, List.range_succ, now]

namespace Script

variable {α β : Type} {allows : List Instant → Statement → Prop} {readings : List Instant}

/-- After these readings of the clock, the script sends only what its readings allow, and if it is
ever done then `post` holds. -/
def Abides (allows : List Instant → Statement → Prop) :
    Script α → List Instant → (α → Prop) → Prop
  | done v, _, post => post v
  | exec q next, readings, post =>
    allows readings q ∧ ∀ reply, (next reply).Abides allows readings post
  | clock next, readings, post => ∀ now, (next now).Abides allows (readings ++ [now]) post
  | note _ next, readings, post => next.Abides allows readings post
  | measure _ next, readings, post => next.Abides allows readings post
  | halt _, _, _ => True

variable {post : β → Prop}

lemma abides_now_bind (f : Instant → Script β) : (now >>= f).Abides allows readings post ↔
    ∀ t, (f t).Abides allows (readings ++ [t]) post := Iff.rfl

lemma abides_log_bind (n : Notice) (f : Unit → Script β) :
    (log n >>= f).Abides allows readings post ↔ (f ()).Abides allows readings post := Iff.rfl

/-- A script goes on with what abides after whatever may have been read until then. -/
lemma Abides.bind {p : Script α} {f : α → Script β} {mid : α → Prop}
    (hp : p.Abides allows readings mid)
    (hf : ∀ v later, mid v → (f v).Abides allows (readings ++ later) post) :
    (p >>= f).Abides allows readings post := by
  show (p.bind f).Abides allows readings post
  induction p generalizing readings with
  | done v =>
      have hnext := hf v [] hp
      rw [List.append_nil] at hnext
      exact hnext
  | halt h => trivial
  | exec q next ih => exact ⟨hp.1, fun reply => ih reply (hp.2 reply) hf⟩
  | note n next ih => exact ih hp hf
  | measure m next ih => exact ih hp hf
  | clock next ih =>
      intro now
      refine ih now (hp now) fun v later hv => ?_
      rw [List.append_assoc]
      exact hf v _ hv

/-- A script abides if it sends only statements that are allowed from now on. -/
lemma Only.abides {allowed : Statement → Prop} {p : Script α} (hp : p.Only allowed)
    (h : ∀ later q, allowed q → allows (readings ++ later) q) :
    p.Abides allows readings fun _ => True := by
  induction p generalizing readings with
  | done v => trivial
  | halt h => trivial
  | exec q next ih => exact ⟨by simpa using h [] q hp.1, fun reply => ih reply (hp.2 reply) h⟩
  | note n next ih => exact ih hp h
  | measure m next ih => exact ih hp h
  | clock next ih =>
      intro now
      refine ih now (hp now) fun later q hq => ?_
      rw [List.append_assoc]
      exact h _ q hq

/-- After a turn the relation holds for what has been read by then, and what is left of the script
abides after that. -/
lemma Abides.turn {R : List Instant → Store → Prop} {past : List Instant} {p : Script α}
    {post : α → Prop} {s : Session}
    (hread : ∀ readings now st, R readings st → R (readings ++ [now]) st)
    (hkeeps : ∀ readings st q, R readings st → allows readings q →
      R readings (st.perform q).2)
    (hp : p.Abides allows (past ++ s.seen) post) (hs : R (past ++ s.seen) s.store) :
    (p.turn s).1.Abides allows (past ++ (p.turn s).2.seen) post ∧
      R (past ++ (p.turn s).2.seen) (p.turn s).2.store := by
  induction p generalizing s with
  | done v => exact ⟨hp, hs⟩
  | halt h => exact ⟨trivial, hs⟩
  | note n next ih => exact ih hp hs
  | measure m next ih => exact ih hp hs
  | clock next ih =>
      have hseen : past ++ { s with readings := s.readings + 1 }.seen = past ++ s.seen ++ [s.now] :=
        by rw [s.seen_read, List.append_assoc]
      refine ih s.now ?_ ?_
      · rw [hseen]
        exact hp s.now
      · rw [hseen]
        exact hread _ _ _ hs
  | exec q next ih =>
      have hafter := hkeeps _ _ q hs hp.1
      rw [Script.turn]
      dsimp only
      cases (s.store.perform q).2.saved with
      | none => exact ⟨hp.2 _, hafter⟩
      | some t => exact ih _ (hp.2 _) hafter

end Script

end JobDispatch
