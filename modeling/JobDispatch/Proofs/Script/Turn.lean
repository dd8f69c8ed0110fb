import JobDispatch.Proofs.Script.Protocol

/-!
Scripts that take turns.

A turn of a script ends where no transaction is open: after a statement of its own, or when the
transaction that it has begun is over. Others have their turns in between.

* `Script.turn` is one turn. Running what is left comes to the same as running the whole
  (`Script.run_turn`).
* `Script.Turns`: what a turn comes to, statement by statement.
* `Protocol.Keeps`: a relation between the protocol and the store that every allowed statement
  keeps.
* `Script.Follows.turn`: such a relation holds after a turn, and what is left of the script goes on
  following the protocol.
-/

namespace JobDispatch

namespace Script

variable {α : Type}

/-- Runs a script up to the next point at which no transaction is open, and gives what is left of
it. -/
def turn : Script α → Session → Script α × Session
  | exec q next, s =>
    let (reply, store) := s.store.perform q
    match store.saved with
    | none => (next reply, { s with store })
    | some _ => (next reply).turn { s with store }
  | clock next, s => (next s.now).turn { s with readings := s.readings + 1 }
  | note n next, s => next.turn (s.logged n)
  | measure m next, s => next.turn (s.measured m)
  | done v, s => (done v, s)
  | halt h, s => (halt h, s)

lemma run_turn (p : Script α) (s : Session) : (p.turn s).1.run (p.turn s).2 = p.run s := by
  induction p generalizing s with
  | done v => rfl
  | halt h => rfl
  | clock next ih => exact ih _ _
  | note n next ih => exact ih _
  | measure m next ih => exact ih _
  | exec q next ih =>
      rw [turn, run]
      dsimp only
      cases (s.store.perform q).2.saved with
      | none => rfl
      | some t => exact ih _ _

lemma run_turn_bind {β : Type} (p : Script α) (f : α → Script β) (s : Session) :
    ((p.turn s).1 >>= f).run (p.turn s).2 = (p >>= f).run s := by
  rw [run_bind, run_bind, run_turn]

/-- Nothing is left to do, or nothing ever will be done. -/
def Ended : Script α → Prop
  | done _ | halt _ => True
  | _ => False

/-- After a turn no transaction is open, unless the script has come to its end inside one. -/
lemma saved_turn (p : Script α) (s : Session) :
    (p.turn s).2.store.saved = none ∨ (p.turn s).1.Ended := by
  induction p generalizing s with
  | done v => exact .inr trivial
  | halt h => exact .inr trivial
  | clock next ih => exact ih _ _
  | note n next ih => exact ih _
  | measure m next ih => exact ih _
  | exec q next ih =>
      rw [turn]
      dsimp only
      cases hsaved : (s.store.perform q).2.saved with
      | none => exact .inl hsaved
      | some t => exact ih _ _

/-! ### What a turn comes to -/

/-- The condition holds of what is left of the script after a turn, and of the session. -/
def Turns (p : Script α) (s : Session) (post : Script α → Session → Prop) : Prop :=
  post (p.turn s).1 (p.turn s).2

section Turns

variable {s : Session} {post : Script α → Session → Prop} {q : Statement}
  {next : Except StoreError q.Reply → Script α} {reply : Except StoreError q.Reply} {store : Store}

/-- A turn goes on after a statement inside a transaction. -/
lemma turns_of_open {tables : Tables} (h : s.store.perform q = (reply, store))
    (hopen : store.saved = some tables) :
    (exec q next).Turns s post ↔ (next reply).Turns { s with store } post := by
  rw [Turns, turn, h]
  dsimp only
  rw [hopen]
  rfl

/-- A turn is over after a statement that leaves no transaction open. -/
lemma turns_of_closed (h : s.store.perform q = (reply, store)) (hclosed : store.saved = none) :
    (exec q next).Turns s post ↔ post (next reply) { s with store } := by
  rw [Turns, turn, h]
  dsimp only
  rw [hclosed]

lemma turns_measure (m : Measurement) (p : Script α) :
    (measure m p).Turns s post ↔ p.Turns (s.measured m) post := Iff.rfl

end Turns

end Script

section Protocol

variable {α σ : Type} {P : Protocol σ} {related : σ → Store → Prop} {x : σ}

/-- The relation is kept by every statement that the protocol allows. -/
def Protocol.Keeps (P : Protocol σ) (related : σ → Store → Prop) : Prop :=
  ∀ x st q, related x st → P.allows x q → related (P.after x q (st.perform q).1) (st.perform q).2

/-- After a turn the relation holds for a state from which what is left follows the protocol. -/
lemma Script.Follows.turn {p : Script α} {post : α → σ → Prop} (hP : P.Keeps related)
    (hp : p.Follows P x post) {s : Session} (hs : related x s.store) :
    ∃ y, (p.turn s).1.Follows P y post ∧ related y (p.turn s).2.store := by
  induction p generalizing x s with
  | done v => exact ⟨x, hp, hs⟩
  | halt h => exact ⟨x, hp, hs⟩
  | clock next ih => exact ih _ (hp s.now) hs
  | note n next ih => exact ih hp hs
  | measure m next ih => exact ih hp hs
  | exec q next ih =>
      obtain ⟨hallows, hnext⟩ := hp
      have hafter := hP x s.store q hs hallows
      rw [Script.turn]
      dsimp only
      cases (s.store.perform q).2.saved with
      | none => exact ⟨_, hnext _, hafter⟩
      | some t => exact ih _ (hnext _) hafter

/-- A script that has come to its end follows the protocol from every state, if what holds at the
end does not depend on the state. -/
lemma Script.Follows.of_ended {p : Script α} {post : α → Prop} (hended : p.Ended)
    (hp : p.Follows P x fun v _ => post v) (y : σ) : p.Follows P y fun v _ => post v := by
  cases p with
  | done v => exact hp
  | halt h => trivial
  | exec q next => exact hended.elim
  | clock next => exact hended.elim
  | note n next => exact hended.elim
  | measure m next => exact hended.elim

end Protocol

end JobDispatch
