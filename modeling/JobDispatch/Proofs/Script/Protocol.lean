import JobDispatch.Proofs.Script.Outcome

/-!
What a script asks of the store, whatever the store answers.

A protocol watches the statements of a script and the answers to them. Nothing is assumed about the
answers, so that what is shown of a script in this way holds however it runs among others.

* `Protocol`: which statements are allowed in a state, and the state after each answer.
* `Script.Follows` and `Attempt.Follows`: every statement that is sent is allowed, and a condition
  holds at the end, if there is one. `follows_bind` and the lemmas beside it say what has to be
  shown for a script that is put together from others.
* `Script.Only`: only statements of a certain kind are sent. This is enough for every protocol that
  allows these statements in all its states (`Script.Only.follows`).
-/

namespace JobDispatch

/-- Rules for the statements of a script, by what has been answered so far. -/
structure Protocol (σ : Type) where
  allows : σ → Statement → Prop
  after : σ → (q : Statement) → Except StoreError q.Reply → σ

/-- Statements of a certain kind are allowed at any time. -/
def Protocol.only (allowed : Statement → Prop) : Protocol Unit :=
  ⟨fun _ => allowed, fun _ _ _ => ()⟩

namespace Script

variable {α β σ : Type} {P : Protocol σ} {x : σ}

/-- From the state `x` of the protocol on, the script sends allowed statements only, and if it is
ever done then `post` holds of its value and of the state that has been reached. -/
def Follows (P : Protocol σ) : Script α → σ → (α → σ → Prop) → Prop
  | done v, x, post => post v x
  | exec q next, x, post =>
    P.allows x q ∧ ∀ reply, (next reply).Follows P (P.after x q reply) post
  | clock next, x, post => ∀ now, (next now).Follows P x post
  | note _ next, x, post => next.Follows P x post
  | measure _ next, x, post => next.Follows P x post
  | halt _, _, _ => True

lemma Follows.mono {p : Script α} {post post' : α → σ → Prop} (h : p.Follows P x post)
    (hpost : ∀ v y, post v y → post' v y) : p.Follows P x post' := by
  induction p generalizing x with
  | done v => exact hpost v x h
  | exec q next ih => exact ⟨h.1, fun reply => ih reply (h.2 reply)⟩
  | clock next ih => exact fun now => ih now (h now)
  | note n next ih => exact ih h
  | measure m next ih => exact ih h
  | halt h => trivial

variable {post : β → σ → Prop}

@[simp] lemma follows_pure (v : β) : (pure v : Script β).Follows P x post ↔ post v x := Iff.rfl

lemma follows_bind (p : Script α) (f : α → Script β) :
    (p >>= f).Follows P x post ↔ p.Follows P x fun v y => (f v).Follows P y post := by
  show (p.bind f).Follows P x post ↔ _
  induction p generalizing x with
  | done v => exact Iff.rfl
  | exec q next ih => exact and_congr_right fun _ => forall_congr' fun reply => ih reply
  | clock next ih => exact forall_congr' fun now => ih now
  | note n next ih => exact ih
  | measure m next ih => exact ih
  | halt h => exact Iff.rfl

end Script

/-! ### Attempts -/

namespace Attempt

variable {α β σ : Type} {P : Protocol σ} {x : σ}

/-- From the state `x` of the protocol on, the attempt sends allowed statements only; `ok` holds if
it succeeds and `error` if it fails. -/
def Follows (P : Protocol σ) (a : Attempt α) (x : σ) (ok : α → σ → Prop)
    (error : StoreError → σ → Prop) : Prop :=
  a.run.Follows P x fun outcome y =>
    Except.casesOn outcome (fun fault => error fault y) fun v => ok v y

/-- A condition on the outcome, by whether the attempt succeeds or fails. -/
lemma follows_iff {a : Attempt α} (post : Except StoreError α → σ → Prop) :
    a.Follows P x (fun v => post (.ok v)) (fun fault => post (.error fault)) ↔
      a.run.Follows P x post := by
  have hpost : (fun (outcome : Except StoreError α) y => (Except.casesOn outcome
      (fun fault => post (.error fault) y) fun v => post (.ok v) y : Prop)) = post := by
    funext outcome y
    cases outcome <;> rfl
  rw [Follows, hpost]

lemma Follows.mono {a : Attempt α} {ok ok' : α → σ → Prop} {error error' : StoreError → σ → Prop}
    (h : a.Follows P x ok error) (hok : ∀ v y, ok v y → ok' v y)
    (herror : ∀ fault y, error fault y → error' fault y) : a.Follows P x ok' error' :=
  Script.Follows.mono h fun outcome y h => by
    cases outcome with
    | ok v => exact hok v y h
    | error fault => exact herror fault y h

variable {ok : β → σ → Prop} {error : StoreError → σ → Prop}

@[simp] lemma follows_pure (v : β) : Follows P (pure v) x ok error ↔ ok v x := Iff.rfl

lemma follows_bind (a : Attempt α) (f : α → Attempt β) :
    Follows P (a >>= f) x ok error ↔
      a.Follows P x (fun v y => (f v).Follows P y ok error) error := by
  rw [Follows, ExceptT.run_bind, Script.follows_bind]
  refine ⟨fun h => h.mono fun outcome y h => ?_,
    fun h => Script.Follows.mono h fun outcome y h => ?_⟩ <;> cases outcome <;> exact h

@[simp] lemma follows_lift (p : Script β) :
    Follows P (liftM p) x ok error ↔ p.Follows P x ok := by
  show (p >>= fun v => pure (Except.ok v)).Follows P x _ ↔ _
  rw [Script.follows_bind]
  rfl

lemma follows_send {q : Statement} {ok : q.Reply → σ → Prop} :
    (send q).Follows P x ok error ↔ P.allows x q ∧
      (∀ reply, ok reply (P.after x q (.ok reply))) ∧
      ∀ fault, error fault (P.after x q (.error fault)) := by
  refine and_congr_right fun _ => ⟨fun h => ⟨fun v => h (.ok v), fun fault => h (.error fault)⟩,
    fun h reply => ?_⟩
  cases reply with
  | ok v => exact h.1 v
  | error fault => exact h.2 fault

@[simp] lemma follows_timed (name : String) (a : Attempt β) :
    (timed name a).Follows P x ok error ↔ a.Follows P x ok error := by
  show (a.run >>= fun outcome => .measure (.queryTimed name) (.done outcome)).Follows P x _ ↔ _
  rw [Script.follows_bind]
  rfl

/-- After an error the transaction is abandoned, whatever the answer to that. -/
lemma follows_orAbandon (a : Attempt β) (habandon : ∀ y, P.allows y (.control .abandon)) :
    (orAbandon a).Follows P x ok error ↔ a.Follows P x ok fun fault y =>
      ∀ reply, error fault (P.after y (.control .abandon) reply) := by
  show (a.run >>= _).Follows P x _ ↔ _
  rw [Script.follows_bind]
  refine ⟨fun h => h.mono fun outcome y h => ?_,
    fun h => Script.Follows.mono h fun outcome y h => ?_⟩
  · cases outcome with
    | ok v => exact h
    | error fault => exact h.2
  · cases outcome with
    | ok v => exact h
    | error fault => exact ⟨habandon y, h⟩

/-- An attempt in a transaction that is committed after it. Every control statement is allowed, and
the settings of a transaction do not matter to the protocol. -/
lemma follows_committed {a : Attempt β} {lockTimeout : Duration}
    (hallows : ∀ y c, P.allows y (.control c))
    (hset : ∀ c y, c = .setIsolation ∨ (∃ millis, c = .setLockTimeout millis) →
      P.after y (.control c) (.ok ()) = y)
    (hstruck : ∀ c fault reply, c = .setIsolation ∨ (∃ millis, c = .setLockTimeout millis) →
      error fault (P.after (P.after (P.after x (.control .begin) (.ok ())) (.control c)
        (.error fault)) (.control .abandon) reply))
    (hbegin : ∀ fault, error fault (P.after x (.control .begin) (.error fault)))
    (hbody : a.Follows P (P.after x (.control .begin) (.ok ()))
      (fun v y => ok v (P.after y (.control .commit) (.ok ())) ∧ ∀ fault reply, error fault
        (P.after (P.after y (.control .commit) (.error fault)) (.control .abandon) reply))
      fun fault y => ∀ reply, error fault (P.after y (.control .abandon) reply)) :
    (committed lockTimeout a).Follows P x ok error := by
  refine (follows_bind _ _).mpr (follows_send.mpr ⟨hallows _ _, fun _ => ?_, hbegin⟩)
  refine (follows_orAbandon _ fun y => hallows y _).mpr ?_
  refine (follows_bind _ _).mpr (follows_send.mpr ⟨hallows _ _, fun _ => ?_,
    fun fault reply => hstruck _ fault reply (.inl rfl)⟩)
  rw [hset _ _ (.inl rfl)]
  refine (follows_bind _ _).mpr (follows_send.mpr ⟨hallows _ _, fun _ => ?_,
    fun fault reply => hstruck _ fault reply (.inr ⟨_, rfl⟩)⟩)
  rw [hset _ _ (.inr ⟨_, rfl⟩)]
  refine (follows_bind _ _).mpr (hbody.mono (fun v y h => ?_) fun _ _ h => h)
  exact (follows_bind _ _).mpr (follows_send.mpr ⟨hallows _ _, fun _ => h.1, h.2⟩)

end Attempt

/-! ### Statements of one kind -/

namespace Script

variable {α β σ : Type} {P : Protocol σ} {allowed : Statement → Prop}

/-- The script sends allowed statements only. -/
def Only (allowed : Statement → Prop) (p : Script α) : Prop :=
  p.Follows (.only allowed) () fun _ _ => True

@[simp] lemma only_pure (v : α) : (pure v : Script α).Only allowed := trivial

@[simp] lemma only_log (n : Notice) : (log n).Only allowed := trivial

@[simp] lemma only_record (m : Measurement) : (record m).Only allowed := trivial

lemma only_now : now.Only allowed := fun _ => trivial

lemma Only.bind {p : Script α} {f : α → Script β} (hp : p.Only allowed)
    (hf : ∀ v, (f v).Only allowed) : (p >>= f).Only allowed :=
  (follows_bind p f).mpr (Follows.mono hp fun v _ _ => hf v)

/-- Such a script follows every protocol that allows its statements at any time. -/
lemma Only.follows {p : Script α} (hp : p.Only allowed)
    (hP : ∀ x q, allowed q → P.allows x q) (x : σ) : p.Follows P x fun _ _ => True := by
  induction p generalizing x with
  | done v => trivial
  | exec q next ih => exact ⟨hP x q hp.1, fun reply => ih reply (hp.2 reply) _⟩
  | clock next ih => exact fun now => ih now (hp now) x
  | note n next ih => exact ih hp x
  | measure m next ih => exact ih hp x
  | halt h => trivial

lemma Only.mono {allowed' : Statement → Prop} {p : Script α} (hp : p.Only allowed)
    (h : ∀ q, allowed q → allowed' q) : p.Only allowed' :=
  hp.follows (fun _ => h) ()

end Script

namespace Attempt

variable {α β : Type} {allowed : Statement → Prop}

/-- The attempt sends allowed statements only. -/
def Only (allowed : Statement → Prop) (a : Attempt α) : Prop := a.run.Only allowed

lemma only_iff {a : Attempt α} :
    a.Only allowed ↔ a.Follows (.only allowed) () (fun _ _ => True) fun _ _ => True :=
  (follows_iff fun _ _ => True).symm

@[simp] lemma only_pure (v : α) : (pure v : Attempt α).Only allowed := trivial

lemma only_lift {p : Script α} (hp : p.Only allowed) : Only allowed (liftM p) :=
  only_iff.mpr ((follows_lift p).mpr hp)

lemma only_query {q : Query} (hq : allowed (.query q)) : (query q).Only allowed :=
  ⟨hq, fun _ => trivial⟩

lemma Only.bind {a : Attempt α} {f : α → Attempt β} (ha : a.Only allowed)
    (hf : ∀ v, (f v).Only allowed) : Only allowed (a >>= f) :=
  only_iff.mpr ((follows_bind a f).mpr ((only_iff.mp ha).mono (fun v _ _ => only_iff.mp (hf v))
    fun _ _ h => h))

lemma Only.timed {a : Attempt α} (ha : a.Only allowed) (name : String) :
    (timed name a).Only allowed :=
  only_iff.mpr ((follows_timed name a).mpr (only_iff.mp ha))

lemma Only.inTransaction {a : Attempt α} (ha : a.Only allowed)
    (hcontrol : ∀ c, allowed (.control c)) (lockTimeout : Duration) :
    (inTransaction lockTimeout a).Only allowed := by
  have hsend (c : Control) : (control c).Only allowed := ⟨hcontrol c, fun _ => trivial⟩
  have hbody : Only allowed (do
      control .setIsolation
      control (.setLockTimeout (lockTimeoutMillis lockTimeout))
      a) := (hsend _).bind fun _ => (hsend _).bind fun _ => ha
  refine (hsend .begin).bind fun _ => only_iff.mpr ?_
  refine (follows_orAbandon _ fun _ => hcontrol _).mpr ((only_iff.mp hbody).mono ?_ ?_)
  · exact fun _ _ h => h
  · exact fun _ _ _ _ => trivial

lemma Only.committed {a : Attempt α} (ha : a.Only allowed) (hcontrol : ∀ c, allowed (.control c))
    (lockTimeout : Duration) : (committed lockTimeout a).Only allowed := by
  refine Only.inTransaction (ha.bind fun v => ?_) hcontrol lockTimeout
  have hcommit : (control .commit).Only allowed := ⟨hcontrol _, fun _ => trivial⟩
  exact hcommit.bind fun _ => only_pure v

end Attempt

end JobDispatch
