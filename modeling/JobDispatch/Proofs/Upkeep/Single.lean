import JobDispatch.Proofs.Store.Sharing
import JobDispatch.Proofs.Upkeep.Locking
import JobDispatch.Proofs.Upkeep.Occurrence

/-!
At most one pending entry for a periodic job.

Cycles and workers share a queue, with their statements in any order, and transactions may be lost
at any statement. A cycle looks for a pending entry and adds one in two statements. In between
others may add or take entries of the job, unless the lock of its name keeps them from adding.

* `Sharing.Harmless`: what an open transaction has added can be committed.
* `Sharing.Knows`: what a client can rely on, by its phase, whatever the others do.
* `Sharing.Sound`: the invariant of all runs.
* `Sharing.single_entry`: each guarded job has at most one committed entry in every reachable state.
-/

namespace JobDispatch

lemma Query.countP_changes {q : Query} {reply : q.Reply} {seen now : List Entry}
    (h : q.Admits seen now reply) (jobName : String) :
    (q.changes reply).countP (Change.adds jobName) = 0 ∨
      (∃ t v, q = .insertEntry jobName t v) ∧
        (q.changes reply).countP (Change.adds jobName) = 1 := by
  cases q with
  | insertEntry name t v =>
      by_cases hname : name = jobName
      · subst hname
        have hreply : reply.jobName = name := h
        exact .inr ⟨⟨t, v, rfl⟩, by simp [changes, Change.adds, hreply]⟩
      · have hreply : reply.jobName ≠ jobName := fun hjob => hname (h.symm.trans hjob)
        exact .inl (by simp [changes, Change.adds, hreply])
  | claimNext now =>
      cases reply with
      | none => exact .inl rfl
      | some e => exact .inl rfl
  | _ => exact .inl rfl

namespace Sharing

variable {ι κ : Type} {key : String → κ} {guarded : String → Prop}
  {queue queue' : List Entry}

/-! ### What clients rely on -/

/-- A transaction has added nothing for a guarded job, or one entry, of a job that has no committed
one, under the lock of its name. -/
def Harmless (key : String → κ) (guarded : String → Prop) (queue : List Entry)
    (t : Transaction κ) : Prop :=
  ∀ jobName, guarded jobName → t.changes.countP (Change.adds jobName) = 0 ∨
    t.changes.countP (Change.adds jobName) ≤ 1 ∧ key jobName ∈ t.keys ∧ countOf jobName queue = 0

/-- What a client relies on in each phase. Under the lock of a guarded name, entries of that job
that were not there when a statement began do not turn up before it ends. -/
def Knows (key : String → κ) (guarded : String → Prop) (queue : List Entry) (c : Client κ) :
    Phase → Prop
  | .idle => True
  | .opened => ∃ t, c.transaction = some t ∧ t.changes = []
  | .locked jobName => ∃ t, c.transaction = some t ∧ t.changes = [] ∧ key jobName ∈ t.keys ∧
      (guarded jobName → ∀ seen, c.seen = some seen → ∀ e ∈ queue, e.jobName = jobName →
        ∃ e' ∈ seen, e'.id = e.id ∧ e'.jobName = jobName)
  | .vacant jobName => ∃ t, c.transaction = some t ∧ t.changes = [] ∧ key jobName ∈ t.keys ∧
      (guarded jobName → countOf jobName queue = 0)

/-- The transaction of a client is harmless, and its script follows the protocol from a phase in
which it can rely on what is known. -/
structure Orderly (key : String → κ) (guarded : String → Prop) (queue : List Entry)
    (c : Client κ) : Prop where
  harmless : ∀ t, c.transaction = some t → Harmless key guarded queue t
  phase : ∃ x, c.rest.Follows (Phase.protocol guarded) x (fun _ _ => True) ∧
    Knows key guarded queue c x

/-- A guarded job whose lock is not held gets no new entries. -/
def Extends (key : String → κ) (guarded : String → Prop) (held : κ → Prop)
    (queue queue' : List Entry) : Prop :=
  ∀ jobName, guarded jobName → ¬ held (key jobName) →
    countOf jobName queue' ≤ countOf jobName queue ∧
    ∀ e ∈ queue', e.jobName = jobName → ∃ e' ∈ queue, e'.id = e.id ∧ e'.jobName = jobName

lemma Extends.refl (held : κ → Prop) : Extends key guarded held queue queue :=
  fun _ _ _ => ⟨Nat.le_refl _, fun e he hjob => ⟨e, he, rfl, hjob⟩⟩

/-- Changes that add nothing for such jobs. -/
lemma extends_onAll {held : κ → Prop} {changes : List Change}
    (h : ∀ jobName, guarded jobName → ¬ held (key jobName) →
      changes.countP (Change.adds jobName) = 0) :
    Extends key guarded held queue (Change.onAll changes queue) := by
  intro jobName hguarded hfree
  have hnone := h jobName hguarded hfree
  refine ⟨?_, fun e he hjob => ?_⟩
  · have hcount := Change.countOf_onAll changes queue jobName
    omega
  · obtain ⟨e', he', hid, hjob'⟩ | hadds := Change.mem_onAll he
    · exact ⟨e', he', hid, hjob'.trans hjob⟩
    · rw [hjob] at hadds
      omega

/-- What a client relies on is not touched by those who do not hold its locks. -/
lemma Orderly.of_extends {c : Client κ} {held : κ → Prop} (h : Orderly key guarded queue c)
    (hq : Extends key guarded held queue queue')
    (hheld : ∀ t, c.transaction = some t → ∀ k ∈ t.keys, ¬ held k) :
    Orderly key guarded queue' c := by
  refine ⟨fun t ht jobName hguarded => ?_, ?_⟩
  · rcases h.harmless t ht jobName hguarded with hnone | ⟨hone, hkey, hcount⟩
    · exact .inl hnone
    · have hle := (hq jobName hguarded (hheld t ht _ hkey)).1
      exact .inr ⟨hone, hkey, by omega⟩
  · obtain ⟨x, hfollows, hknows⟩ := h.phase
    refine ⟨x, hfollows, ?_⟩
    cases x with
    | idle => trivial
    | opened => exact hknows
    | locked jobName =>
        obtain ⟨t, ht, hchanges, hkey, hseen⟩ := hknows
        refine ⟨t, ht, hchanges, hkey, fun hguarded seen hs e he hjob => ?_⟩
        obtain ⟨e', he', hid, hjob'⟩ := (hq jobName hguarded (hheld t ht _ hkey)).2 e he hjob
        obtain ⟨e'', he'', hid', hjob''⟩ := hseen hguarded seen hs e' he' hjob'
        exact ⟨e'', he'', hid'.trans hid, hjob''⟩
    | vacant jobName =>
        obtain ⟨t, ht, hchanges, hkey, hcount⟩ := hknows
        refine ⟨t, ht, hchanges, hkey, fun hguarded => ?_⟩
        have hle := (hq jobName hguarded (hheld t ht _ hkey)).1
        have hzero := hcount hguarded
        omega

/-- What is known outlasts the statement under way. -/
lemma Knows.settled {rest rest' : Script Unit} {t : Option (Transaction κ)}
    {seen : Option (List Entry)} {x : Phase} (h : Knows key guarded queue ⟨rest, t, seen⟩ x) :
    Knows key guarded queue ⟨rest', t, none⟩ x := by
  cases x with
  | locked jobName =>
      obtain ⟨t, ht, hchanges, hkey, -⟩ := h
      exact ⟨t, ht, hchanges, hkey, fun _ _ hs => nomatch hs⟩
  | _ => exact h

/-! ### The invariant -/

/-- Each guarded job has at most one committed entry, no two transactions hold the same lock, and
all clients are orderly. -/
structure Sound (key : String → κ) (guarded : String → Prop) (w : Sharing ι κ) : Prop where
  single : ∀ jobName, guarded jobName → countOf jobName w.queue ≤ 1
  exclusive : ∀ i j t t', i ≠ j → (w.clients i).transaction = some t →
    (w.clients j).transaction = some t' → ∀ k ∈ t.keys, k ∉ t'.keys
  orderly : ∀ i, Orderly key guarded w.queue (w.clients i)

/-- The client holds the lock. -/
def Held (c : Client κ) (k : κ) : Prop := ∃ t, c.transaction = some t ∧ k ∈ t.keys

variable [DecidableEq ι] {w : Sharing ι κ} {i : ι}

/-- The others see of a step of a client only what it commits and which locks it takes. -/
lemma Sound.put (h : Sound key guarded w) (c : Client κ)
    (hsingle : ∀ jobName, guarded jobName → countOf jobName queue ≤ 1)
    (hextends : Extends key guarded (Held (w.clients i)) w.queue queue)
    (hkeys : ∀ t, c.transaction = some t → ∀ k ∈ t.keys, Held (w.clients i) k ∨ w.Free i k)
    (horderly : Orderly key guarded queue c) : Sound key guarded ({ w with queue }.put i c) := by
  have hother {j : ι} (hj : j ≠ i) : ({ w with queue }.put i c).clients j = w.clients j :=
    Function.update_of_ne hj _ _
  have hself : ({ w with queue }.put i c).clients i = c := Function.update_self _ _ _
  have hapart {j : ι} (hj : j ≠ i) {t t' : Transaction κ} (ht : c.transaction = some t)
      (ht' : (w.clients j).transaction = some t') {k : κ} (hk : k ∈ t.keys) : k ∉ t'.keys := by
    rcases hkeys t ht k hk with ⟨t₀, ht₀, hk₀⟩ | hfree
    · exact h.exclusive i j t₀ t' hj.symm ht₀ ht' k hk₀
    · exact hfree j hj t' ht'
  refine ⟨hsingle, fun a b t t' hab ht ht' k hk hk' => ?_, fun j => ?_⟩
  · by_cases ha : a = i
    · subst ha
      rw [hself] at ht
      rw [hother hab.symm] at ht'
      exact hapart hab.symm ht ht' hk hk'
    · rw [hother ha] at ht
      by_cases hb : b = i
      · subst hb
        rw [hself] at ht'
        exact hapart ha ht' ht hk' hk
      · rw [hother hb] at ht'
        exact h.exclusive a b t t' hab ht ht' k hk hk'
  · by_cases hj : j = i
    · subst hj
      rw [hself]
      exact horderly
    · rw [hother hj]
      refine (h.orderly j).of_extends hextends fun t ht k hk hheld => ?_
      obtain ⟨t₀, ht₀, hk₀⟩ := hheld
      exact h.exclusive j i t t₀ hj ht ht₀ k hk hk₀

/-- A step of a client that commits nothing and takes no lock. -/
lemma Sound.put_same (h : Sound key guarded w) (c : Client κ)
    (ht : c.transaction = (w.clients i).transaction ∨ c.transaction = none ∨
      c.transaction = some .new)
    (horderly : Orderly key guarded w.queue c) : Sound key guarded (w.put i c) := by
  refine h.put c h.single (.refl _) (fun t hc k hk => ?_) horderly
  rcases ht with ht | ht | ht
  · exact .inl ⟨t, ht ▸ hc, hk⟩
  · rw [ht] at hc
    cases hc
  · rw [ht] at hc
    rw [← Option.some.inj hc] at hk
    cases hk

/-- A client publishes changes, and adds an entry of a guarded job only under its lock and when
there is none. -/
lemma Sound.publish (h : Sound key guarded w) {c : Client κ} {changes : List Change}
    (hchanges : ∀ jobName, guarded jobName →
      changes.countP (Change.adds jobName) = 0 ∨
        changes.countP (Change.adds jobName) ≤ 1 ∧ Held (w.clients i) (key jobName) ∧
          countOf jobName w.queue = 0)
    (hnone : c.transaction = none)
    (horderly : Orderly key guarded (Change.onAll changes w.queue) c) :
    Sound key guarded ({ w with queue := Change.onAll changes w.queue }.put i c) := by
  refine h.put c (fun jobName hguarded => ?_) (extends_onAll fun jobName hguarded hfree => ?_)
    (fun t ht => by rw [hnone] at ht; cases ht) horderly
  · have hcount := Change.countOf_onAll changes w.queue jobName
    have hsingle := h.single jobName hguarded
    rcases hchanges jobName hguarded with hzero | ⟨hone, -, hqueue⟩ <;> omega
  · rcases hchanges jobName hguarded with hzero | ⟨-, hheld, -⟩
    · exact hzero
    · exact absurd hheld hfree

/-! ### Answers -/

section Answers

variable {t : Transaction κ} {q : Query} {reply : q.Reply} {seen : List Entry} {x : Phase}
  {next : Except StoreError (Statement.query q).Reply → Script Unit}

/-- A transaction stays harmless if it adds an entry of a guarded job only when there is none. -/
lemma Harmless.after (h : Harmless key guarded queue t)
    (hreply : q.Admits (t.sees seen) (t.sees queue) reply) (hallows : x.Allows guarded (.query q))
    (hknows : Knows key guarded queue ⟨.exec (.query q) next, some t, some seen⟩ x) :
    Harmless key guarded queue (t.after key q reply) := by
  intro jobName hguarded
  have hkeys : t.keys ⊆ (t.after key q reply).keys := List.subset_append_right _ _
  have hcount : (t.after key q reply).changes.countP (Change.adds jobName) =
      t.changes.countP (Change.adds jobName) + (q.changes reply).countP (Change.adds jobName) :=
    List.countP_append
  rcases Query.countP_changes hreply jobName with hnone | ⟨⟨at', v, rfl⟩, hone⟩
  · rcases h jobName hguarded with hzero | ⟨hle, hkey, hqueue⟩
    · exact .inl (by omega)
    · exact .inr ⟨by omega, hkeys hkey, hqueue⟩
  · obtain rfl : x = .vacant jobName := hallows hguarded
    obtain ⟨t', ht, hchanges, hkey, hqueue⟩ := hknows
    obtain rfl := Option.some.inj ht
    rw [hchanges] at hcount
    exact .inr ⟨by rw [hcount, hone]; exact Nat.le_refl _, hkeys hkey, hqueue hguarded⟩

/-- What a client knows after a query has been answered. -/
lemma Knows.after (hreply : q.Admits (t.sees seen) (t.sees queue) reply)
    (h : Knows key guarded queue ⟨.exec (.query q) next, some t, some seen⟩ x)
    (rest : Script Unit) :
    Knows key guarded queue ⟨rest, some (t.after key q reply), none⟩
      (x.afterQuery q reply) := by
  cases x with
  | idle => trivial
  | vacant jobName => trivial
  | opened =>
      cases q with
      | lockJob jobName =>
          obtain ⟨t', ht, hchanges⟩ := h
          obtain rfl := Option.some.inj ht
          refine ⟨_, rfl, ?_, List.mem_cons_self, fun _ _ hs => nomatch hs⟩
          show t.changes ++ [] = []
          rw [hchanges]
          rfl
      | _ => trivial
  | locked jobName =>
      cases q with
      | findPending jobName' =>
          cases reply with
          | some e => trivial
          | none =>
              obtain ⟨t', ht, hchanges, hkey, hseen⟩ := h
              obtain rfl := Option.some.inj ht
              show Knows key guarded queue _ (if jobName' = jobName then .vacant jobName else .idle)
              by_cases hname : jobName' = jobName
              · subst hname
                rw [if_pos rfl]
                have hnone : (t.after key (.findPending jobName') none).changes = [] := by
                  show t.changes ++ [] = []
                  rw [hchanges]
                  rfl
                refine ⟨_, rfl, hnone, hkey, fun hguarded => ?_⟩
                refine List.countP_eq_zero.mpr fun e he hjob => ?_
                obtain ⟨e', he', hid, hjob'⟩ := hseen hguarded seen rfl e he (eq_of_beq hjob)
                have hgone : ∀ e' ∈ t.sees seen, e'.jobName = jobName' →
                    ∀ e ∈ t.sees queue, e.id ≠ e'.id := hreply
                rw [Transaction.sees, hchanges, Transaction.sees, hchanges] at hgone
                exact hgone e' he' hjob' e he hid.symm
              · rw [if_neg hname]
                trivial
      | _ => trivial

end Answers

/-- After an answer that ends a transaction or fails nothing is relied on. -/
lemma orderly_idle {rest : Script Unit} {t : Option (Transaction κ)}
    (hrest : rest.Follows (Phase.protocol guarded) .idle fun _ _ => True)
    (ht : ∀ t', t = some t' → Harmless key guarded queue t') :
    Orderly key guarded queue ⟨rest, t, none⟩ := ⟨ht, .idle, hrest, trivial⟩

/-- An answer keeps the invariant. -/
lemma Sound.answer (h : Sound key guarded w) {q : Statement}
    {next : Except StoreError q.Reply → Script Unit} {t t' : Option (Transaction κ)}
    {seen queue : List Entry} (hi : w.clients i = ⟨.exec q next, t, some seen⟩)
    {reply : Except StoreError q.Reply}
    (hreply : Answer key (w.Free i) seen w.queue t q reply queue t') :
    Sound key guarded ({ w with queue }.put i ⟨next reply, t', none⟩) := by
  have horderly := h.orderly i
  rw [hi] at horderly
  obtain ⟨x, ⟨hallows, hrest⟩, hknows⟩ := horderly.phase
  have hnext := hrest reply
  cases hreply with
  | begun =>
      refine h.put_same _ (.inr (.inr rfl)) ⟨fun t' ht' jobName _ => .inl ?_, _, hnext, _, rfl, rfl⟩
      rw [← Option.some.inj ht']
      rfl
  | set t c hc =>
      refine h.put_same _ (.inl (by rw [hi])) ⟨horderly.harmless, x, ?_, hknows.settled⟩
      obtain rfl | ⟨millis, rfl⟩ := hc <;> exact hnext
  | committed t reply =>
      exact h.publish (fun jobName hguarded => (horderly.harmless t rfl jobName hguarded).imp_right
        fun ⟨hone, hkey, hqueue⟩ => ⟨hone, ⟨t, by rw [hi], hkey⟩, hqueue⟩) rfl
        (orderly_idle (by cases reply <;> exact hnext) fun _ ht => nomatch ht)
  | ended t c hc reply =>
      refine h.put_same _ (.inr (.inl rfl)) (orderly_idle ?_ fun _ ht => nomatch ht)
      obtain rfl | rfl := hc <;> (cases reply <;> exact hnext)
  | answered t q reply hlock hadmits =>
      refine h.put _ h.single (.refl _) (fun t' ht' k hk => ?_)
        ⟨fun t' ht' => ?_, _, hnext, hknows.after hadmits _⟩
      · obtain rfl := Option.some.inj ht'
        rcases List.mem_append.mp hk with hk | hk
        · exact .inr (hlock k hk)
        · exact .inl ⟨t, by rw [hi], hk⟩
      · rw [← Option.some.inj ht']
        exact (horderly.harmless t rfl).after hadmits hallows hknows
  | atOnce q reply hadmits =>
      have hnone (jobName : String) (hguarded : guarded jobName) :
          (q.changes reply).countP (Change.adds jobName) = 0 := by
        rcases Query.countP_changes hadmits jobName with hnone | ⟨⟨at', v, rfl⟩, -⟩
        · exact hnone
        · obtain rfl : x = .vacant jobName := hallows hguarded
          obtain ⟨t, ht, -⟩ := hknows
          cases ht
      refine h.publish (fun jobName hguarded => .inl (hnone jobName hguarded)) rfl
        ⟨fun _ ht => (nomatch ht), _, hnext, ?_⟩
      -- outside a transaction nothing is known
      cases x with
      | idle => trivial
      | _ => obtain ⟨t, ht, -⟩ := hknows; cases ht
  | failed t t' ht' q fault =>
      have hidle : x.after q (.error fault) = .idle := by
        cases q with
        | control c => cases c <;> rfl
        | query q => rfl
      refine h.put_same _ ?_ (orderly_idle (hidle ▸ hnext) fun t₀ ht₀ => ?_)
      · rw [hi]
        exact ht'.imp_right .inl
      · rcases ht' with rfl | rfl
        · exact horderly.harmless t₀ ht₀
        · cases ht₀

/-! ### Runs -/

/-- A statement that begins sees all that is committed. -/
lemma Orderly.asking {p : Script Unit} {t : Option (Transaction κ)}
    (h : Orderly key guarded queue ⟨p, t, none⟩) :
    Orderly key guarded queue ⟨p, t, some queue⟩ := by
  obtain ⟨x, hfollows, hknows⟩ := h.phase
  refine ⟨h.harmless, x, hfollows, ?_⟩
  cases x with
  | locked jobName =>
      obtain ⟨t, ht, hchanges, hkey, -⟩ := hknows
      refine ⟨t, ht, hchanges, hkey, fun _ seen hs e he hjob => ?_⟩
      obtain rfl := Option.some.inj hs
      exact ⟨e, he, rfl, hjob⟩
  | _ => exact hknows

/-- Each step keeps the invariant. -/
lemma Sound.step {w' : Sharing ι κ} (h : Sound key guarded w) (hstep : Step key w w') :
    Sound key guarded w' := by
  cases hstep with
  | ask i q next t hi =>
      refine h.put_same _ (.inl (by rw [hi])) (Orderly.asking ?_)
      exact hi ▸ h.orderly i
  | answer i q next t seen hi reply queue t' hreply => exact h.answer hi hreply
  | read i next t hi now =>
      have horderly := h.orderly i
      rw [hi] at horderly
      obtain ⟨x, hfollows, hknows⟩ := horderly.phase
      exact h.put_same _ (.inl (by rw [hi])) ⟨horderly.harmless, x, hfollows now, hknows.settled⟩
  | report i next t hi =>
      have horderly := h.orderly i
      have ht : (w.clients i).transaction = t := by
        rcases hi with ⟨n, hi⟩ | ⟨m, hi⟩ <;> rw [hi]
      obtain ⟨x, hfollows, hknows⟩ := horderly.phase
      refine h.put_same _ (.inl ht.symm) ⟨fun t' ht' => horderly.harmless t' (ht.trans ht'), x, ?_⟩
      rcases hi with ⟨n, hi⟩ | ⟨m, hi⟩ <;>
        (rw [hi] at hfollows hknows; exact ⟨hfollows, hknows.settled⟩)
  | disappear i =>
      exact h.put_same _ (.inr (.inl rfl)) (orderly_idle trivial fun _ ht => nomatch ht)

/-- Each run keeps the invariant. -/
lemma Sound.run {w' : Sharing ι κ} (h : Sound key guarded w) (hrun : Run key w w') :
    Sound key guarded w' := by
  induction hrun with
  | refl => exact h
  | tail _ hstep ih => exact ih.step hstep

/-! ### Cycles and workers -/

/-- What clients may run: a cycle at any instant, a cycle that asks first whether it may run, a
round of a worker, or anything else. Only cycles add entries of guarded jobs. -/
inductive Participant (guarded : String → Prop) : Script Unit → Prop
  | cycle {Body : Type} (u : Upkeep) (g : Registry Body) (now : Instant) :
      Participant guarded (do let _ ← u.runOnce g now)
  | tick {Body : Type} (u : Upkeep) (g : Registry Body) (e : Elector) :
      Participant guarded (do let _ ← u.tick g e)
  | worker (g : Registry Body) (lockTimeout : Duration)
      (hbodies : ∀ r ∈ g.jobs, ∀ c, (r.body c).Only (Statement.CreatesNone guarded)) :
      Participant guarded (do let _ ← Worker.runOnce g lockTimeout)
  | other (p : Script Unit) (hp : p.Only (Statement.CreatesNone guarded)) : Participant guarded p

lemma Participant.follows {p : Script Unit} (h : Participant guarded p) :
    p.Follows (Phase.protocol guarded) .idle fun _ _ => True := by
  cases h with
  | cycle u g now =>
      exact (Script.follows_bind _ _).mpr ((u.runOnce_follows g now).mono fun _ _ _ => trivial)
  | tick u g e =>
      exact (Script.follows_bind _ _).mpr ((u.tick_follows g e).mono fun _ _ _ => trivial)
  | worker g lockTimeout hbodies =>
      have honly : (Worker.runOnce g lockTimeout).Only (Statement.CreatesNone guarded) :=
        Worker.runOnce_only (fun _ => trivial) (fun _ => trivial) (fun _ => trivial) hbodies
      have hround := honly.bind fun _ => Script.only_pure ()
      exact hround.follows (fun x q hq => hq.allowed x) .idle
  | other p hp => exact hp.follows (fun x q hq => hq.allowed x) .idle

/-- Nobody has done anything yet. -/
def opening (queue : List Entry) (programs : ι → Script Unit) : Sharing ι κ :=
  ⟨queue, fun i => .idle (programs i)⟩

/-- **One entry for each job**.  Cycles, workers and others share a queue, their statements in any
order, and may disappear at any time. If at first each guarded job has at most one entry, and only
cycles add entries of guarded jobs, then each guarded job has at most one committed entry ever
after. -/
theorem single_entry (key : String → κ) (guarded : String → Prop) (queue : List Entry)
    (programs : ι → Script Unit) (w : Sharing ι κ)
    (hprograms : ∀ i, Participant guarded (programs i))
    (hqueue : ∀ jobName, guarded jobName → countOf jobName queue ≤ 1)
    (hrun : Run key (opening queue programs) w) :
    ∀ jobName, guarded jobName → countOf jobName w.queue ≤ 1 := by
  have hsound : Sound key guarded (opening queue programs : Sharing ι κ) := by
    refine ⟨hqueue, fun i j t t' _ ht => (nomatch ht), fun i => ?_⟩
    exact orderly_idle (hprograms i).follows fun _ ht => nomatch ht
  exact (hsound.run hrun).single

/-! ### Two cycles at once -/

/-- Two clients that share a queue, one of them looked at. -/
def pair (i : Bool) (queue : List Entry) (c other : Client κ) : Sharing Bool κ :=
  ⟨queue, fun j => if j = i then c else other⟩

lemma pair_flip (i : Bool) (queue : List Entry) (c other : Client κ) :
    pair i queue c other = pair (!i) queue other c := by
  have hclients : (fun j => if j = i then c else other) = fun j => if j = !i then other else c := by
    funext j
    cases i <;> cases j <;> rfl
  exact congrArg (Sharing.mk queue) hclients

lemma pair_put (i : Bool) (queue : List Entry) (c c' other : Client κ) :
    (pair i queue c other).put i c' = pair i queue c' other := by
  have hclients : Function.update (fun j => if j = i then c else other) i c' =
      fun j => if j = i then c' else other := by
    funext j
    by_cases hj : j = i
    · simp [hj]
    · simp [hj]
  exact congrArg (Sharing.mk queue) hclients

section Pair

variable {i : Bool} {queue queue' seen : List Entry} {other : Client κ} {q : Statement}
  {next : Except StoreError q.Reply → Script Unit} {t t' : Option (Transaction κ)}
  {reply : Except StoreError q.Reply}

lemma pair_asks : Run key (pair i queue ⟨.exec q next, t, none⟩ other)
    (pair i queue ⟨.exec q next, t, some queue⟩ other) := by
  have hstep : Step key (pair i queue ⟨.exec q next, t, none⟩ other) _ :=
    .ask _ i q next t (if_pos rfl)
  rw [pair_put] at hstep
  exact .single hstep

lemma pair_answers (hreply : Answer key (fun k => ∀ t, other.transaction = some t → k ∉ t.keys)
      seen queue t q reply queue' t') :
    Run key (pair i queue ⟨.exec q next, t, some seen⟩ other)
      (pair i queue' ⟨next reply, t', none⟩ other) := by
  have hfree : (pair i queue ⟨.exec q next, t, some seen⟩ other).Free i =
      fun k => ∀ t, other.transaction = some t → k ∉ t.keys := by
    funext k
    refine propext ⟨fun h t ht => h (!i) (by cases i <;> decide) t ?_, fun h j hj t ht => h t ?_⟩
    · rw [← ht, pair_flip]
      exact congrArg Client.transaction (if_pos rfl)
    · rw [← ht]
      exact (congrArg Client.transaction (if_neg hj)).symm
  have hstep : Step key (pair i queue ⟨.exec q next, t, some seen⟩ other) _ :=
    .answer _ i q next t seen (if_pos rfl) reply queue' t' (hfree ▸ hreply)
  have hput := pair_put i queue' ⟨.exec q next, t, some seen⟩ ⟨next reply, t', none⟩ other
  exact .single (hput ▸ hstep)

/-- A statement that is answered at once. -/
lemma pair_executes (hreply : Answer key (fun k => ∀ t, other.transaction = some t → k ∉ t.keys)
      queue queue t q reply queue' t') :
    Run key (pair i queue ⟨.exec q next, t, none⟩ other)
      (pair i queue' ⟨next reply, t', none⟩ other) := pair_asks.trans (pair_answers hreply)

lemma pair_measures {m : Measurement} {p : Script Unit} :
    Run key (pair i queue ⟨.measure m p, t, none⟩ other) (pair i queue ⟨p, t, none⟩ other) := by
  have hstep : Step key (pair i queue ⟨.measure m p, t, none⟩ other) _ :=
    .report _ i p t (.inr ⟨m, if_pos rfl⟩)
  rw [pair_put] at hstep
  exact .single hstep

/-- A transaction begins. -/
lemma pair_opens {α : Type} (a : Attempt α) (lockTimeout : Duration)
    (rest : Except StoreError α → Script Unit) :
    Run key (pair i queue ⟨(Attempt.committed lockTimeout a).run >>= rest, none, none⟩ other)
      (pair i queue ⟨(Attempt.orAbandon do
        let v ← a
        Attempt.control .commit
        pure v).run >>= rest, some .new, none⟩ other) := by
  refine Relation.ReflTransGen.trans (pair_executes (.begun queue)) ?_
  refine Relation.ReflTransGen.trans (pair_executes (.set queue _ .setIsolation (.inl rfl))) ?_
  exact pair_executes (.set queue _ (.setLockTimeout _) (.inr ⟨_, rfl⟩))

end Pair

/-- A cycle of one job is one upsert and reports. -/
lemma runOnce_single {Body : Type} {u : Upkeep} {r : Registration Body} {now next : Instant}
    (hnext : u.Computes r now next) :
    ∃ rest, (do let _ ← u.runOnce ⟨[r]⟩ now : Script Unit) =
      (u.reconcile r.name next now).run >>= rest := by
  have hperiodic := hnext.periodic
  obtain ⟨schedule, hschedule, hat⟩ := hnext
  have hupsert : u.upsert r now = (u.reconcile r.name next now).run := by
    rw [Upkeep.upsert, hschedule]
    dsimp only
    rw [hat]
  rw [Upkeep.runOnce, hperiodic, Upkeep.goThrough, hupsert, bind_assoc, bind_assoc]
  exact ⟨_, rfl⟩

/-- From the sharing `w` a queue of these entries can be reached. -/
def Reaches (key : String → κ) (w : Sharing ι κ) (queue : List Entry) : Prop :=
  ∃ w', Run key w w' ∧ w'.queue = queue

lemma Reaches.of_run {w' : Sharing ι κ} (hrun : Run key w w') (h : Reaches key w' queue) :
    Reaches key w queue := by
  obtain ⟨w'', hrun', hqueue⟩ := h
  exact ⟨w'', hrun.trans hrun', hqueue⟩

/-- Two cycles find no entry at first. The second waits for the lock of the name until the first has
added one, and keeps it. -/
lemma reaches_one {Body : Type} {u : Upkeep} {r : Registration Body} {now next : Instant}
    (hnext : u.Computes r now next) (e : Entry) (hjob : e.jobName = r.name)
    (hat : e.notBefore = some next) :
    Reaches id (opening [] fun _ => do let _ ← u.runOnce ⟨[r]⟩ now : Sharing Bool String) [e] := by
  obtain ⟨rest, hrest⟩ := runOnce_single hnext
  have hopening : (opening [] fun _ => do let _ ← u.runOnce ⟨[r]⟩ now : Sharing Bool String) =
      pair true [] (.idle ((u.reconcile r.name next now).run >>= rest))
        (.idle ((u.reconcile r.name next now).run >>= rest)) := by
    rw [hrest]
    exact congrArg (Sharing.mk []) (by funext j; cases j <;> rfl)
  rw [hopening]
  -- the first takes the lock and finds nothing
  refine .of_run (pair_opens _ _ rest) ?_
  refine .of_run (pair_executes (.answered _ _ (.lockJob r.name) () nofun trivial)) ?_
  refine .of_run (pair_executes (.answered _ _ (.findPending r.name) none nofun nofun)) ?_
  refine .of_run pair_measures ?_
  -- the second asks for the lock
  rw [pair_flip]
  refine .of_run (pair_opens _ _ rest) ?_
  refine .of_run pair_asks ?_
  -- the first adds its entry
  rw [pair_flip]
  refine .of_run (pair_executes (.answered _ _ (.insertEntry r.name (some next) _) e nofun hjob)) ?_
  refine .of_run (pair_executes (.committed _ _ (.ok ()))) ?_
  -- the second takes the lock, finds the entry and keeps it
  rw [pair_flip]
  refine .of_run (pair_answers (.answered _ _ (.lockJob r.name) () nofun trivial)) ?_
  refine .of_run (pair_executes (.answered _ _ (.findPending r.name) (some e) nofun trivial)) ?_
  refine .of_run pair_measures ?_
  have hplan : Plan.make (some e) next now u.margin = .keep := by
    simp [Plan.make, hat]
  let ends (plan : Plan) : Attempt Plan :=
    (Upkeep.carryOut r.name plan >>= fun _ => pure plan) >>= fun plan => do
      Attempt.control .commit
      pure plan
  show Reaches id (pair _ _ ⟨(ends (.make (some e) next now u.margin)).orAbandon.run >>= rest,
    _, _⟩ _) _
  rw [hplan]
  refine .of_run (pair_executes (.committed _ _ (.ok ()))) ?_
  exact ⟨_, .refl, rfl⟩

/-- Two cycles for a job of every minute. -/
theorem single_entry_minutely : ∃ schedule, ∃ w : Sharing Bool String,
    Schedule.parse "* * * * *" = .ok schedule ∧
    Run id (opening [] fun _ => do
      let _ ← Dispatch.inUtc.runOnce ⟨[⟨"minutely", some schedule, .none, ()⟩]⟩ ⟨1577836830, 0⟩) w ∧
    w.queue.length = 1 ∧ ∀ jobName, jobName = "minutely" → countOf jobName w.queue ≤ 1 := by
  obtain ⟨schedule, hparse, hnext⟩ := Dispatch.minutely_computes
  obtain ⟨w, hrun, hqueue⟩ := reaches_one hnext
    ⟨.drawn 1, "minutely", some ⟨1577836860, 0⟩, Json.emptyObject, none, none, 1⟩ rfl rfl
  refine ⟨schedule, w, hparse, hrun, congrArg List.length hqueue, ?_⟩
  exact single_entry id (· = "minutely") [] _ w (fun _ => .cycle _ _ _)
    (fun _ _ => Nat.zero_le _) hrun

end Sharing

end JobDispatch
