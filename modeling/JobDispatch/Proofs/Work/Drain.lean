import JobDispatch.Proofs.Work.Completeness

/-!
Rounds until nothing is due.

Each round takes one of the due entries out of the queue and leaves the row of its ending, if its
job is known. Which one it takes is up to the store. While the clock shows one instant, the rows
that are still to come are those of the entries that are due, in any order; so all orders lead to
the same rows.

* `Script.Yields`: a script that comes to a value without the store.
* `Worker.rowOf`: the row that an entry leaves, if its body ends as its context tells.
* `Worker.Drained`: how far the due entries have been dealt with. A claim and a record keep it
  (`Worker.Drained.claim`, `Worker.Drained.settle`).
* `Worker.Emptied`: what is left in the end, whatever the order was.
* `Worker.afterRounds_answers` and `Worker.afterRounds_emptied`: one round after the other.
-/

namespace JobDispatch

/-! ### Scripts that leave the store alone -/

namespace Script

variable {α β : Type} {now : Instant} {v : α} {w : β} {s : Session}

/-- While the clock shows `now`, the script comes to the value without a statement. -/
def Yields (now : Instant) : Script α → α → Prop
  | done w, v => w = v
  | clock next, v => (next now).Yields now v
  | note _ p, v | measure _ p, v => p.Yields now v
  | exec _ _, _ | halt _, _ => False

lemma Yields.bind {p : Script α} {f : α → Script β} (h : p.Yields now v)
    (hf : (f v).Yields now w) : (p >>= f).Yields now w := by
  show (p.bind f).Yields now w
  induction p with
  | done v' =>
      obtain rfl : v' = v := h
      exact hf
  | clock next ih => exact ih now h
  | note n p ih => exact ih h
  | measure m p ih => exact ih h
  | exec q next => exact h.elim
  | halt halt => exact h.elim

lemma Yields.ends {p : Script α} (h : p.Yields now v) (hclock : ∀ n, s.clock n = now) :
    p.Ends s fun v' s' => v' = v ∧ s'.store = s.store ∧ s'.clock = s.clock := by
  induction p generalizing s with
  | done v' => exact ⟨v', s, rfl, h, rfl, rfl⟩
  | clock next ih =>
      have hnow : s.clock s.readings = now := hclock _
      obtain ⟨v', s', hrun, hsame⟩ := ih now (s := { s with readings := s.readings + 1 }) h hclock
      exact ⟨v', s', by rw [run, hnow]; exact hrun, hsame⟩
  | note n p ih => exact ih (s := s.logged n) h hclock
  | measure m p ih => exact ih (s := s.measured m) h hclock
  | exec q next => exact h.elim
  | halt halt => exact h.elim

end Script

namespace Worker

/-! ### Endings that the context tells -/

section Rows

variable (g : Registry Body) (ends : Registration Body → Context → Ending) (now : Instant)

/-- While the clock shows `now`, each body of the registry leaves the store alone and ends as its
context tells, and the store takes what it returns. -/
structure Steady : Prop where
  yields : ∀ r ∈ g.jobs, ∀ c, (r.body c).Yields now (ends r c)
  storable : ∀ r ∈ g.jobs, ∀ c v, ends r c = .returned v → v.mentions '\x00' = false

/-- The result of an entry of that job. -/
def resultFor (r : Registration Body) (e : Entry) : ResultRow :=
  (resultOf e now (ends r (contextOf r e))).2

/-- The row that an entry leaves, if its job is known. -/
def rowOf (e : Entry) : Option ResultRow :=
  (g.find? e.jobName).map fun r => Tables.storedResult (resultFor ends now r e)

end Rows

variable {g : Registry Body} {ends : Registration Body → Context → Ending} {now : Instant}
  {e : Entry} {r : Registration Body}

lemma id_resultFor : (resultFor ends now r e).id = e.id := by
  rw [resultFor]
  cases ends r (contextOf r e) <;> rfl

lemma id_of_rowOf {row : ResultRow} (h : rowOf g ends now e = some row) : row.id = e.id := by
  obtain ⟨r, -, rfl⟩ := Option.map_eq_some_iff.mp h
  exact id_resultFor

lemma Steady.execute (h : Steady g ends now) (hr : g.find? e.jobName = some r) :
    (Worker.execute r e).Yields now (resultFor ends now r e) := by
  have hbody := h.yields r (List.mem_of_find?_eq_some hr) (contextOf r e)
  refine Script.Yields.bind (v := now) rfl (Script.Yields.bind (v := ()) rfl (hbody.bind ?_))
  exact Script.Yields.bind (v := ()) rfl (Script.Yields.bind (v := ()) rfl rfl)

/-- The store takes these results. -/
lemma Steady.accepted (h : Steady g ends now) (haccepted : e.Accepted)
    (hr : g.find? e.jobName = some r) : (resultFor ends now r e).refusal? = none := by
  have hstorable := h.storable r (List.mem_of_find?_eq_some hr) (contextOf r e)
  rw [resultFor]
  cases hending : ends r (contextOf r e) with
  | returned v =>
      rw [resultOf, ResultRow.refusal?_success haccepted.name haccepted.parameters]
      exact jsonRefusal?_eq_none.mpr (hstorable v hending)
  | _ => exact ResultRow.refusal?_failure haccepted.name haccepted.parameters _

lemma Steady.recorded (h : Steady g ends now) (haccepted : e.Accepted)
    (hr : g.find? e.jobName = some r) :
    Worker.recorded (resultFor ends now r e) = resultFor ends now r e := by
  rw [Worker.recorded, h.accepted haccepted hr]

/-! ### How far the due entries have been dealt with -/

/-- The entries have keys of their own, the store took them, and none of them has a result yet. -/
structure Drainable (t : Tables) : Prop where
  distinct : (t.queue.map Entry.id).Nodup
  accepted : ∀ e ∈ t.queue, e.Accepted
  unrecorded : ∀ e ∈ t.queue, ∀ row ∈ t.results, row.id ≠ e.id

section Progress

variable (g ends now)

/-- Of the entries that were due in the tables `t₀`, those that are not due any more have been
claimed, and wait for their results or have them. All else is as it was. -/
structure Drained (t₀ t : Tables) (pending settled : List Entry) : Prop where
  sublist : t.queue.Sublist t₀.queue
  others : (t.queue.filter fun e => ¬ e.Due now.stored) =
    t₀.queue.filter fun e => ¬ e.Due now.stored
  account : (t.due now ++ (pending ++ settled)).Perm (t₀.due now)
  results : t.results = t₀.results ++ settled.filterMap (rowOf g ends now)
  lease : t.lease = t₀.lease

/-- No entry is due any more. Each that was due has left its row, and all else is as it was. -/
structure Emptied (t₀ t : Tables) : Prop where
  queue : t.queue = t₀.queue.filter fun e => ¬ e.Due now.stored
  results : ∃ rows, t.results = t₀.results ++ rows ∧
    rows.Perm ((t₀.due now).filterMap (rowOf g ends now))
  lease : t.lease = t₀.lease

end Progress

lemma Drained.refl (t : Tables) : Drained g ends now t t [] [] where
  sublist := .refl _
  others := rfl
  account := by rw [List.append_nil, List.append_nil]
  results := (List.append_nil _).symm
  lease := rfl

namespace Drained

variable {t₀ t t' : Tables} {pending rest settled : List Entry}
  (h : Drained g ends now t₀ t pending settled)
include h

lemma length : (t.due now).length + (pending.length + settled.length) = (t₀.due now).length := by
  rw [← h.account.length_eq, List.length_append, List.length_append]

lemma mem_of_pending (he : e ∈ pending) : e ∈ t₀.queue := by
  have hmem : e ∈ t.due now ++ (pending ++ settled) :=
    List.mem_append_right _ (List.mem_append_left _ he)
  exact (t₀.mem_due.mp (h.account.mem_iff.mp hmem)).1

/-- A claimed entry has neither been claimed nor settled besides. -/
lemma nodup (hdrainable : Drainable t₀) :
    ((t.due now ++ (pending ++ settled)).map Entry.id).Nodup :=
  (h.account.map Entry.id).nodup_iff.mpr
    (hdrainable.distinct.sublist (List.filter_sublist.map _))

/-- A due entry is claimed. -/
lemma claim (hdrainable : Drainable t₀) (he : e ∈ t.due now) :
    Drained g ends now t₀ (t.without e.id) (e :: pending) settled where
  sublist := List.filter_sublist.trans h.sublist
  others := by
    rw [← h.others, Tables.without, List.filter_filter]
    refine List.filter_congr fun b hb => ?_
    have hkeep : ¬ b.Due now.stored → b.id ≠ e.id := by
      rintro hnot heq
      have hdistinct := hdrainable.distinct.sublist (h.sublist.map _)
      obtain rfl := List.inj_on_of_nodup_map hdistinct hb (t.mem_due.mp he).1 heq
      exact hnot (t.mem_due.mp he).2
    by_cases hdue : b.Due now.stored <;> simp [hdue, hkeep]
  account := by
    have hdistinct : ((t.due now).map Entry.id).Nodup :=
      (hdrainable.distinct.sublist (h.sublist.map _)).sublist (List.filter_sublist.map _)
    have hdue : (t.without e.id).due now = (t.due now).filter fun b => b.id ≠ e.id := by
      rw [Tables.due, Tables.without, Tables.due, List.filter_comm]
    rw [hdue]
    calc
      (((t.due now).filter fun b => b.id ≠ e.id) ++ (e :: pending ++ settled)).Perm
          (e :: ((t.due now).filter fun b => b.id ≠ e.id) ++ (pending ++ settled)) :=
        List.perm_middle
      List.Perm _ (t.due now ++ (pending ++ settled)) :=
        (perm_cons_others hdistinct he).append_right _
      List.Perm _ (t₀.due now) := h.account
  results := h.results
  lease := h.lease

/-- No result has the key of an entry that waits for its result. -/
lemma fresh (hdrainable : Drainable t₀) (he : e ∈ pending) : ∀ row ∈ t.results, row.id ≠ e.id := by
  intro row hrow
  rw [h.results] at hrow
  rcases List.mem_append.mp hrow with hrow | hrow
  · exact hdrainable.unrecorded e (h.mem_of_pending he) row hrow
  · obtain ⟨b, hb, hb'⟩ := List.mem_filterMap.mp hrow
    have hnodup := h.nodup hdrainable
    rw [List.map_append, List.nodup_append, List.map_append, List.nodup_append] at hnodup
    have hne := hnodup.2.1.2.2 _ (List.mem_map_of_mem he) _ (List.mem_map_of_mem hb)
    rw [id_of_rowOf hb']
    exact hne.symm

/-- A claimed entry gets its result, or is discarded. -/
lemma settle (hpending : pending.Perm (e :: rest)) (hqueue : t'.queue = t.queue)
    (hresults : t'.results = t.results ++ (rowOf g ends now e).toList)
    (hlease : t'.lease = t.lease) : Drained g ends now t₀ t' rest (settled ++ [e]) where
  sublist := hqueue ▸ h.sublist
  others := hqueue ▸ h.others
  account := by
    have hdue : t'.due now = t.due now := by rw [Tables.due, hqueue, Tables.due]
    rw [hdue]
    refine List.Perm.trans (.append_left _ ?_) h.account
    calc
      (rest ++ (settled ++ [e])).Perm ([e] ++ (rest ++ settled)) := by
        rw [← List.append_assoc]
        exact List.perm_append_comm
      List.Perm _ (pending ++ settled) := (hpending.append_right settled).symm
  results := by
    rw [hresults, h.results, List.filterMap_append, List.append_assoc]
    rw [List.filterMap_cons, List.filterMap_nil]
    cases rowOf g ends now e <;> rfl
  lease := hlease.trans h.lease

end Drained

/-- When no entry is due and none waits for its result, nothing is left to do. -/
lemma Drained.emptied {t₀ t : Tables} {settled : List Entry}
    (h : Drained g ends now t₀ t [] settled) (hdue : t.due now = []) :
    Emptied g ends now t₀ t where
  queue := by
    rw [← h.others]
    refine (List.filter_eq_self.mpr fun e he => ?_).symm
    rw [decide_eq_true_iff]
    intro hnow
    rw [List.eq_nil_iff_forall_not_mem] at hdue
    exact hdue e (t.mem_due.mpr ⟨he, hnow⟩)
  results := by
    refine ⟨_, h.results, List.Perm.filterMap _ ?_⟩
    have haccount := h.account
    rw [hdue] at haccount
    exact haccount
  lease := h.lease

/-! ### One round after the other -/

section Rounds

variable {s s' : Session} {lockTimeout : Duration} {t₀ : Tables} {settled : List Entry}

/-- The session in which a round begins and ends: no transaction is open, no fault will strike, and
the clock shows one instant. -/
structure Idle (now : Instant) (s : Session) : Prop where
  closed : s.store.saved = none
  faultless : s.store.faults = []
  clock : ∀ n, s.clock n = now

lemma Idle.of_leaves {t : Tables} (h : Idle now s) (hleaves : s.Leaves s' t) : Idle now s' :=
  ⟨hleaves.saved, hleaves.faults h.faultless, fun n => hleaves.clock ▸ h.clock n⟩

/-- A claimed entry is dealt with. -/
lemma handle_settles (hsteady : Steady g ends now) (hdrainable : Drainable t₀) (hidle : Idle now s)
    (h : Drained g ends now t₀ s.store.tables [e] settled) :
    (handle g lockTimeout e).Ends s
      (fun outcome s' => outcome.id = e.id ∧ Idle now s' ∧
        Drained g ends now t₀ s'.store.tables [] (settled ++ [e]))
      fun _ _ => False := by
  have hmem := List.mem_singleton_self e
  have haccepted := hdrainable.accepted e (h.mem_of_pending hmem)
  have hnow : s.now = now := hidle.clock _
  cases hr : g.find? e.jobName with
  | none =>
      refine (handle_unknown hr).mono (fun outcome s' hdone => ?_) fun _ _ h => h
      obtain ⟨rfl, hkeeps⟩ := hdone
      have hrow : rowOf g ends now e = none := by rw [rowOf, hr]; rfl
      refine ⟨rfl, hidle.of_leaves (hkeeps.leaves hidle.closed), ?_⟩
      rw [hkeeps.tables]
      exact h.settle (.refl _) rfl (by rw [hrow]; exact (List.append_nil _).symm) rfl
  | some r =>
      have hbody := hsteady.yields r (List.mem_of_find?_eq_some hr) (contextOf r e)
      obtain ⟨ending, s₁, hrun, rfl, hstore, hclock⟩ := hbody.ends (s := begun s) hidle.clock
      have hleaves : s.Leaves s₁ s.store.tables :=
        Session.leaves_of_store hstore hclock hidle.closed
      refine (handle_known hr hidle.faultless haccepted (h.fresh hdrainable hmem) hrun
        hleaves).mono (fun outcome s' hdone => ?_) fun _ _ h => h
      obtain ⟨rfl, hrecorded⟩ := hdone
      have hrow : rowOf g ends now e = some (Tables.storedResult (resultFor ends now r e)) := by
        rw [rowOf, hr]
        rfl
      rw [hnow, ← resultFor, hsteady.recorded haccepted hr] at hrecorded ⊢
      refine ⟨?_, hidle.of_leaves hrecorded, ?_⟩
      · rw [WorkOutcome.ofResult]
        split <;> rfl
      · rw [hrecorded.tables]
        exact h.settle (.refl _) rfl (by rw [hrow]; rfl) rfl

/-- What a round comes to: it deals with one of the due entries, or finds that there is none. -/
lemma runOnce_drains (lockTimeout : Duration) (hsteady : Steady g ends now)
    (hdrainable : Drainable t₀) (hidle : Idle now s)
    (h : Drained g ends now t₀ s.store.tables [] settled) :
    (runOnce g lockTimeout).Ends s fun answer s' => Idle now s' ∧
      (answer = .ok none ∧ s.store.tables.due now = [] ∧ s'.store.tables = s.store.tables ∨
        ∃ e ∈ s.store.tables.due now, (∃ outcome, answer = .ok (some outcome) ∧ outcome.id = e.id) ∧
          Drained g ends now t₀ s'.store.tables [] (settled ++ [e])) := by
  have hnow : s.now = now := hidle.clock _
  refine (Script.ends_bind _ _).mpr (Attempt.ends_iff.mp ((Attempt.ends_bind _ _).mpr
    ((claim_ends lockTimeout hidle.closed).mono (fun taken s₁ htaken => ?_)
      fun fault s₁ hfails => absurd hidle.faultless hfails.1)))
  obtain ⟨rfl, hnone, hleaves⟩ | ⟨e, he, hdue, rfl, hleaves⟩ := htaken
  · refine (Attempt.ends_pure _).mpr ((Script.ends_pure _).mpr ⟨hidle.of_leaves hleaves, .inl ?_⟩)
    exact ⟨rfl, hnow ▸ hnone, hleaves.tables⟩
  · have hmem : e ∈ s.store.tables.due now := s.store.tables.mem_due.mpr ⟨he, hnow ▸ hdue⟩
    have hclaimed := h.claim hdrainable hmem
    rw [← hleaves.tables] at hclaimed
    refine (Attempt.ends_map _ _).mpr ((handle_settles hsteady hdrainable
      (hidle.of_leaves hleaves) hclaimed).mono (fun outcome s' hdone => ?_) fun _ _ h => h.elim)
    obtain ⟨hid, hidle', hsettled⟩ := hdone
    exact (Script.ends_pure _).mpr ⟨hidle', .inr ⟨e, hmem, ⟨outcome, rfl, hid⟩, hsettled⟩⟩

end Rounds

section Sequence

variable (g ends now)

/-- Between two rounds: of the entries that were due in `t₀`, so many have been dealt with. -/
structure Advanced (t₀ : Tables) (count : Nat) (st : Store) : Prop where
  closed : st.saved = none
  faultless : st.faults = []
  drained : ∃ settled, settled.length = count ∧ Drained g ends now t₀ st.tables [] settled

variable {g ends now} {t₀ : Tables} {st : Store}

/-- A round deals with one more entry, until there is none left. -/
lemma Advanced.round {count : Nat} (h : Advanced g ends now t₀ count st)
    (hsteady : Steady g ends now) (hdrainable : Drainable t₀) (lockTimeout : Duration) :
    ∃ answer st', (runOnce g lockTimeout).runAt now st = (.ok (.ok answer), st') ∧
      (answer.isSome = true ↔ count < (t₀.due now).length) ∧
      Advanced g ends now t₀ (min (count + 1) (t₀.due now).length) st' := by
  obtain ⟨settled, rfl, hdrained⟩ := h.drained
  have hidle : Idle now (.still st now) := ⟨h.closed, h.faultless, fun _ => rfl⟩
  have hcount : (st.tables.due now).length + settled.length = (t₀.due now).length := by
    have hlength := hdrained.length
    rwa [List.length_nil, Nat.zero_add] at hlength
  obtain ⟨answer, s', hrun, hidle', hround⟩ :=
    (runOnce_drains lockTimeout hsteady hdrainable hidle hdrained).runAt
  obtain ⟨rfl, hnone, htables⟩ | ⟨e, he, ⟨outcome, rfl, -⟩, hsettled⟩ := hround
  · have hnone' : (st.tables.due now).length = 0 := congrArg List.length hnone
    refine ⟨none, s'.store, hrun, iff_of_false nofun (by omega), hidle'.closed, hidle'.faultless,
      settled, by omega, htables ▸ hdrained⟩
  · have hpos : 0 < (st.tables.due now).length := List.length_pos_of_mem he
    refine ⟨some outcome, s'.store, hrun, iff_of_true rfl (by omega), hidle'.closed,
      hidle'.faultless, _, ?_, hsettled⟩
    rw [List.length_append, List.length_singleton]
    omega

/-- The store after so many rounds at one instant. Each round may be one of another worker, which
waits for locks for another time. -/
def afterRounds (g : Registry Body) (now : Instant) (timeouts : Nat → Duration) (st : Store) :
    Nat → Store
  | 0 => st
  | k + 1 => ((runOnce g (timeouts k)).runAt now (afterRounds g now timeouts st k)).2

/-- After as many rounds as entries were due, nothing is left to do. -/
lemma Advanced.emptied (h : Advanced g ends now t₀ (t₀.due now).length st) :
    Emptied g ends now t₀ st.tables := by
  obtain ⟨settled, hlength, hdrained⟩ := h.drained
  refine hdrained.emptied (List.eq_nil_of_length_eq_zero ?_)
  have hcount := hdrained.length
  rw [List.length_nil] at hcount
  omega

variable (hsteady : Steady g ends now) (hclosed : st.saved = none) (hfaultless : st.faults = [])
  (hdrainable : Drainable st.tables) (timeouts : Nat → Duration)
include hsteady hclosed hfaultless hdrainable

lemma afterRounds_advanced (k : Nat) :
    Advanced g ends now st.tables (min k (st.tables.due now).length)
      (afterRounds g now timeouts st k) := by
  induction k with
  | zero => exact ⟨hclosed, hfaultless, [], (Nat.zero_min _).symm, .refl _⟩
  | succ k ih =>
      obtain ⟨answer, st', hrun, -, hadvanced⟩ := ih.round hsteady hdrainable (timeouts k)
      have hafter : afterRounds g now timeouts st (k + 1) = st' := congrArg Prod.snd hrun
      have hcount : min (min k (st.tables.due now).length + 1) (st.tables.due now).length =
          min (k + 1) (st.tables.due now).length := by
        omega
      rw [hafter, ← hcount]
      exact hadvanced

/-- The rounds that find an entry are the first ones, as many as entries were due. -/
lemma afterRounds_answers (k : Nat) : ∃ answer,
    ((runOnce g (timeouts k)).runAt now (afterRounds g now timeouts st k)).1 = .ok (.ok answer) ∧
      (answer.isSome = true ↔ k < (st.tables.due now).length) := by
  have hadvanced := afterRounds_advanced hsteady hclosed hfaultless hdrainable timeouts k
  obtain ⟨answer, st', hrun, hsome, -⟩ := hadvanced.round hsteady hdrainable (timeouts k)
  refine ⟨answer, congrArg Prod.fst hrun, hsome.trans ?_⟩
  omega

lemma afterRounds_emptied {k : Nat} (hk : (st.tables.due now).length ≤ k) :
    Emptied g ends now st.tables (afterRounds g now timeouts st k).tables := by
  have hadvanced := afterRounds_advanced hsteady hclosed hfaultless hdrainable timeouts k
  rw [Nat.min_eq_right hk] at hadvanced
  exact hadvanced.emptied

end Sequence

end Worker

end JobDispatch
