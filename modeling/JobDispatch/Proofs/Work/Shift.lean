import JobDispatch.Proofs.Store.Strikes
import JobDispatch.Proofs.Time.Order
import JobDispatch.Proofs.Work.Conservation
import JobDispatch.Proofs.Work.Drain
import JobDispatch.Proofs.Work.Loss

/-!
Workers that drain the queue together.

Rounds take turns at a store that no fault strikes, while the clock shows one instant. Each due
entry is held by one round from its claim to its result. So what is left of the due entries, what
the rounds hold, and what they have dealt with make up the entries that were due in the beginning.

* `Floor.Works`: what can happen, a part of what can happen at all (`Floor.Works.step`).
* `Worker.Stage`: how far a round has come, what it holds, and how many steps it has to go.
* `Worker.Shift`: the invariant. Every step keeps it (`Worker.Shift.step`), and from everywhere the
  rounds can come to their ends (`Worker.Shift.finish`).
* `Worker.drains_in_any_order`: rounds alone or together drain the queue, whichever of the due
  entries the store picks.
-/

namespace JobDispatch

/-! ### Turns of a round -/

/-- A script that leaves the store alone comes to its value in one turn. -/
lemma Script.Yields.turn {α : Type} {p : Script α} {now : Instant} {v : α} {s : Session}
    (h : p.Yields now v) (hclock : ∀ n, s.clock n = now) :
    p.Turns s fun rest s' => rest = .done v ∧ s'.store = s.store ∧ s'.clock = s.clock := by
  induction p generalizing s with
  | done v' => exact ⟨congrArg Script.done h, rfl, rfl⟩
  | clock next ih =>
      have hnow : s.now = now := hclock _
      rw [Turns, Script.turn, hnow]
      exact ih now (s := { s with readings := s.readings + 1 }) h hclock
  | note n p ih => exact ih (s := s.logged n) h hclock
  | measure m p ih => exact ih (s := s.measured m) h hclock
  | exec q next => exact h.elim
  | halt halt => exact h.elim

/-- Without faults a result whose key is free is written at once. -/
lemma Store.perform_insertResult {st : Store} {row : ResultRow} (hfaults : st.faults = [])
    (haccepted : row.refusal? = none) (hfresh : ∀ r ∈ st.tables.results, r.id ≠ row.id) :
    st.perform (.query (.insertResult row)) = (.ok (Tables.storedResult row),
      { st with tables := st.tables.recording row, faults := [], turn := st.turn + 1 }) := by
  have happly : st.tables.apply (st.counted []).draw (.insertResult row) =
      .ok (Tables.storedResult row, st.tables.recording row) := by
    rw [Tables.apply_insertResult hfresh, haccepted]
  have hcounted : (st.counted []).tables = st.tables := rfl
  rw [perform_of_faultless hfaults, execute, hcounted, happly]
  rfl

namespace Worker

/-- A result that the store takes is recorded in one turn. -/
lemma turn_record (lockTimeout : Duration) {row : ResultRow} {s : Session}
    (hfaults : s.store.faults = []) (haccepted : row.refusal? = none)
    (hfresh : ∀ r ∈ s.store.tables.results, r.id ≠ row.id) :
    (record lockTimeout row).run.Turns s fun rest s' =>
      rest = .done (.ok row) ∧ s.Leaves s' (s.store.tables.recording row) := by
  have hcontrol {st : Store} (h : st.faults = []) (c : Control) :=
    Store.perform_of_faultless h (.control c)
  refine (Script.turns_of_open (hcontrol hfaults .begin) rfl).mpr ?_
  refine (Script.turns_of_open (hcontrol rfl .setIsolation) rfl).mpr ?_
  refine (Script.turns_of_open (hcontrol rfl (.setLockTimeout _)) rfl).mpr ?_
  refine (Script.turns_of_open
    (Store.perform_insertResult rfl haccepted (by exact hfresh)) rfl).mpr ?_
  refine (Script.turns_measure _ _).mpr ((Script.turns_of_closed (hcontrol rfl .commit) rfl).mpr ?_)
  have hturn : s.store.turn ≤ s.store.turn + 1 + 1 + 1 + 1 + 1 := by omega
  exact ⟨rfl, rfl, rfl, rfl, hturn, fun _ => rfl⟩

end Worker

/-! ### Steps without faults -/

namespace Floor

variable {ι : Type} [DecidableEq ι] {now : Instant} {w w' : Floor ι}

/-- After a turn of the task `i`, which stands as `t`. -/
abbrev turned (w : Floor ι) (now : Instant) (i : ι) (t : Task) : Floor ι :=
  w.moved i (t.turn (w.store.session fun _ => now)).1
    (t.turn (w.store.session fun _ => now)).2.store

/-- What can happen while the clock shows `now`, no fault comes up, and no task stops. -/
inductive Works (now : Instant) : Floor ι → Floor ι → Prop
  | claim (w : Floor ι) (i : ι) (g : Registry Body) (lockTimeout : Duration)
      (outcome : Except Halt (Except StoreError (Option Entry))) (s : Session)
      (hi : w.tasks i = .ready g lockTimeout)
      (hrun : (Worker.claim lockTimeout).run.run (w.store.session fun _ => now) = (outcome, s)) :
      Works now w { w.moved i (.afterClaim g lockTimeout outcome) s.store with
        claims := w.claims ++ ofTask i (.afterClaim g lockTimeout outcome) }
  | start (w : Floor ι) (i : ι) (g : Registry Body) (lockTimeout : Duration) (entry : Entry)
      (hi : w.tasks i = .claimed g lockTimeout entry) :
      Works now w { w.moved i (.start g lockTimeout entry) w.store with
        starts := w.starts ++ ofTask i (.start g lockTimeout entry) }
  | turn (w : Floor ι) (i : ι) : Works now w (w.turned now i (w.tasks i))

/-- Some number of such steps, in any order. -/
abbrev Workday (now : Instant) : Floor ι → Floor ι → Prop := Relation.ReflTransGen (Works now)

/-- Such a step is one of those that can happen at all. -/
lemma Works.step (h : Works now w w') : Step w w' := by
  cases h with
  | claim i g lockTimeout outcome s hi hrun => exact .claim w i g lockTimeout _ outcome s hi hrun
  | start i g lockTimeout entry hi => exact .start w i g lockTimeout entry hi
  | turn i => exact .turn w i _

end Floor

/-- The task is a round that has not begun, or it has come to its end. -/
def Task.Rests : Task → Prop
  | ready _ _ | finished | recording _ (.done _) => True
  | _ => False

namespace Worker

variable {ι : Type} [DecidableEq ι]

/-- The entries that the task `i` holds, of those that tasks have claimed and not dealt with. -/
def heldBy (i : ι) (held : List (ι × Entry)) : List Entry :=
  (held.filter fun c => c.1 = i).map Prod.snd

/-- What is left when the task `i` has dealt with what it held. -/
def released (i : ι) (held : List (ι × Entry)) : List (ι × Entry) := held.filter fun c => c.1 ≠ i

section Held

variable {i j : ι} (held : List (ι × Entry)) (e : Entry)

@[simp] lemma heldBy_cons_self : heldBy i ((i, e) :: held) = e :: heldBy i held := by
  simp [heldBy]

lemma heldBy_cons_of_ne (hj : j ≠ i) : heldBy j ((i, e) :: held) = heldBy j held := by
  simp [heldBy, hj.symm]

@[simp] lemma heldBy_released_self : heldBy i (released i held) = [] := by
  simp [heldBy, released]

lemma heldBy_released_of_ne (hj : j ≠ i) : heldBy j (released i held) = heldBy j held := by
  rw [heldBy, released, List.filter_filter]
  have hsame : ∀ c ∈ held, (decide (c.1 = j) && decide (c.1 ≠ i)) = decide (c.1 = j) := by
    intro c _
    by_cases hc : c.1 = j <;> simp [hc, hj]
  rw [List.filter_congr hsame, heldBy]

lemma perm_released (i : ι) (held : List (ι × Entry)) :
    (held.map Prod.snd).Perm (heldBy i held ++ (released i held).map Prod.snd) := by
  rw [heldBy, released, ← List.map_append]
  refine List.Perm.map Prod.snd ?_
  have hsplit := List.filter_append_perm (fun c : ι × Entry => decide (c.1 = i)) held
  simpa only [ne_eq, decide_not] using hsplit.symm

lemma mem_heldBy {held : List (ι × Entry)} {e : Entry} (h : (i, e) ∈ held) : e ∈ heldBy i held :=
  List.mem_map.mpr ⟨(i, e), List.mem_filter.mpr ⟨h, decide_eq_true rfl⟩, rfl⟩

end Held

section Stages

variable (g : Registry Body) (ends : Registration Body → Context → Ending) (now : Instant)

/-- How far a round has come, which entry it holds, and how many steps it is from its end. -/
inductive Stage : Task → List Entry → Nat → Prop
  | ready (lockTimeout : Duration) : Stage (.ready g lockTimeout) [] 0
  | claimed (lockTimeout : Duration) (e : Entry) : Stage (.claimed g lockTimeout e) [e] 4
  | running (lockTimeout : Duration) (e : Entry) (r : Registration Body) (p : Script ResultRow)
      (hr : g.find? e.jobName = some r) (hp : p.Yields now (resultFor ends now r e)) :
      Stage (.running lockTimeout e p) [e] 3
  | ended (lockTimeout : Duration) (e : Entry) (r : Registration Body)
      (hr : g.find? e.jobName = some r) :
      Stage (.running lockTimeout e (.done (resultFor ends now r e))) [e] 2
  | recording (lockTimeout : Duration) (e : Entry) (r : Registration Body)
      (hr : g.find? e.jobName = some r) :
      Stage (.recording e (Worker.record lockTimeout (resultFor ends now r e)).run) [e] 1
  | recorded (e : Entry) (kept : ResultRow) : Stage (.recording e (.done (.ok kept))) [] 0
  | finished : Stage .finished [] 0

/-- Rounds that began over the tables `t₀`: which entries they hold, and with which they have
dealt. -/
structure Shift (t₀ : Tables) (w : Floor ι) (held : List (ι × Entry)) (settled : List Entry) :
    Prop where
  closed : w.store.saved = none
  faultless : w.store.faults = []
  drained : Drained g ends now t₀ w.store.tables (held.map Prod.snd) settled
  claims : (w.claims.map Prod.snd).Perm ((held.map Prod.snd ++ settled).map Entry.id)
  stages : ∀ i, ∃ n, Stage g ends now (w.tasks i) (heldBy i held) n

/-- Nothing more has been claimed, and the round `i` is so many steps from its end. -/
def Nears (t₀ : Tables) (held : List (ι × Entry)) (w : Floor ι) (i : ι) (n : Nat) : Prop :=
  ∃ held' settled, held'.Sublist held ∧ Shift g ends now t₀ w held' settled ∧
    Stage g ends now (w.tasks i) (heldBy i held') n

end Stages

variable {g : Registry Body} {ends : Registration Body → Context → Ending} {now : Instant}
  {t₀ : Tables} {w w' : Floor ι} {i : ι} {t : Task} {e : Entry} {n : Nat}
  {held : List (ι × Entry)} {settled : List Entry}

/-- A round rests exactly if it holds no entry. -/
lemma Stage.rests_iff {entries : List Entry} (h : Stage g ends now t entries n) :
    t.Rests ↔ entries = [] := by
  cases h with
  | ready | finished | recorded => exact iff_of_true trivial rfl
  | claimed | running | recording => exact iff_of_false id (List.cons_ne_nil _ _)
  | ended => exact iff_of_false id (List.cons_ne_nil _ _)

lemma Stage.registry_of_ready {g' : Registry Body} {lockTimeout : Duration}
    {entries : List Entry} (h : Stage g ends now (.ready g' lockTimeout) entries n) : g' = g := by
  cases h
  rfl

lemma Stage.of_claimed {g' : Registry Body} {lockTimeout : Duration} {entries : List Entry}
    (h : Stage g ends now (.claimed g' lockTimeout e) entries n) : g' = g ∧ entries = [e] := by
  cases h
  exact ⟨rfl, rfl⟩

/-- A round at its end holds nothing, and one that has just claimed an entry has its whole way to
go. -/
lemma Stage.ends_of_steps {entries : List Entry} (h : Stage g ends now t entries n) :
    (n = 0 → entries = []) ∧ (n = 4 → ∃ lockTimeout e, t = .claimed g lockTimeout e) := by
  cases h with
  | claimed lockTimeout e => exact ⟨nofun, fun _ => ⟨lockTimeout, e, rfl⟩⟩
  | ready | recorded | finished => exact ⟨fun _ => rfl, nofun⟩
  | running | ended | recording => exact ⟨nofun, nofun⟩

namespace Shift

variable (h : Shift g ends now t₀ w held settled)
include h

/-- The store has not been used. -/
lemma unused : (w.store.session fun _ => now).Leaves (w.store.session fun _ => now)
    w.store.tables := Session.leaves_self h.closed

/-- A task has moved, and the others hold what they held. -/
lemma moved {s : Session} {tables : Tables} {held' : List (ι × Entry)} {settled' : List Entry}
    (hleaves : (w.store.session fun _ => now).Leaves s tables)
    (hstore : w'.store = s.store.restored) (htasks : w'.tasks = Function.update w.tasks i t)
    (hdrained : Drained g ends now t₀ tables (held'.map Prod.snd) settled')
    (hclaims : (w'.claims.map Prod.snd).Perm ((held'.map Prod.snd ++ settled').map Entry.id))
    (hstage : Stage g ends now t (heldBy i held') n)
    (hothers : ∀ j ≠ i, heldBy j held' = heldBy j held) :
    Shift g ends now t₀ w' held' settled' := by
  rw [Store.restored_of_closed hleaves.saved] at hstore
  refine ⟨hstore ▸ hleaves.saved, hstore ▸ hleaves.faults h.faultless, ?_, hclaims, fun j => ?_⟩
  · rw [hstore, hleaves.tables]
    exact hdrained
  · rw [htasks]
    by_cases hj : j = i
    · rw [hj, Function.update_self]
      exact ⟨n, hstage⟩
    · rw [Function.update_of_ne hj, hothers j hj]
      exact h.stages j

/-- A round goes on with what it holds. -/
lemma stays {s : Session} (hleaves : (w.store.session fun _ => now).Leaves s w.store.tables)
    (hstore : w'.store = s.store.restored) (htasks : w'.tasks = Function.update w.tasks i t)
    (hclaims : w'.claims = w.claims) (hstage : Stage g ends now t (heldBy i held) n) :
    Nears g ends now t₀ held w' i n := by
  have hshift : Shift g ends now t₀ w' held settled :=
    h.moved hleaves hstore htasks h.drained (hclaims ▸ h.claims) hstage fun _ _ => rfl
  refine ⟨held, settled, .refl _, hshift, ?_⟩
  rw [htasks, Function.update_self]
  exact hstage

/-- A round claims a due entry. -/
lemma takes {s : Session} (hdrainable : Drainable t₀) (hdue : e ∈ w.store.tables.due now)
    (hnone : heldBy i held = [])
    (hleaves : (w.store.session fun _ => now).Leaves s (w.store.tables.without e.id))
    (hstore : w'.store = s.store.restored) (htasks : w'.tasks = Function.update w.tasks i t)
    (hclaims : w'.claims = w.claims ++ [(i, e.id)]) (hstage : Stage g ends now t [e] n) :
    Shift g ends now t₀ w' ((i, e) :: held) settled := by
  refine h.moved hleaves hstore htasks (h.drained.claim hdrainable hdue) ?_ (n := n) ?_
    fun j hj => heldBy_cons_of_ne held e hj
  · rw [hclaims, List.map_append]
    exact List.perm_append_comm.trans (h.claims.cons e.id)
  · rw [heldBy_cons_self, hnone]
    exact hstage

/-- A round has dealt with its entry. -/
lemma settles {s : Session} {tables : Tables} (hheld : heldBy i held = [e])
    (hleaves : (w.store.session fun _ => now).Leaves s tables)
    (hstore : w'.store = s.store.restored) (htasks : w'.tasks = Function.update w.tasks i t)
    (hqueue : tables.queue = w.store.tables.queue)
    (hresults : tables.results = w.store.tables.results ++ (rowOf g ends now e).toList)
    (hlease : tables.lease = w.store.tables.lease) (hclaims : w'.claims = w.claims)
    (hstage : Stage g ends now t [] n) :
    Nears g ends now t₀ held w' i n := by
  have hrest : (held.map Prod.snd).Perm (e :: (released i held).map Prod.snd) := by
    have hsplit := perm_released i held
    rwa [hheld] at hsplit
  have hclaims' :
      (w'.claims.map Prod.snd).Perm (((released i held).map Prod.snd ++ (settled ++ [e])).map
        Entry.id) := by
    rw [hclaims, ← List.append_assoc]
    calc
      (w.claims.map Prod.snd).Perm ((held.map Prod.snd ++ settled).map Entry.id) := h.claims
      List.Perm _ ((e :: (released i held).map Prod.snd ++ settled).map Entry.id) :=
        (hrest.append_right settled).map Entry.id
      List.Perm _ (((released i held).map Prod.snd ++ settled ++ [e]).map Entry.id) :=
        (List.perm_append_singleton e _).symm.map Entry.id
  have hstage' : Stage g ends now t (heldBy i (released i held)) n := by
    rw [heldBy_released_self]
    exact hstage
  refine ⟨released i held, settled ++ [e], List.filter_sublist, ?_, ?_⟩
  · exact h.moved hleaves hstore htasks (h.drained.settle hrest hqueue hresults hlease) hclaims'
      hstage' fun j hj => heldBy_released_of_ne held hj
  · rw [htasks, Function.update_self]
    exact hstage'

/-! ### One step -/

/-- A claim takes one of the due entries, or finds that there is none. -/
lemma claimed (hdrainable : Drainable t₀) {lockTimeout : Duration}
    {outcome : Except Halt (Except StoreError (Option Entry))} {s : Session}
    (hi : w.tasks i = .ready g lockTimeout)
    (hrun : (claim lockTimeout).run.run (w.store.session fun _ => now) = (outcome, s)) :
    ∃ held' settled', Shift g ends now t₀
      { w.moved i (.afterClaim g lockTimeout outcome) s.store with
        claims := w.claims ++ Floor.ofTask i (.afterClaim g lockTimeout outcome) }
      held' settled' := by
  have hnone : heldBy i held = [] := by
    obtain ⟨n, hstage⟩ := h.stages i
    rw [hi] at hstage
    exact hstage.rests_iff.mp trivial
  obtain ⟨taken, s', hrun', htaken⟩ :=
    claim_ends (s := w.store.session fun _ => now) lockTimeout h.closed
  obtain ⟨rfl, rfl⟩ := Prod.mk.inj (hrun.symm.trans hrun')
  cases taken with
  | error fault => exact absurd h.faultless htaken.1
  | ok taken =>
      obtain ⟨rfl, -, hleaves⟩ | ⟨e, he, hdue, rfl, hleaves⟩ := htaken
      · have hstage : Stage g ends now .finished (heldBy i held) 0 := by
          rw [hnone]
          exact .finished
        refine ⟨held, settled, h.moved hleaves rfl rfl h.drained ?_ hstage fun _ _ => rfl⟩
        exact (List.append_nil w.claims).symm ▸ h.claims
      · have hmem : e ∈ w.store.tables.due now := w.store.tables.mem_due.mpr ⟨he, hdue⟩
        exact ⟨(i, e) :: held, settled, h.takes hdrainable hmem hnone hleaves rfl rfl rfl
          (.claimed lockTimeout e)⟩

/-- The body of an entry is started, unless its job is unknown. -/
lemma started (hsteady : Steady g ends now) {lockTimeout : Duration}
    (hi : w.tasks i = .claimed g lockTimeout e) :
    ∃ m < 4, Nears g ends now t₀ held { w.moved i (.start g lockTimeout e) w.store with
      starts := w.starts ++ Floor.ofTask i (.start g lockTimeout e) } i m := by
  have hheld : heldBy i held = [e] := by
    obtain ⟨n, hstage⟩ := h.stages i
    rw [hi] at hstage
    exact hstage.of_claimed.2
  cases hr : g.find? e.jobName with
  | none =>
      have hstart : Task.start g lockTimeout e = .finished := by rw [Task.start, hr]
      have hrow : (rowOf g ends now e).toList = [] := by rw [rowOf, hr]; rfl
      rw [hstart]
      refine ⟨0, by decide, h.settles hheld h.unused rfl rfl rfl ?_ rfl rfl .finished⟩
      rw [hrow, List.append_nil]
  | some r =>
      have hstart : Task.start g lockTimeout e = .running lockTimeout e (execute r e) := by
        rw [Task.start, hr]
      rw [hstart]
      refine ⟨3, by decide, h.stays h.unused rfl rfl rfl ?_⟩
      rw [hheld]
      exact .running lockTimeout e r _ hr (hsteady.execute hr)

/-- A turn in which a body runs. -/
lemma turned_running (lockTimeout : Duration) {r : Registration Body} {p : Script ResultRow}
    (hheld : heldBy i held = [e]) (hr : g.find? e.jobName = some r)
    (hp : p.Yields now (resultFor ends now r e)) :
    ∃ m < 3, Nears g ends now t₀ held (w.turned now i (.running lockTimeout e p)) i m := by
  obtain ⟨hrest, hstore, hclock⟩ := hp.turn (s := w.store.session fun _ => now) fun _ => rfl
  have hended := Session.leaves_of_store hstore hclock h.closed
  have hstage : Stage g ends now (.running lockTimeout e (.done (resultFor ends now r e)))
      (heldBy i held) 2 := hheld ▸ .ended lockTimeout e r hr
  cases p with
  | done row =>
      -- the body has come to its end, and the round turns to its result
      obtain rfl : row = resultFor ends now r e := hp
      refine ⟨1, by decide, h.stays h.unused rfl rfl rfl ?_⟩
      exact hheld ▸ .recording lockTimeout e r hr
  | _ =>
      refine ⟨2, by decide, h.stays hended rfl ?_ rfl hstage⟩
      exact congrArg (fun rest => Function.update w.tasks i (.running lockTimeout e rest)) hrest

/-- A turn in which a result is written. -/
lemma turned_recording (hsteady : Steady g ends now) (hdrainable : Drainable t₀)
    {lockTimeout : Duration} {r : Registration Body} (hheld : heldBy i held = [e])
    (hr : g.find? e.jobName = some r) :
    Nears g ends now t₀ held
      (w.turned now i (.recording e (record lockTimeout (resultFor ends now r e)).run)) i 0 := by
  have hpending : e ∈ held.map Prod.snd := by
    have hsplit := (perm_released i held).mem_iff (a := e)
    rw [hheld] at hsplit
    exact hsplit.mpr (List.mem_append_left _ (List.mem_singleton_self e))
  have haccepted := hdrainable.accepted e (h.drained.mem_of_pending hpending)
  have hfresh : ∀ row ∈ w.store.tables.results, row.id ≠ (resultFor ends now r e).id := by
    rw [id_resultFor]
    exact h.drained.fresh hdrainable hpending
  have hrow : (rowOf g ends now e).toList = [Tables.storedResult (resultFor ends now r e)] := by
    rw [rowOf, hr]
    rfl
  obtain ⟨hrest, hrecorded⟩ := turn_record lockTimeout
    (s := w.store.session fun _ => now) h.faultless (hsteady.accepted haccepted hr) hfresh
  refine h.settles hheld hrecorded rfl ?_ rfl ?_ rfl rfl (.recorded e (resultFor ends now r e))
  · exact congrArg (fun rest => Function.update w.tasks i (.recording e rest)) hrest
  · rw [hrow]
    rfl

/-- Any turn of a round. Only a round that rests or has yet to start its body stays where it is. -/
lemma turned (hsteady : Steady g ends now) (hdrainable : Drainable t₀)
    (hstage : Stage g ends now t (heldBy i held) n) :
    ∃ m ≤ n, (m = n → n = 0 ∨ n = 4) ∧ Nears g ends now t₀ held (w.turned now i t) i m := by
  have hrests (hturn : t.turn (w.store.session fun _ => now) = (t, w.store.session fun _ => now)) :
      Nears g ends now t₀ held (w.turned now i t) i n := by
    rw [Floor.turned, hturn]
    exact h.stays h.unused rfl rfl rfl hstage
  generalize hheld : heldBy i held = entries at hstage
  cases hstage with
  | ready | recorded | finished => exact ⟨0, Nat.le_refl _, fun _ => .inl rfl, hrests rfl⟩
  | claimed => exact ⟨4, Nat.le_refl _, fun _ => .inr rfl, hrests rfl⟩
  | running lockTimeout e r p hr hp =>
      obtain ⟨m, hm, hnears⟩ := h.turned_running lockTimeout hheld hr hp
      exact ⟨m, Nat.le_of_lt hm, fun heq => absurd heq (Nat.ne_of_lt hm), hnears⟩
  | ended lockTimeout e r hr =>
      refine ⟨1, by decide, nofun, h.stays h.unused rfl rfl rfl ?_⟩
      exact hheld ▸ .recording lockTimeout e r hr
  | recording lockTimeout e r hr =>
      exact ⟨0, by decide, nofun, h.turned_recording hsteady hdrainable hheld hr⟩

/-- Whatever the workers do, they go on draining the queue. -/
lemma step (hsteady : Steady g ends now) (hdrainable : Drainable t₀)
    (hworks : Floor.Works now w w') : ∃ held' settled', Shift g ends now t₀ w' held' settled' := by
  cases hworks with
  | claim i g' lockTimeout outcome s hi hrun =>
      obtain ⟨n, hstage⟩ := h.stages i
      rw [hi] at hstage
      obtain rfl := hstage.registry_of_ready
      exact h.claimed hdrainable hi hrun
  | start i g' lockTimeout e hi =>
      obtain ⟨n, hstage⟩ := h.stages i
      rw [hi] at hstage
      obtain ⟨rfl, -⟩ := hstage.of_claimed
      obtain ⟨m, -, held', settled', -, hshift, -⟩ := h.started hsteady hi
      exact ⟨held', settled', hshift⟩
  | turn i =>
      obtain ⟨n, hstage⟩ := h.stages i
      obtain ⟨m, -, -, held', settled', -, hshift, -⟩ := h.turned hsteady hdrainable hstage
      exact ⟨held', settled', hshift⟩

/-! ### Whole runs -/

omit h in
lemma run (hsteady : Steady g ends now) (hdrainable : Drainable t₀)
    (h : ∃ held settled, Shift g ends now t₀ w held settled)
    (hrun : Floor.Workday now w w') :
    ∃ held settled, Shift g ends now t₀ w' held settled := by
  induction hrun with
  | refl => exact h
  | tail _ hworks ih =>
      obtain ⟨held, settled, hshift⟩ := ih
      exact hshift.step hsteady hdrainable hworks

/-- A round comes to its end, if it is given its turns. -/
lemma finishes (hsteady : Steady g ends now) (hdrainable : Drainable t₀)
    (hstage : Stage g ends now (w.tasks i) (heldBy i held) n) :
    ∃ w', Floor.Workday now w w' ∧ w'.claims = w.claims ∧
      ∃ held' settled', held'.Sublist held ∧ heldBy i held' = [] ∧
        Shift g ends now t₀ w' held' settled' := by
  induction n using Nat.strongRecOn generalizing w held settled with
  | ind n ih =>
      obtain ⟨hzero, hfour⟩ := hstage.ends_of_steps
      by_cases hn : n = 0
      · exact ⟨w, .refl, rfl, held, settled, .refl _, hzero hn, h⟩
      -- either step brings the round nearer to its end
      obtain ⟨w₁, hworks, hclaims, m, hm, held₁, settled₁, hsub, hshift, hstage₁⟩ :
          ∃ w₁, Floor.Works now w w₁ ∧ w₁.claims = w.claims ∧
            ∃ m < n, Nears g ends now t₀ held w₁ i m := by
        by_cases hclaimed : n = 4
        · obtain ⟨lockTimeout, e, hi⟩ := hfour hclaimed
          exact ⟨_, .start w i g lockTimeout e hi, rfl, hclaimed ▸ h.started hsteady hi⟩
        · obtain ⟨m, hm, hsame, hnears⟩ := h.turned hsteady hdrainable hstage
          exact ⟨_, .turn w i, rfl, m, by omega, hnears⟩
      obtain ⟨w', hrun, hclaims', held', settled', hsub', hnone, hshift'⟩ := ih m hm hshift hstage₁
      exact ⟨w', .head hworks hrun, hclaims'.trans hclaims, held', settled', hsub'.trans hsub,
        hnone, hshift'⟩

/-- All rounds come to their ends. -/
lemma finish (hsteady : Steady g ends now) (hdrainable : Drainable t₀) :
    ∃ w', Floor.Workday now w w' ∧ w'.claims = w.claims ∧
      ∃ settled', Shift g ends now t₀ w' [] settled' := by
  generalize hlength : held.length = k
  induction k using Nat.strongRecOn generalizing w held settled with
  | ind k ih =>
      cases held with
      | nil => exact ⟨w, .refl, rfl, settled, h⟩
      | cons c rest =>
          obtain ⟨i, e⟩ := c
          obtain ⟨n, hstage⟩ := h.stages i
          obtain ⟨w₁, hrun, hclaims, held₁, settled₁, hsub, hnone, hshift⟩ :=
            h.finishes hsteady hdrainable hstage
          have hless : held₁.length < k := by
            refine hlength ▸ Nat.lt_of_le_of_ne hsub.length_le fun hsame => ?_
            rw [hsub.eq_of_length hsame, heldBy_cons_self] at hnone
            cases hnone
          obtain ⟨w', hrun', hclaims', settled', hshift'⟩ := ih _ hless hshift rfl
          exact ⟨w', hrun.trans hrun', hclaims'.trans hclaims, settled', hshift'⟩

/-- Each entry that was due waits, or one round has claimed it. -/
lemma account : ((w.store.tables.due now).map Entry.id ++ w.claims.map Prod.snd).Perm
    ((t₀.due now).map Entry.id) := by
  calc
    ((w.store.tables.due now).map Entry.id ++ w.claims.map Prod.snd).Perm
        ((w.store.tables.due now).map Entry.id ++ (held.map Prod.snd ++ settled).map Entry.id) :=
      h.claims.append_left _
    List.Perm _ ((t₀.due now).map Entry.id) := by
      rw [← List.map_append]
      exact h.drained.account.map Entry.id

lemma rests_of_nil (hnil : held = []) (i : ι) : (w.tasks i).Rests := by
  obtain ⟨n, hstage⟩ := h.stages i
  rw [hnil] at hstage
  exact hstage.rests_iff.mpr rfl

lemma nil_of_rests (hrests : ∀ i, (w.tasks i).Rests) : held = [] := by
  refine List.eq_nil_iff_forall_not_mem.mpr fun c hc => ?_
  obtain ⟨n, hstage⟩ := h.stages c.1
  have hnone := hstage.rests_iff.mp (hrests c.1)
  exact List.ne_nil_of_mem (mem_heldBy hc) hnone

end Shift

/-! ### What workers come to together -/

section Draining

variable (g ends now)

/-- Rounds with the registry are about to begin. -/
structure Gathers (w : Floor ι) : Prop where
  ready : ∀ i, ∃ lockTimeout, w.tasks i = .ready g lockTimeout
  claims : w.claims = []

/-- Where rounds that began over the tables `t₀` have come to: each entry that was due waits or one
round has claimed it; another round finds an entry exactly if one is due; the rounds can come to
their ends, and when they have, and no entry is due, nothing is left to do. -/
structure Drains (t₀ : Tables) (w : Floor ι) : Prop where
  account : ((w.store.tables.due now).map Entry.id ++ w.claims.map Prod.snd).Perm
    ((t₀.due now).map Entry.id)
  finds : ∀ lockTimeout, ∃ taken s,
    (claim lockTimeout).run.run (w.store.session fun _ => now) = (.ok (.ok taken), s) ∧
      (taken.isSome = true ↔ w.store.tables.due now ≠ [])
  finish : ∃ w', Floor.Workday now w w' ∧ w'.claims = w.claims ∧
    ∀ i, (w'.tasks i).Rests
  emptied : (∀ i, (w.tasks i).Rests) → w.store.tables.due now = [] →
    Emptied g ends now t₀ w.store.tables

end Draining

lemma Gathers.shift (h : Gathers g w) (hclosed : w.store.saved = none)
    (hfaultless : w.store.faults = []) : Shift g ends now w.store.tables w [] [] where
  closed := hclosed
  faultless := hfaultless
  drained := .refl _
  claims := by rw [h.claims]; exact .refl _
  stages := fun i => by
    obtain ⟨lockTimeout, hi⟩ := h.ready i
    rw [hi]
    exact ⟨0, .ready lockTimeout⟩

lemma Shift.drains (hsteady : Steady g ends now) (hdrainable : Drainable t₀)
    (h : Shift g ends now t₀ w held settled) : Drains g ends now t₀ w where
  account := h.account
  finds := fun lockTimeout => by
    obtain ⟨taken, s, hrun, htaken⟩ :=
      claim_ends (s := w.store.session fun _ => now) lockTimeout h.closed
    cases taken with
    | error fault => exact absurd h.faultless htaken.1
    | ok taken =>
        refine ⟨taken, s, hrun, ?_⟩
        obtain ⟨rfl, hnone, -⟩ | ⟨e, he, hdue, rfl, -⟩ := htaken
        · exact iff_of_false nofun (not_not_intro hnone)
        · exact iff_of_true rfl (List.ne_nil_of_mem (w.store.tables.mem_due.mpr ⟨he, hdue⟩))
  finish := by
    obtain ⟨w', hrun, hclaims, settled', hshift⟩ := h.finish hsteady hdrainable
    exact ⟨w', hrun, hclaims, hshift.rests_of_nil rfl⟩
  emptied := fun hrests hdue => by
    have hdrained := h.drained
    rw [h.nil_of_rests hrests] at hdrained
    exact hdrained.emptied hdue

/-- **Draining**.  While the clock shows `now` and no fault comes up, rounds with one registry of
steady bodies deal with every due entry once, whichever of them the store picks. Rounds of any
workers one after the other find an entry as many times as entries are due, and then no more; in the
end the queue is what was not due, and the results have grown by the rows of the entries of known
jobs. Rounds that take turns at the store come to the same. From 2000 on, and outside a leap second,
the due entries are those without an earliest time or with one that has come. -/
theorem drains_in_any_order (st : Store) (hsteady : Steady g ends now) (hclosed : st.saved = none)
    (hfaultless : st.faults = []) (hdrainable : Drainable st.tables) :
    (∀ (timeouts : Nat → Duration) (k : Nat),
      (∃ answer, ((runOnce g (timeouts k)).runAt now (afterRounds g now timeouts st k)).1 =
          .ok (.ok answer) ∧ (answer.isSome = true ↔ k < (st.tables.due now).length)) ∧
        ((st.tables.due now).length ≤ k →
          Emptied g ends now st.tables (afterRounds g now timeouts st k).tables)) ∧
    (∀ (ι : Type) [DecidableEq ι] (w₀ w : Floor ι), w₀.store = st → Gathers g w₀ →
      Floor.Workday now w₀ w → Drains g ends now st.tables w) ∧
    ((∀ e ∈ st.tables.queue, ∀ t, e.notBefore = some t → t.stored = t) →
      Instant.tableOrigin ≤ now.toNanos → now.nanos < nanosPerSec →
        st.tables.due now = st.tables.queue.filter fun e => e.Due now) := by
  refine ⟨fun timeouts k => ⟨?_, ?_⟩, fun ι _ w₀ w hstore hgathers hrun => ?_,
    fun hwhole hnow hplain => List.filter_congr fun e he => ?_⟩
  · exact afterRounds_answers hsteady hclosed hfaultless hdrainable timeouts k
  · exact afterRounds_emptied hsteady hclosed hfaultless hdrainable timeouts
  · subst hstore
    obtain ⟨held, settled, hshift⟩ := Shift.run hsteady hdrainable
      ⟨[], [], hgathers.shift hclosed hfaultless⟩ hrun
    exact hshift.drains hsteady hdrainable
  · rw [decide_eq_decide, Entry.Due, Entry.Due]
    cases hat : e.notBefore with
    | none => rfl
    | some t => exact Instant.le_stored_iff (hwhole e he t hat) hnow hplain

/-! ### Entries of three kinds -/

/-- An entry of that job, which may run from that time on. -/
def waitingFrom (n : Nat) (jobName : String) (notBefore : Option Instant) : Entry :=
  ⟨.drawn n, jobName, notBefore, Json.emptyObject, none, none, 0⟩

/-- At one second after the year 2000 began, two entries of a job that does nothing and one of an
unknown job are due, and one is not. -/
def mixedStore : Store :=
  { Store.new with tables := { Tables.empty with
      queue := [waitingFrom 0 "idle" none, waitingFrom 1 "idle" (some (.ofSecs 946684801)),
        waitingFrom 2 "ghost" (some (.ofSecs 946684800)),
        waitingFrom 3 "idle" (some (.ofSecs 946684802))] } }

/-- Workers meet at the store. -/
def mixedFloor : Floor Nat :=
  ⟨mixedStore, fun _ => .ready ⟨[idleJob]⟩ (.ofSecs 5), [], [], [], []⟩

/-- The job returns null. -/
lemma idleJob_steady (now : Instant) :
    Steady ⟨[idleJob]⟩ (fun _ _ => .returned .null) now where
  yields := fun r hr c => by
    obtain rfl := List.mem_singleton.mp hr
    rfl
  storable := fun r hr c v hv => by
    obtain rfl := Ending.returned.inj hv
    rfl

lemma mixedStore_drainable : Drainable mixedStore.tables where
  distinct := by decide
  accepted := by
    intro e he
    simp only [mixedStore, List.mem_cons, List.not_mem_nil, or_false] at he
    obtain rfl | rfl | rfl | rfl := he <;> exact ⟨by decide +kernel, by decide +kernel⟩
  unrecorded := fun _ _ => nofun

theorem drains_in_any_order_mixed :
    (∃ answer, ((runOnce ⟨[idleJob]⟩ (.ofSecs 5)).runAt (.ofSecs 946684801) (afterRounds ⟨[idleJob]⟩
        (.ofSecs 946684801) (fun _ => .ofSecs 5) mixedStore 2)).1 = .ok (.ok answer) ∧
      answer.isSome = true) ∧
    Emptied ⟨[idleJob]⟩ (fun _ _ => .returned .null) (.ofSecs 946684801) mixedStore.tables
      (afterRounds ⟨[idleJob]⟩ (.ofSecs 946684801) (fun _ => .ofSecs 5) mixedStore 3).tables ∧
    (∀ w, Floor.Workday (.ofSecs 946684801) mixedFloor w →
      Drains ⟨[idleJob]⟩ (fun _ _ => .returned .null) (.ofSecs 946684801) mixedStore.tables w) ∧
    mixedStore.tables.due (.ofSecs 946684801) =
      mixedStore.tables.queue.filter fun e => e.Due (.ofSecs 946684801) := by
  have hdue : (mixedStore.tables.due (.ofSecs 946684801)).length = 3 := by decide +kernel
  obtain ⟨halone, hshared, hkept⟩ := drains_in_any_order mixedStore
    (idleJob_steady (.ofSecs 946684801)) rfl rfl mixedStore_drainable
  obtain ⟨answer, hrun, hsome⟩ := (halone (fun _ => .ofSecs 5) 2).1
  refine ⟨⟨answer, hrun, hsome.mpr (by rw [hdue]; decide)⟩, ?_, fun w hw => ?_, hkept ?_ ?_ ?_⟩
  · exact (halone (fun _ => .ofSecs 5) 3).2 (Nat.le_of_eq hdue)
  · exact hshared Nat mixedFloor w rfl ⟨fun _ => ⟨.ofSecs 5, rfl⟩, rfl⟩ hw
  · decide +kernel
  · decide
  · decide

/-- An entry that may run from the year 2000 on. -/
def newYearStore : Store :=
  { Store.new with tables := { Tables.empty with
      queue := [waitingFrom 0 "idle" (some (.ofSecs 946684800))] } }

/-- Half a microsecond before that year the store takes the reading of the clock for its first
instant, and the entry, which is not due yet, is claimed. -/
theorem finds_too_early : ¬ ∀ (timeouts : Nat → Duration) (k : Nat), ∃ answer,
    ((runOnce ⟨[idleJob]⟩ (timeouts k)).runAt ⟨946684799, 999999500⟩
      (afterRounds ⟨[idleJob]⟩ ⟨946684799, 999999500⟩ timeouts newYearStore k)).1 =
        .ok (.ok answer) ∧
    (answer.isSome = true ↔
      k < (newYearStore.tables.queue.filter fun e => e.Due ⟨946684799, 999999500⟩).length) := by
  intro h
  obtain ⟨answer, hrun, hsome⟩ := h (fun _ => .ofSecs 5) 0
  have hfinds : ((runOnce ⟨[idleJob]⟩ (.ofSecs 5)).runAt ⟨946684799, 999999500⟩ newYearStore).1 =
      .ok (.ok (some (.succeeded (.drawn 0) "idle"))) := by decide +kernel
  obtain rfl := Except.ok.inj (Except.ok.inj (hfinds.symm.trans hrun))
  exact absurd (hsome.mp rfl) (by decide +kernel)

end Worker

end JobDispatch
