import JobDispatch.Proofs.Work.Conservation
import JobDispatch.Proofs.Work.Retention

/-!
The results as a log: how rows come, stay and go.

Rounds of workers, requests, cycles and attempts to lead take turns, as on a `Floor`, and any faults
strike. Only the job that deletes old results touches the results by its body.

* `Archive`: a floor, with the bodies that run and what they have read from the clock. Its steps are
  those of the floor (`Archive.floor_step_iff`).
* `Archive.Fits`: what a task may do to the results. `Archive.Sound`: the invariant of all runs.
* `Archive.Turns`: what a turn of one task comes to. `Archive.Fits.turn` goes through the tasks.
* `Archive.Changes`: what a step does. `Archive.Sound.changes` goes through the steps.
* `Archive.history`: the life of every row, in every run.
-/

namespace JobDispatch

/-- The body of an entry runs. -/
def Task.Runs (t : Task) : Prop := ∃ lockTimeout entry rest, t = running lockTimeout entry rest

/-- What has been gained was permitted. -/
lemma Tables.Evolves.of_gained {inserts : ResultRow → Prop} {deletes : Instant → Prop}
    {t₀ t : Tables} {n₀ n : Nat} (h : t₀.Evolves inserts deletes n₀ t n) {id : EntryId}
    (hid : id ∈ gained t₀.kept t.kept) : ∃ row, inserts row ∧ row.id = id := by
  obtain ⟨hkept, hnew⟩ := List.mem_filter.mp hid
  obtain ⟨row, hrow, rfl⟩ := List.mem_map.mp hkept
  obtain hold | ⟨new, hinserts, rfl⟩ := h.comes row hrow
  · exact absurd (List.mem_map_of_mem hold) (of_decide_eq_true hnew)
  · exact ⟨new, hinserts, rfl⟩

/-! ### The system -/

/-- A floor, with the bodies that the rounds have started and what each task has read from the
clock; for a round, since the start of its body. -/
structure Archive (ι : Type) extends Floor ι where
  body : ι → Option Body
  read : ι → List Instant

namespace Archive

variable {ι : Type}

/-- The rows of the results. -/
def rows (w : Archive ι) : List ResultRow := w.store.tables.results

section Steps

variable [DecidableEq ι]

/-- After a turn of the task `i`. -/
def turned (w : Archive ι) (i : ι) (clock : Nat → Instant) : Archive ι where
  toFloor := w.moved i ((w.tasks i).turn (w.store.session clock)).1
    ((w.tasks i).turn (w.store.session clock)).2.store
  body := w.body
  read := Function.update w.read i
    (w.read i ++ ((w.tasks i).turn (w.store.session clock)).2.seen)

/-- After a claim of the round `i`. -/
def taken (w : Archive ι) (i : ι) (task : Task) (store : Store) : Archive ι where
  toFloor := { w.moved i task store with claims := w.claims ++ Floor.ofTask i task }
  body := w.body
  read := w.read

/-- After the round `i` has started the body of its entry, unless the job is unknown. -/
def started (w : Archive ι) (i : ι) (g : Registry Body) (lockTimeout : Duration) (entry : Entry) :
    Archive ι where
  toFloor := { w.moved i (.start g lockTimeout entry) w.store with
    starts := w.starts ++ Floor.ofTask i (.start g lockTimeout entry) }
  body := Function.update w.body i ((g.find? entry.jobName).map Registration.body)
  read := Function.update w.read i []

/-- What can happen, as on a floor. The clock shows anything, and any faults may come up. -/
inductive Step : Archive ι → Archive ι → Prop
  | claim (w : Archive ι) (i : ι) (g : Registry Body) (lockTimeout : Duration)
      (clock : Nat → Instant) (outcome : Except Halt (Except StoreError (Option Entry)))
      (s : Session) (hi : w.tasks i = .ready g lockTimeout)
      (hrun : (Worker.claim lockTimeout).run.run (w.store.session clock) = (outcome, s)) :
      Step w (w.taken i (.afterClaim g lockTimeout outcome) s.store)
  | start (w : Archive ι) (i : ι) (g : Registry Body) (lockTimeout : Duration) (entry : Entry)
      (hi : w.tasks i = .claimed g lockTimeout entry) :
      Step w (w.started i g lockTimeout entry)
  | turn (w : Archive ι) (i : ι) (clock : Nat → Instant) : Step w (w.turned i clock)
  | stop (w : Archive ι) (i : ι) : Step w { w with toFloor := w.moved i .finished w.store }
  | disturb (w : Archive ι) (faults : List Fault) :
      Step w { w with store := { w.store with faults } }

/-- Some number of steps, in any order. -/
abbrev Run : Archive ι → Archive ι → Prop := Relation.ReflTransGen Step

/-- What can happen on the floor is not changed by keeping the record. -/
lemma floor_step_iff {w : Archive ι} {v : Floor ι} :
    Floor.Step w.toFloor v ↔ ∃ w', Step w w' ∧ w'.toFloor = v := by
  constructor
  · intro hstep
    cases hstep with
    | claim i g lockTimeout clock outcome s hi hrun => exact ⟨_, .claim w i _ _ _ _ s hi hrun, rfl⟩
    | start i g lockTimeout entry hi => exact ⟨_, .start w i g lockTimeout entry hi, rfl⟩
    | turn i clock => exact ⟨_, .turn w i clock, rfl⟩
    | stop i => exact ⟨_, .stop w i, rfl⟩
    | disturb faults => exact ⟨_, .disturb w faults, rfl⟩
  · rintro ⟨w', hstep, rfl⟩
    cases hstep with
    | claim i g lockTimeout clock outcome s hi hrun => exact .claim _ i _ _ _ _ s hi hrun
    | start i g lockTimeout entry hi => exact .start _ i g lockTimeout entry hi
    | turn i clock => exact .turn _ i clock
    | stop i => exact .stop _ i
    | disturb faults => exact .disturb _ faults

end Steps

/-- A task that has not begun: a request, a cycle, an attempt to lead, an errand that leaves the
results alone, or a round. -/
inductive Begins (retentionDays : Nat) : Task → Prop
  | request (i : Instance) (r : Request) : Begins retentionDays (.errand do let _ ← i.enqueue r)
  | cycle {Body : Type} (u : Upkeep) (g : Registry Body) (now : Instant) :
      Begins retentionDays (.errand do let _ ← u.runOnce g now)
  | tick {Body : Type} (u : Upkeep) (g : Registry Body) (e : Elector) :
      Begins retentionDays (.errand do let _ ← u.tick g e)
  | election (e : Elector) (wasLeader : Bool) :
      Begins retentionDays (.errand do let _ ← e.round wasLeader)
  | errand (p : Script Unit) (hp : p.Only Statement.LeavesResults) :
      Begins retentionDays (.errand p)
  | round (g : Registry Body) (lockTimeout : Duration) (hg : g.OnlyPurges retentionDays) :
      Begins retentionDays (.ready g lockTimeout)

/-- There are no results, and no task has begun. -/
structure Starts (retentionDays : Nat) (w : Archive ι) : Prop where
  closed : w.store.saved = none
  keyed : w.store.tables.Keyed w.store.turn
  rows : w.rows = []
  claims : w.claims = []
  received : w.received = []
  tasks : ∀ i, Begins retentionDays (w.tasks i)

/-- The task `i` runs the job that deletes old results. -/
def Purges (retentionDays : Nat) (w : Archive ι) (i : ι) : Prop :=
  (w.tasks i).Runs ∧ w.body i = some (Purge.body retentionDays)

/-! ### The invariant -/

variable {retentionDays : Nat} {w w' : Archive ι} {i j : ι} {t : Task}

/-- What is left of a task keeps to what it may do to the results. A round writes rows about its
entry only, and holds the credit for one while none has been received. -/
def Fits (retentionDays : Nat) (w : Archive ι) (i : ι) : Task → Prop
  | .errand p => p.Abides (fun _ => Statement.LeavesResults) (w.read i) fun _ => True
  | .ready g _ => g.OnlyPurges retentionDays
  | .claimed g _ e => g.OnlyPurges retentionDays ∧ (i, e.id) ∈ w.claims ∧ e.id ∉ w.received
  | .running _ e p => (i, e.id) ∈ w.claims ∧ e.id ∉ w.received ∧
      p.Abides (fun readings => Statement.Permitted (fun _ => False) fun cutoff =>
        w.body i = some (Purge.body retentionDays) ∧ Purge.Reaches retentionDays readings cutoff)
        (w.read i) (Worker.Reports e)
  | .recording e p => (i, e.id) ∈ w.claims ∧
      p.Abides (fun _ => Statement.Permitted (Worker.Reports e) fun _ => False) (w.read i)
        (fun _ => True) ∧
      ∃ c, p.Follows Credit.protocol ⟨c, none⟩ (fun _ _ => True) ∧
        (c = none ∨ c = some e.id ∧ e.id ∉ w.received)
  | .finished => True

/-- No entry that was claimed waits or has been claimed twice, rows have different keys, are
consistent, have times that a table keeps as they are, and have been received for claimed entries,
and all tasks fit in. -/
structure Sound (retentionDays : Nat) (w : Archive ι) : Prop where
  closed : w.store.saved = none
  drawn : ∀ n, .drawn n ∈ w.store.tables.waiting ++ w.claims.map Prod.snd → n ≤ w.store.turn
  claimed : ∀ id ∈ w.claims.map Prod.snd, id ∉ w.store.tables.waiting
  once : (w.claims.map Prod.snd).Nodup
  distinct : w.store.tables.kept.Nodup
  consistent : ∀ row ∈ w.rows, row.Consistent
  stored : ∀ row ∈ w.rows, row.executedAt.stored = row.executedAt
  recorded : ∀ row ∈ w.rows, row.id ∈ w.received
  receipts : w.received ⊆ w.claims.map Prod.snd
  fits : ∀ i, w.Fits retentionDays i (w.tasks i)

/-- A task fits in while no result is received for its entry. -/
lemma Fits.mono (h : w.Fits retentionDays i t) (hclaims : w.claims ⊆ w'.claims)
    (hbody : w'.body i = w.body i) (hread : w'.read i = w.read i)
    (hreceived : ∀ id, (i, id) ∈ w.claims → id ∈ w'.received → id ∈ w.received) :
    w'.Fits retentionDays i t := by
  cases t with
  | errand p => rw [Fits, hread]; exact h
  | ready g lockTimeout => exact h
  | finished => trivial
  | claimed g lockTimeout e =>
      obtain ⟨hg, hclaim, hresult⟩ := h
      exact ⟨hg, hclaims hclaim, hresult ∘ hreceived _ hclaim⟩
  | running lockTimeout e p =>
      obtain ⟨hclaim, hresult, habides⟩ := h
      rw [Fits, hbody, hread]
      exact ⟨hclaims hclaim, hresult ∘ hreceived _ hclaim, habides⟩
  | recording e p =>
      obtain ⟨hclaim, habides, c, hfollows, hc⟩ := h
      rw [Fits, hread]
      refine ⟨hclaims hclaim, habides, c, hfollows, hc.imp_right fun hc => ?_⟩
      exact ⟨hc.1, hc.2 ∘ hreceived _ hclaim⟩

/-- An entry is claimed by one task only. -/
lemma Sound.caller_unique (h : w.Sound retentionDays) {id : EntryId} (hi : (i, id) ∈ w.claims)
    (hj : (j, id) ∈ w.claims) : i = j :=
  congrArg Prod.fst (List.inj_on_of_nodup_map h.once hi hj rfl)

/-- The others fit in as before after a step of one task that has received at most a result for an
entry that it had claimed. -/
lemma Sound.fits_others (h : w.Sound retentionDays) (hclaims : w.claims ⊆ w'.claims)
    (hsame : ∀ j ≠ i, w'.tasks j = w.tasks j ∧ w'.body j = w.body j ∧ w'.read j = w.read j)
    (hreceived : ∀ id ∈ w'.received, id ∈ w.received ∨ (i, id) ∈ w.claims)
    (hi : w'.Fits retentionDays i (w'.tasks i)) : ∀ j, w'.Fits retentionDays j (w'.tasks j) := by
  intro j
  by_cases hj : j = i
  · exact hj ▸ hi
  · obtain ⟨htask, hbody, hread⟩ := hsame j hj
    rw [htask]
    refine (h.fits j).mono hclaims hbody hread fun id hclaim hid => ?_
    rcases hreceived id hid with hid | hid
    · exact hid
    · exact absurd (h.caller_unique hclaim hid) hj

lemma received_of_subperm {before after : List EntryId}
    (h : w'.received = w.received ++ gained before after) (hsub : after.Subperm before) :
    w'.received = w.received := by
  rw [h, gained_of_subperm hsub, List.append_nil]

/-- The row has been received, and no other bears its key. -/
structure Settled (w : Archive ι) (row : ResultRow) : Prop where
  received : row.id ∈ w.received
  only : ∀ row' ∈ w.rows, row'.id = row.id → row' = row

lemma Sound.settled (h : w.Sound retentionDays) {row : ResultRow} (hrow : row ∈ w.rows) :
    w.Settled row where
  received := h.recorded row hrow
  only := fun _ hrow' hid => Tables.eq_of_kept h.distinct hrow' hrow hid

/-! ### Starts -/

lemma Begins.fits (h : Begins retentionDays t) : w.Fits retentionDays i t := by
  have hleaves {p : Script Unit} (hp : p.Only Statement.LeavesResults) :
      w.Fits retentionDays i (.errand p) := hp.abides fun _ _ hq => hq
  have hends {α : Type} {p : Script α} (hp : p.Only Statement.Spares) :
      w.Fits retentionDays i (.errand do let _ ← p) :=
    hleaves ((hp.mono fun _ => Statement.Spares.leavesResults).bind fun _ => Script.only_pure ())
  cases h with
  | request i r => exact hends (i.enqueue_spares r)
  | cycle u g now => exact hends (u.runOnce_spares g now)
  | tick u g e => exact hends (u.tick_spares g e)
  | election e wasLeader => exact hends (e.round_spares wasLeader)
  | errand p hp => exact hleaves hp
  | round g lockTimeout hg => exact hg

lemma Starts.sound (h : w.Starts retentionDays) : w.Sound retentionDays where
  closed := h.closed
  drawn := fun n hn => by
    rw [h.claims, List.map_nil, List.append_nil] at hn
    obtain ⟨e, he, hid⟩ := List.mem_map.mp hn
    exact h.keyed.drawn e he n hid
  claimed := by simp [h.claims]
  once := by rw [h.claims]; exact List.nodup_nil
  distinct := by
    rw [Tables.kept, show w.store.tables.results = [] from h.rows]
    exact List.nodup_nil
  consistent := by simp [h.rows]
  stored := by simp [h.rows]
  recorded := by simp [h.rows]
  receipts := by rw [h.received]; exact List.nil_subset _
  fits := fun i => (h.tasks i).fits

/-! ### Turns -/

/-- The row may come: it is consistent, and the first one about an entry that was claimed. -/
structure Arrives (w : Archive ι) (i : ι) (row : ResultRow) : Prop where
  consistent : row.Consistent
  claimed : (i, row.id) ∈ w.claims
  first : row.id ∉ w.received

/-- The archive `w'` is what has become of `w` when the task `i` has come to the end of the session
`s`. -/
structure After (w : Archive ι) (i : ι) (s : Session) (w' : Archive ι) : Prop where
  claims : w'.claims = w.claims
  body : w'.body i = w.body i
  read : w'.read i = w.read i ++ s.seen
  received : w'.received = w.received ++ gained w.store.tables.kept s.store.restored.tables.kept

/-- What a turn of the task `i` comes to, after which it is the task `t'`: rows that come are about
its entry, rows go only if it `purges`, and it fits in again. -/
structure Turns (retentionDays : Nat) (w : Archive ι) (i : ι) (purges : Prop) (s : Session)
    (t' : Task) : Prop where
  evolves : s.store.restored.Evolves (w.Arrives i)
    (fun cutoff => purges ∧ Purge.Reaches retentionDays (w.read i ++ s.seen) cutoff)
    w.store.tables w.store.turn
  fits : ∀ w', w.After i s w' → w'.Fits retentionDays i t'

section Turns

variable {purges : Prop} {lockTimeout : Duration} {e : Entry}

/-- A task that does not go to the store. -/
lemma Fits.rests (h : w.Fits retentionDays i t) (hclosed : w.store.saved = none)
    (hdistinct : w.store.tables.kept.Nodup) (clock : Nat → Instant) :
    w.Turns retentionDays i purges (w.store.session clock) t where
  evolves := (Store.Evolves.refl hclosed hdistinct).restored
  fits := fun w' hafter => by
    have hstill : (w.store.session clock).store.restored.tables = w.store.tables :=
      Store.tables_restored hclosed
    have hnone := received_of_subperm hafter.received (hstill ▸ .refl _)
    exact h.mono (fun _ hc => hafter.claims ▸ hc) hafter.body
      (hafter.read.trans (List.append_nil _)) fun _ _ hid => hnone ▸ hid

lemma Fits.turn_errand {p : Script Unit} (h : w.Fits retentionDays i (.errand p))
    (hclosed : w.store.saved = none) (hdistinct : w.store.tables.kept.Nodup)
    (clock : Nat → Instant) :
    w.Turns retentionDays i purges (p.turn (w.store.session clock)).2
      (.errand (p.turn (w.store.session clock)).1) := by
  obtain ⟨habides, hevolves⟩ := Script.Abides.turn_evolves (s := w.store.session clock)
    (fun _ _ => False) h (fun _ _ _ h => h) rfl hclosed hdistinct
  refine ⟨hevolves.mono (fun _ => False.elim) fun _ => False.elim, fun w' hafter => ?_⟩
  rw [Fits, hafter.read]
  exact habides

/-- A body adds no rows, and deletes some only if it is that of the job that deletes old results. -/
lemma Fits.turn_running {p : Script ResultRow}
    (h : w.Fits retentionDays i (.running lockTimeout e p))
    (hpurges : w.body i = some (Purge.body retentionDays) → purges)
    (hclosed : w.store.saved = none) (hdistinct : w.store.tables.kept.Nodup)
    (clock : Nat → Instant) :
    w.Turns retentionDays i purges (p.turn (w.store.session clock)).2
      (.running lockTimeout e (p.turn (w.store.session clock)).1) := by
  obtain ⟨hclaim, hresult, hp⟩ := h
  obtain ⟨habides, hevolves⟩ := Script.Abides.turn_evolves (s := w.store.session clock)
    (fun readings cutoff => w.body i = some (Purge.body retentionDays) ∧
      Purge.Reaches retentionDays readings cutoff) hp
    (fun _ now _ h => ⟨h.1, h.2.append [now]⟩) rfl hclosed hdistinct
  refine ⟨hevolves.mono (fun _ => False.elim) fun _ h => ⟨hpurges h.1, h.2⟩, fun w' hafter => ?_⟩
  have hnone : w'.received = w.received := received_of_subperm hafter.received
    (hevolves.now.distinct.subperm hevolves.now.kept_subset)
  rw [Fits, hafter.body, hafter.read]
  exact ⟨hafter.claims ▸ hclaim, hnone ▸ hresult, habides⟩

/-- The record of a result adds at most one row about the entry, and none if it has done so
before. -/
lemma Fits.turn_recording {p : Script (Except StoreError ResultRow)}
    (h : w.Fits retentionDays i (.recording e p)) (hclosed : w.store.saved = none)
    (hdistinct : w.store.tables.kept.Nodup) (clock : Nat → Instant) :
    w.Turns retentionDays i purges (p.turn (w.store.session clock)).2
      (.recording e (p.turn (w.store.session clock)).1) := by
  obtain ⟨hclaim, hp, c, hcredit, hc⟩ := h
  obtain ⟨habides, hevolves⟩ := Script.Abides.turn_evolves (s := w.store.session clock)
    (fun _ _ => False) hp (fun _ _ _ h => h) rfl hclosed hdistinct
  obtain ⟨c', hfollows, -, hsince⟩ := hcredit.turn_since (s := w.store.session clock) hclosed
  refine ⟨?_, fun w' hafter => ?_⟩
  · obtain hnone | ⟨-, hresult⟩ := hc
    · obtain ⟨-, hkept⟩ | ⟨-, id, hid, -⟩ := hsince.kept
      · have hsame := hevolves.now.of_subset hkept.subset
        exact ⟨hevolves.turn, hsame.mono (fun _ => False.elim) fun _ => False.elim, nofun⟩
      · rw [hnone] at hid
        cases hid
    · refine hevolves.mono (fun row hrow => ?_) fun _ => False.elim
      exact ⟨hrow.consistent, hrow.id ▸ hclaim, hrow.id ▸ hresult⟩
  · rw [Fits, hafter.read]
    refine ⟨hafter.claims ▸ hclaim, habides, c', hfollows, ?_⟩
    obtain ⟨hsame, hkept⟩ | ⟨hspent, -⟩ := hsince.kept
    · rw [hsame, received_of_subperm hafter.received hkept]
      exact hc
    · exact .inl hspent

/-- A body that has come to its end gives the round the credit for its result. -/
lemma Fits.recording {row : ResultRow}
    (h : w.Fits retentionDays i (.running lockTimeout e (.done row))) :
    w.Fits retentionDays i (.recording e (Worker.record lockTimeout row).run) := by
  obtain ⟨hclaim, hresult, hdone⟩ := h
  have hreports : Worker.Reports e row := hdone
  have hrecord : (Worker.record lockTimeout row).run.Follows Credit.protocol
      ⟨some row.id, none⟩ fun _ _ => True := Worker.record_follows row
  rw [hreports.id] at hrecord
  exact ⟨hclaim, (Worker.record_only_reports hreports lockTimeout).abides fun _ _ hq => hq,
    some e.id, hrecord, .inr ⟨rfl, hresult⟩⟩

/-- What a turn of any task comes to. -/
lemma Fits.turn (h : w.Fits retentionDays i t) (hclosed : w.store.saved = none)
    (hdistinct : w.store.tables.kept.Nodup) (clock : Nat → Instant) :
    w.Turns retentionDays i (t.Runs ∧ w.body i = some (Purge.body retentionDays))
      (t.turn (w.store.session clock)).2 (t.turn (w.store.session clock)).1 := by
  cases t with
  | ready g lockTimeout => exact h.rests hclosed hdistinct clock
  | claimed g lockTimeout e => exact h.rests hclosed hdistinct clock
  | finished => exact h.rests hclosed hdistinct clock
  | errand p => exact h.turn_errand hclosed hdistinct clock
  | recording e p => exact h.turn_recording hclosed hdistinct clock
  | running lockTimeout e p =>
      cases p with
      | done row => exact h.recording.rests hclosed hdistinct clock
      | _ => exact h.turn_running (fun hbody => ⟨⟨_, _, _, rfl⟩, hbody⟩) hclosed hdistinct clock

end Turns

/-! ### What a step does -/

section Steps

variable [DecidableEq ι]

/-- Rows from before the cutoff may go: the step is a turn of the job that deletes old results, and
the cutoff goes back from a reading that this job has made. -/
def Expires (retentionDays : Nat) (w w' : Archive ι) (cutoff : Instant) : Prop :=
  ∃ i clock, w.Purges retentionDays i ∧ w' = w.turned i clock ∧
    Purge.Reaches retentionDays (w'.read i) cutoff

/-- What a step does: rows come and go as they may, and one entry that waits is claimed at most. -/
structure Changes (retentionDays : Nat) (w w' : Archive ι) : Prop where
  closed : w'.store.saved = none
  turn : w.store.turn ≤ w'.store.turn
  evolves : w.store.tables.Evolves (fun row => ∃ i, w.Arrives i row) (w.Expires retentionDays w')
    w.store.turn w'.store.tables w'.store.turn
  claims : w'.claims = w.claims ∨ ∃ i, ∃ id ∈ w.store.tables.waiting,
    id ∉ w'.store.tables.waiting ∧ w'.claims = w.claims ++ [(i, id)]
  received : w'.received = w.received ++ gained w.store.tables.kept w'.store.tables.kept
  fits : ∀ j, w'.Fits retentionDays j (w'.tasks j)

namespace Changes

/-- What has been claimed was claimed before, or it waited and waits no more. -/
lemma mem_claims (h : w.Changes retentionDays w') {id : EntryId}
    (hid : id ∈ w'.claims.map Prod.snd) : id ∈ w.claims.map Prod.snd ∨
      id ∈ w.store.tables.waiting ∧ id ∉ w'.store.tables.waiting := by
  obtain hsame | ⟨i, new, hnew, hgone, happend⟩ := h.claims
  · exact .inl (hsame ▸ hid)
  · rw [happend, List.map_append] at hid
    refine (List.mem_append.mp hid).imp_right fun hid => ?_
    exact List.mem_singleton.mp hid ▸ ⟨hnew, hgone⟩

lemma claims_subset (h : w.Changes retentionDays w') : w.claims ⊆ w'.claims := by
  obtain hsame | ⟨i, new, -, -, happend⟩ := h.claims
  · exact hsame ▸ List.Subset.refl _
  · exact happend ▸ List.subset_append_left _ _

/-- Each step keeps the invariant. -/
lemma sound (h : w.Changes retentionDays w') (hw : w.Sound retentionDays) :
    w'.Sound retentionDays := by
  refine ⟨h.closed, fun n hn => ?_, fun id hid hwaits => ?_, ?_, h.evolves.distinct,
    fun row hrow => ?_, fun row hrow => ?_, fun row hrow => ?_, fun id hid => ?_, h.fits⟩
  · rcases List.mem_append.mp hn with hn | hn
    · obtain hold | ⟨m, hm, -, hdrawn⟩ := h.evolves.waiting _ hn
      · exact Nat.le_trans (hw.drawn n (List.mem_append_left _ hold)) h.turn
      · exact EntryId.drawn.inj hm ▸ hdrawn
    · obtain hold | ⟨hold, -⟩ := h.mem_claims hn
      · exact Nat.le_trans (hw.drawn n (List.mem_append_right _ hold)) h.turn
      · exact Nat.le_trans (hw.drawn n (List.mem_append_left _ hold)) h.turn
  · obtain hold | ⟨-, hgone⟩ := h.mem_claims hid
    · obtain hwaited | ⟨m, rfl, hnew, -⟩ := h.evolves.waiting id hwaits
      · exact hw.claimed id hold hwaited
      · exact absurd (hw.drawn m (List.mem_append_right _ hold)) (Nat.not_le.mpr hnew)
    · exact hgone hwaits
  · obtain hsame | ⟨i, id, hid, -, happend⟩ := h.claims
    · exact hsame ▸ hw.once
    · rw [happend, List.map_append, List.map_singleton, ← List.concat_eq_append]
      exact hw.once.concat fun hclaimed => hw.claimed id hclaimed hid
  · obtain hold | ⟨new, ⟨i, harrives⟩, rfl⟩ := h.evolves.comes row hrow
    · exact hw.consistent row hold
    · exact ⟨harrives.consistent.result, harrives.consistent.errorLog, harrives.consistent.clean⟩
  · obtain hold | ⟨new, -, rfl⟩ := h.evolves.comes row hrow
    · exact hw.stored row hold
    · exact Instant.stored_stored _
  · rw [h.received]
    by_cases hold : row.id ∈ w.store.tables.kept
    · obtain ⟨row', hrow', hid⟩ := List.mem_map.mp hold
      exact List.mem_append_left _ (hid ▸ hw.recorded row' hrow')
    · exact List.mem_append_right _
        (List.mem_filter.mpr ⟨List.mem_map_of_mem hrow, decide_eq_true hold⟩)
  · rw [h.received] at hid
    rcases List.mem_append.mp hid with hid | hid
    · exact List.map_subset Prod.snd h.claims_subset (hw.receipts hid)
    · obtain ⟨row, ⟨i, harrives⟩, rfl⟩ := h.evolves.of_gained hid
      exact List.mem_map.mpr ⟨_, h.claims_subset harrives.claimed, rfl⟩

/-- A step of one task that leaves the tables and the claims alone. -/
lemma of_still (hw : w.Sound retentionDays) (hclosed : w'.store.saved = none)
    (htables : w'.store.tables = w.store.tables) (hturn : w.store.turn ≤ w'.store.turn)
    (hclaims : w'.claims = w.claims)
    (hreceived : w'.received = w.received ++ gained w.store.tables.kept w'.store.tables.kept)
    (hsame : ∀ j ≠ i, w'.tasks j = w.tasks j ∧ w'.body j = w.body j ∧ w'.read j = w.read j)
    (htask : w'.tasks i = t) (hi : w'.received = w.received → w'.Fits retentionDays i t) :
    w.Changes retentionDays w' := by
  have hnone : w'.received = w.received := received_of_subperm hreceived (htables ▸ .refl _)
  refine ⟨hclosed, hturn, ?_, .inl hclaims, hreceived, ?_⟩
  · rw [htables]
    exact (Tables.Evolves.refl hw.distinct).later hturn
  · exact hw.fits_others (fun _ hc => hclaims ▸ hc) hsame (fun _ hid => .inl (hnone ▸ hid))
      (htask ▸ hi hnone)

end Changes

namespace Sound

/-- What a turn does. -/
lemma changes_turn (h : w.Sound retentionDays) (i : ι) (clock : Nat → Instant) :
    w.Changes retentionDays (w.turned i clock) := by
  obtain ⟨hevolves, hfits⟩ := (h.fits i).turn h.closed h.distinct clock
  have hread : (w.turned i clock).read i =
      w.read i ++ ((w.tasks i).turn (w.store.session clock)).2.seen := Function.update_self _ _ _
  refine ⟨rfl, hevolves.turn, hevolves.now.mono (fun row hrow => ⟨i, hrow⟩) ?_, .inl rfl, rfl, ?_⟩
  · rintro cutoff ⟨hpurges, hreaches⟩
    exact ⟨i, clock, hpurges, rfl, hread.symm ▸ hreaches⟩
  · refine h.fits_others (i := i) (List.Subset.refl _) (fun j hj => ?_) (fun id hid => ?_) ?_
    · exact ⟨Function.update_of_ne hj _ _, rfl, Function.update_of_ne hj _ _⟩
    · refine (List.mem_append.mp hid).imp_right fun hid => ?_
      obtain ⟨row, harrives, rfl⟩ := hevolves.now.of_gained hid
      exact harrives.claimed
    · have htask : (w.turned i clock).tasks i = ((w.tasks i).turn (w.store.session clock)).1 :=
        Function.update_self _ _ _
      rw [htask]
      exact hfits _ ⟨rfl, rfl, hread, rfl⟩

/-- What the start of a body does. -/
lemma changes_start (h : w.Sound retentionDays) {g : Registry Body} {lockTimeout : Duration}
    {entry : Entry} (hi : w.tasks i = .claimed g lockTimeout entry) :
    w.Changes retentionDays (w.started i g lockTimeout entry) := by
  have hentry := h.fits i
  rw [hi] at hentry
  obtain ⟨hg, hclaim, hresult⟩ := hentry
  refine .of_still (i := i) h rfl (Store.tables_restored h.closed) (Nat.le_refl _) rfl rfl
    (fun j hj => ?_) (Function.update_self _ _ _) fun hreceived => ?_
  · exact ⟨Function.update_of_ne hj _ _, Function.update_of_ne hj _ _,
      Function.update_of_ne hj _ _⟩
  · cases hr : g.find? entry.jobName with
    | none =>
        rw [Task.start, hr]
        trivial
    | some r =>
        have hbody : (w.started i g lockTimeout entry).body i = some r.body :=
          (Function.update_self _ _ _).trans (congrArg (Option.map Registration.body) hr)
        have hread : (w.started i g lockTimeout entry).read i = [] := Function.update_self _ _ _
        rw [Task.start, hr, Fits, hbody, hread]
        refine ⟨hclaim, hreceived ▸ hresult, Worker.execute_abides fun later => ?_⟩
        obtain hpurge | hleaves := hg r (List.mem_of_find?_eq_some hr)
        · rw [hpurge]
          exact Purge.body_abides (fun _ _ _ hreaches => ⟨rfl, hreaches⟩) _ _
        · exact (hleaves _).abides fun _ q hq => hq.mono (fun _ => False.elim) fun _ => False.elim

/-- What the claim of an entry does: it does not wait any more. -/
lemma changes_taken (h : w.Sound retentionDays) {g : Registry Body} {lockTimeout : Duration}
    {e : Entry} {store : Store} (hg : g.OnlyPurges retentionDays)
    (he : e.id ∈ w.store.tables.waiting)
    (ht : store.restored.tables = w.store.tables.without e.id)
    (hturn : w.store.turn ≤ store.turn) :
    w.Changes retentionDays (w.taken i (.claimed g lockTimeout e) store) := by
  have hunclaimed : e.id ∉ w.claims.map Prod.snd := fun hclaimed => h.claimed _ hclaimed he
  have hgone : e.id ∉ store.restored.tables.waiting := by
    rw [ht]
    simp [Tables.waiting, Tables.without]
  have hsub : store.restored.tables.waiting ⊆ w.store.tables.waiting := by
    rw [ht]
    exact List.map_subset _ List.filter_sublist.subset
  have hresults : store.restored.tables.results = w.store.tables.results := by rw [ht]; rfl
  have hevolves : w.store.tables.Evolves (fun row => ∃ i, w.Arrives i row)
      (w.Expires retentionDays (w.taken i (.claimed g lockTimeout e) store)) w.store.turn
      store.restored.tables store.turn :=
    { waiting := fun id hid => .inl (hsub hid)
      distinct := by rw [Tables.kept, hresults]; exact h.distinct
      comes := fun row hrow => .inl (hresults ▸ hrow)
      goes := fun row hrow => .inl (hresults ▸ hrow) }
  have hreceived : (w.taken i (.claimed g lockTimeout e) store).received = w.received :=
    received_of_subperm rfl (by rw [Tables.kept, hresults]; exact .refl _)
  have htask : (w.taken i (.claimed g lockTimeout e) store).tasks i = .claimed g lockTimeout e :=
    Function.update_self _ _ _
  refine ⟨rfl, hturn, hevolves, .inr ⟨i, e.id, he, hgone, rfl⟩, rfl, ?_⟩
  refine h.fits_others (i := i) (List.subset_append_left _ _)
    (fun j hj => ⟨Function.update_of_ne hj _ _, rfl, rfl⟩)
    (fun id hid => .inl (hreceived ▸ hid)) ?_
  rw [htask]
  refine ⟨hg, List.mem_append_right _ (List.mem_singleton_self _), fun hresult => ?_⟩
  exact hunclaimed (h.receipts (hreceived ▸ hresult))

/-- What a claim does. -/
lemma changes_claim (h : w.Sound retentionDays) {g : Registry Body} {lockTimeout : Duration}
    {clock : Nat → Instant} {outcome : Except Halt (Except StoreError (Option Entry))}
    {s : Session} (hi : w.tasks i = .ready g lockTimeout)
    (hrun : (Worker.claim lockTimeout).run.run (w.store.session clock) = (outcome, s)) :
    w.Changes retentionDays (w.taken i (.afterClaim g lockTimeout outcome) s.store) := by
  have hg : g.OnlyPurges retentionDays := by
    have hready := h.fits i
    rw [hi] at hready
    exact hready
  obtain ⟨taken, s', hrun', htaken⟩ :=
    Worker.claim_ends lockTimeout (s := w.store.session clock) h.closed
  obtain ⟨rfl, rfl⟩ := Prod.mk.inj (hrun.symm.trans hrun')
  -- without an entry the round is over
  have hfinished (hleaves : (w.store.session clock).Leaves s w.store.tables) :
      w.Changes retentionDays (w.taken i .finished s.store) :=
    .of_still (i := i) h rfl ((Store.tables_restored hleaves.saved).trans hleaves.tables)
      hleaves.turn (List.append_nil _) rfl (fun j hj => ⟨Function.update_of_ne hj _ _, rfl, rfl⟩)
      (Function.update_self _ _ _) fun _ => trivial
  cases taken with
  | error fault => exact hfinished htaken.2
  | ok taken =>
      obtain ⟨rfl, -, hleaves⟩ | ⟨e, he, -, rfl, hleaves⟩ := htaken
      · exact hfinished hleaves
      · exact h.changes_taken hg (List.mem_map_of_mem he)
          ((Store.tables_restored hleaves.saved).trans hleaves.tables) hleaves.turn

/-- What each step does. -/
lemma changes (h : w.Sound retentionDays) (hstep : Step w w') : w.Changes retentionDays w' := by
  cases hstep with
  | claim i g lockTimeout clock outcome s hi hrun => exact h.changes_claim hi hrun
  | start i g lockTimeout entry hi => exact h.changes_start hi
  | turn i clock => exact h.changes_turn i clock
  | stop i =>
      exact .of_still (i := i) h rfl (Store.tables_restored h.closed) (Nat.le_refl _) rfl rfl
        (fun j hj => ⟨Function.update_of_ne hj _ _, rfl, rfl⟩) (Function.update_self _ _ _)
        fun _ => trivial
  | disturb faults =>
      refine ⟨h.closed, Nat.le_refl _, .refl h.distinct, .inl rfl, ?_, fun j => ?_⟩
      · exact (by rw [gained_of_subperm (.refl _), List.append_nil])
      · exact (h.fits j).mono (List.Subset.refl _) rfl rfl fun _ _ hid => hid

/-- Each run keeps the invariant. -/
lemma run (h : w.Sound retentionDays) (hrun : Run w w') : w'.Sound retentionDays := by
  induction hrun with
  | refl => exact h
  | tail _ hstep ih => exact (ih.changes hstep).sound ih

end Sound

/-! ### The theorem -/

/-- No row is written over, even if it has gone. -/
lemma Settled.run {row : ResultRow} (hsettled : w.Settled row) (h : w.Sound retentionDays)
    (hrun : Run w w') : w'.Settled row := by
  induction hrun with
  | refl => exact hsettled
  | tail hrun hstep ih =>
      have hchanges := (h.run hrun).changes hstep
      refine ⟨?_, fun row' hrow' hid => ?_⟩
      · rw [hchanges.received]
        exact List.mem_append_left _ ih.received
      · obtain hold | ⟨new, ⟨i, harrives⟩, rfl⟩ := hchanges.evolves.comes row' hrow'
        · exact ih.only row' hold hid
        · exact absurd (hid ▸ ih.received) harrives.first

/-- **The results are a log**.  Requests, cycles, attempts to lead and rounds of workers take turns,
any faults strike, tasks stop for good, and of the bodies only that of the job that deletes old
results touches the results. Every row is consistent and about an entry that was claimed. At no
later time does another row bear its key, so that it stays as it is while it stays. It goes only in
a turn of that job, and only if it is older than the retention by a reading of the clock that the
job has made. -/
theorem history (retentionDays : Nat) (w₀ w : Archive ι) (hstart : w₀.Starts retentionDays)
    (hrun : Run w₀ w) :
    (∀ row ∈ w.rows, row.Consistent ∧ ∃ i, (i, row.id) ∈ w.claims) ∧
    (∀ w', Run w w' → ∀ row ∈ w.rows, ∀ row' ∈ w'.rows, row'.id = row.id → row' = row) ∧
    ∀ w', Step w w' → ∀ row ∈ w.rows, row ∉ w'.rows →
      ∃ i clock, w.Purges retentionDays i ∧ w' = w.turned i clock ∧
        ∃ now ∈ w'.read i, Purge.days retentionDays < now.since row.executedAt := by
  have h := hstart.sound.run hrun
  refine ⟨fun row hrow => ⟨h.consistent row hrow, ?_⟩, fun w' hrun' row hrow => ?_,
    fun w' hstep row hrow hgone => ?_⟩
  · obtain ⟨⟨i, id⟩, hi, hid⟩ := List.mem_map.mp (h.receipts (h.recorded row hrow))
    exact ⟨i, hid ▸ hi⟩
  · exact ((h.settled hrow).run h hrun').only
  · obtain hstays | ⟨cutoff, hexpires, hold⟩ := (h.changes hstep).evolves.goes row hrow
    · exact absurd hstays hgone
    · obtain ⟨i, clock, hpurges, hturned, now, hnow, hcutoff⟩ := hexpires
      exact ⟨i, clock, hpurges, hturned, now, hnow,
        Purge.days_lt_since hcutoff (h.stored row hrow) hold⟩

/-! ### A row that grows old -/

/-- An instance with a job that does nothing, and one that deletes results after a day. -/
def keeper : Instance :=
  ⟨.standard "a", ⟨[⟨"idle", none, .none, Body.ending (.returned .null)⟩,
    ⟨Purge.jobName, none, .store, Purge.body 1⟩]⟩⟩

/-- A request for each of the jobs, and two rounds. -/
def shelf : Archive (Fin 4) where
  store := .new
  tasks := fun i => match i with
    | 0 => .errand do let _ ← keeper.enqueue (.named "idle")
    | 1 => .errand do let _ ← keeper.enqueue (.named Purge.jobName)
    | 2 | 3 => .ready keeper.registry (.ofSecs 5)
  inserted := []
  claims := []
  starts := []
  received := []
  body := fun _ => none
  read := fun _ => []

lemma starts_shelf : shelf.Starts 1 where
  closed := rfl
  keyed := ⟨List.nodup_nil, nofun⟩
  rows := rfl
  claims := rfl
  received := rfl
  tasks := fun i => by
    have hg : keeper.registry.OnlyPurges 1 := by
      intro r hr
      rcases List.mem_cons.mp hr with rfl | hr
      · exact .inr fun _ => trivial
      · exact .inl (List.mem_singleton.mp hr ▸ rfl)
    match i with
    | 0 => exact .request _ _
    | 1 => exact .request _ _
    | 2 => exact .round _ _ hg
    | 3 => exact .round _ _ hg

/-- Noon of some day. -/
def noon : Nat → Instant := fun _ => .ofSecs 1767268800

/-- Noon two days later. -/
def noonAfterNext : Nat → Instant := fun _ => .ofSecs 1767441600

/-- The first round records a result at noon, and the second one starts the job that deletes old
results two days later. -/
lemma run_shelf : ∃ w, Run shelf w ∧ w.rows.map ResultRow.id = [.drawn 2] ∧
    (w.turned 3 noonAfterNext).rows = [] := by
  have h := Relation.ReflTransGen.refl (r := Step) (a := shelf)
  have h := h.tail (.turn _ 0 noon)
  have h := h.tail (.claim _ 2 _ _ noon _ _ rfl rfl)
  have h := h.tail (.turn _ 1 noon)
  have h := h.tail (.claim _ 3 _ _ noon _ _ rfl rfl)
  have h := h.tail (.start _ 2 _ _ _ rfl)
  -- the body, its end, and the record of its result
  have h := h.tail (.turn _ 2 noon)
  have h := h.tail (.turn _ 2 noon)
  have h := h.tail (.turn _ 2 noon)
  have h := h.tail (.start _ 3 _ _ _ rfl)
  exact ⟨_, h, by decide +kernel, by decide +kernel⟩

/-- The result is consistent and goes two days later, when it is older than a day. -/
theorem history_shelf : ∃ w w', Run shelf w ∧ Step w w' ∧ w.rows.map ResultRow.id = [.drawn 2] ∧
    w'.rows = [] ∧ ∀ row ∈ w.rows, row.Consistent ∧ ∃ i, w.Purges 1 i ∧
      ∃ now ∈ w'.read i, Purge.days 1 < now.since row.executedAt := by
  obtain ⟨w, h, hids, hempty⟩ := run_shelf
  obtain ⟨hrows, -, hgoes⟩ := history 1 shelf w starts_shelf h
  refine ⟨w, _, h, .turn w 3 noonAfterNext, hids, hempty, fun row hrow => ⟨(hrows row hrow).1, ?_⟩⟩
  have hgone : row ∉ (w.turned 3 noonAfterNext).rows := hempty ▸ List.not_mem_nil
  obtain ⟨i, clock, hpurges, -, hold⟩ := hgoes _ (.turn w 3 noonAfterNext) row hrow hgone
  exact ⟨i, hpurges, hold⟩

end Steps

end Archive

end JobDispatch
