import Mathlib.Logic.Relation
import JobDispatch.Proofs.Cron.Levels
import JobDispatch.Proofs.Time.Order
import JobDispatch.Proofs.Upkeep.Upsert
import JobDispatch.Proofs.Work.Claim
import JobDispatch.Zone.Table

/-!
How often an occurrence of a periodic job is claimed.

A cycle reads the clock once, when it starts, but the upsert of a job takes effect only once it has
the lock of the name. In between workers may have claimed the very occurrence that the cycle has
computed. An upsert is early if its fire time is not due yet when it takes effect.

* `Dispatch` and `Dispatch.Step` are cycles and workers at work on one store, in any order.
* `Dispatch.Sound` is the invariant of all runs in which upserts are early.
* `Dispatch.once_of_early_twice_of_late`: if all upserts of a job are early, no occurrence of it is
  claimed twice; one late upsert is enough for an occurrence to be claimed twice.
-/

namespace JobDispatch

/-- A cycle under way: the reading of the clock that it started with and the jobs that are left. -/
structure Cycle (Body : Type) where
  upkeep : Upkeep
  now : Instant
  jobs : List (Registration Body)

/-- Cycles and workers that share a store and a clock; `claimed` are the entries that workers have
taken so far. -/
structure Dispatch (Body : Type) where
  store : Store
  time : Instant
  cycles : List (Cycle Body)
  claimed : List Entry

namespace Dispatch

variable {Body : Type} {config : Upkeep → Registry Body → Prop} {jobName : String}

/-! ### Runs -/

/-- The entry that a claim has taken, if any. -/
def taken : Except Halt (Except StoreError (Option Entry)) → List Entry
  | .ok (.ok (some e)) => [e]
  | _ => []

/-- After the upsert of one job of a cycle that started at `now`. -/
def upserted (c : Dispatch Body) (u : Upkeep) (r : Registration Body) (now : Instant)
    (cycles : List (Cycle Body)) : Dispatch Body :=
  { c with store := ((u.upsert r now).runAt c.time c.store).2, cycles }

/-- After a claim of a worker. -/
def workedOn (c : Dispatch Body) (lockTimeout : Duration) : Dispatch Body :=
  let (outcome, store) := (Worker.claim lockTimeout).run.runAt c.time c.store
  { c with store, claimed := c.claimed ++ taken outcome }

/-- What can happen while instances with the given configurations share a store. Each upsert and
each claim is one transaction. Other work may change the store, but not the entries of the job
`jobName`. An upsert of that job takes effect only at readings of the clock that are allowed for
its fire time. -/
inductive Step (config : Upkeep → Registry Body → Prop) (jobName : String)
    (allowed : Instant → Instant → Prop) : Dispatch Body → Dispatch Body → Prop
  | wait (c : Dispatch Body) (later : Instant) (h : 0 ≤ later.since c.time) :
      Step config jobName allowed c { c with time := later }
  | start (c : Dispatch Body) (u : Upkeep) (g : Registry Body) (h : config u g) :
      Step config jobName allowed c { c with cycles := c.cycles ++ [⟨u, c.time, g.periodic⟩] }
  | upsert (c : Dispatch Body) (before after : List (Cycle Body)) (u : Upkeep) (now : Instant)
      (r : Registration Body) (rest : List (Registration Body))
      (hcycles : c.cycles = before ++ ⟨u, now, r :: rest⟩ :: after)
      (hallowed : ∀ next, r.name = jobName → u.Computes r now next → allowed next c.time) :
      Step config jobName allowed c (c.upserted u r now (before ++ ⟨u, now, rest⟩ :: after))
  | claim (c : Dispatch Body) (lockTimeout : Duration) :
      Step config jobName allowed c (c.workedOn lockTimeout)
  | work (c : Dispatch Body) (store : Store) (hsaved : store.saved = none)
      (hkeyed : store.tables.Keyed store.turn)
      (hjob : ∀ e : Entry, e.jobName = jobName →
        (e ∈ store.tables.queue ↔ e ∈ c.store.tables.queue)) :
      Step config jobName allowed c { c with store }

/-- Some number of steps, in any order. -/
abbrev Run (config : Upkeep → Registry Body → Prop) (jobName : String)
    (allowed : Instant → Instant → Prop) : Dispatch Body → Dispatch Body → Prop :=
  Relation.ReflTransGen (Step config jobName allowed)

/-- The fire time is not due yet. -/
def Early (next clock : Instant) : Prop := ¬ next ≤ clock.stored

/-- No transaction is open, no cycle is under way, no entry has been claimed, and the job has at
most one entry. -/
structure Starts (jobName : String) (c : Dispatch Body) : Prop where
  closed : c.store.saved = none
  keyed : c.store.tables.Keyed c.store.turn
  single : c.store.tables.Single jobName
  cycles : c.cycles = []
  claimed : c.claimed = []

/-- No two claimed entries of the job have the same earliest time. -/
def Once (jobName : String) (c : Dispatch Body) : Prop :=
  c.claimed.Pairwise fun e e' =>
    e.jobName = jobName → e'.jobName = jobName → e.notBefore ≠ e'.notBefore

/-! ### The invariant -/

/-- The job has at most one entry. Claimed entries are due, and none of them has the earliest time
of the entry that waits. -/
structure Sound (jobName : String) (c : Dispatch Body) : Prop where
  closed : c.store.saved = none
  keyed : c.store.tables.Keyed c.store.turn
  single : c.store.tables.Single jobName
  due : ∀ e ∈ c.claimed, e.Due c.time.stored
  fresh : ∀ e ∈ c.store.tables.queue, e.jobName = jobName →
    ∀ e' ∈ c.claimed, e'.jobName = jobName → e'.notBefore ≠ e.notBefore
  once : c.Once jobName

lemma Starts.sound {c : Dispatch Body} (h : c.Starts jobName) : c.Sound jobName where
  closed := h.closed
  keyed := h.keyed
  single := h.single
  due := fun e he => by rw [h.claimed] at he; cases he
  fresh := fun e _ _ e' he' => by rw [h.claimed] at he'; cases he'
  once := by rw [Once, h.claimed]; exact .nil

/-- What is due stays due. -/
lemma due_of_le {e : Entry} {now later : Instant} (h : e.Due now.stored)
    (hle : now.toNanos ≤ later.toNanos) : e.Due later.stored := by
  have hstored : now.stored ≤ later.stored :=
    (Instant.stored_le_iff now later).mpr (Instant.stored_le_stored hle)
  rw [Entry.Due] at h ⊢
  cases hat : e.notBefore with
  | none => trivial
  | some t =>
      rw [hat] at h
      exact Instant.le_trans h hstored

/-- The invariant depends on the queue, the clock and the claimed entries only. -/
lemma Sound.of_queue_eq {c c' : Dispatch Body} (hc : c.Sound jobName)
    (hsaved : c'.store.saved = none) (hqueue : c'.store.tables.queue = c.store.tables.queue)
    (hturn : c.store.turn ≤ c'.store.turn) (htime : c.time.toNanos ≤ c'.time.toNanos)
    (hclaimed : c'.claimed = c.claimed) : c'.Sound jobName where
  closed := hsaved
  keyed := ⟨hqueue ▸ hc.keyed.distinct, hqueue ▸ (hc.keyed.mono hturn).drawn⟩
  single := by rw [Tables.Single, hqueue]; exact hc.single
  due := fun e he => due_of_le (hc.due e (hclaimed ▸ he)) htime
  fresh := by rw [hqueue, hclaimed]; exact hc.fresh
  once := by rw [Once, hclaimed]; exact hc.once

/-- An early upsert keeps the invariant: the fire time that it writes has not been claimed, as
claimed entries are due. -/
lemma Sound.upserted {c : Dispatch Body} (hc : c.Sound jobName) {u : Upkeep}
    {r : Registration Body} {now : Instant} (cycles : List (Cycle Body))
    (hearly : ∀ next, r.name = jobName → u.Computes r now next → Early next c.time) :
    (c.upserted u r now cycles).Sound jobName := by
  by_cases hnext : ∃ next, u.Computes r now next
  · obtain ⟨next, hnext⟩ := hnext
    obtain ⟨outcome, s, hrun, h⟩ :=
      (Upkeep.upsert_ends hnext (s := .still c.store c.time) hc.closed).runAt
    have hstore : (c.upserted u r now cycles).store = s.store := by
      rw [Dispatch.upserted, hrun]
    cases outcome with
    | error fault =>
        exact hc.of_queue_eq (hstore ▸ h.2.saved) (by rw [hstore, h.2.tables]; rfl)
          (hstore ▸ h.2.turn) (Int.le_refl _) rfl
    | ok plan =>
        obtain ⟨rfl, d, hd, hd', hleaves⟩ := h
        have hkeyed : (c.store.tables.planned d r.name
            (.make (c.store.tables.pendingOf r.name) next now u.margin)).Keyed d.turn :=
          hc.keyed.planned hd
        refine ⟨hstore ▸ hleaves.saved, ?_, ?_, hc.due, fun e he hname e' he' hname' => ?_,
          hc.once⟩
        · rw [hstore, hleaves.tables]
          exact hkeyed.mono hd'
        · rw [hstore, hleaves.tables]
          exact hc.single.planned
        · rw [hstore, hleaves.tables] at he
          rcases Tables.mem_planned hc.keyed he with he | ⟨hjob, hat⟩
          · exact hc.fresh e he hname e' he' hname'
          · intro hsame
            have hdue := hc.due e' he'
            obtain ⟨secs, rfl⟩ := hnext.whole
            rw [Entry.Due, hsame, hat, Instant.stored_ofSecs] at hdue
            exact hearly _ (hjob.symm.trans hname) hnext hdue
  · have hstore : (c.upserted u r now cycles).store = c.store := by
      obtain hidle | ⟨_, hidle⟩ :=
        Upkeep.upsert_idle (fun next h => hnext ⟨next, h⟩) c.store c.time <;>
      rw [Dispatch.upserted, hidle]
    exact hc.of_queue_eq (hstore ▸ hc.closed) (by rw [hstore]) (Nat.le_of_eq (by rw [hstore]))
      (Int.le_refl _) rfl

/-- A claim keeps the invariant: it takes the entry of the job away. -/
lemma Sound.workedOn {c : Dispatch Body} (hc : c.Sound jobName) (lockTimeout : Duration) :
    (c.workedOn lockTimeout).Sound jobName := by
  obtain ⟨outcome, s, hrun, h⟩ := Script.Ends.runAt
    (Worker.claim_ends lockTimeout (s := .still c.store c.time) hc.closed)
  have hworked : c.workedOn lockTimeout =
      { c with store := s.store, claimed := c.claimed ++ taken (.ok outcome) } := by
    rw [Dispatch.workedOn, hrun]
  rw [hworked]
  cases outcome with
  | error fault =>
      exact hc.of_queue_eq h.2.saved (congrArg Tables.queue h.2.tables) h.2.turn (Int.le_refl _)
        (List.append_nil _)
  | ok taken =>
      obtain ⟨rfl, -, hleaves⟩ | ⟨e, he, hdue, rfl, hleaves⟩ := h
      · exact hc.of_queue_eq hleaves.saved (congrArg Tables.queue hleaves.tables) hleaves.turn
          (Int.le_refl _) (List.append_nil _)
      · have hmem {a : Entry} (ha : a ∈ s.store.tables.queue) :
            a ∈ c.store.tables.queue ∧ a.id ≠ e.id := Tables.mem_without.mp (hleaves.tables ▸ ha)
        refine ⟨hleaves.saved, ?_, fun a ha a' ha' => ?_, fun a ha => ?_,
          fun a ha hname a' ha' hname' => ?_, ?_⟩
        · rw [hleaves.tables]
          exact (hc.keyed.without e.id).mono hleaves.turn
        · exact hc.single a (hmem ha).1 a' (hmem ha').1
        · rcases List.mem_append.mp ha with ha | ha
          · exact hc.due a ha
          · exact List.mem_singleton.mp ha ▸ hdue
        · rcases List.mem_append.mp ha' with ha' | ha'
          · exact hc.fresh a (hmem ha).1 hname a' ha' hname'
          · rw [List.mem_singleton.mp ha'] at hname'
            exact absurd (congrArg Entry.id (hc.single a (hmem ha).1 e he hname hname'))
              (hmem ha).2
        · refine List.pairwise_append.mpr ⟨hc.once, List.pairwise_singleton _ _, ?_⟩
          intro a ha a' ha' hname hname'
          rw [List.mem_singleton.mp ha'] at hname' ⊢
          exact hc.fresh e he hname' a ha hname

/-- Each step with early upserts keeps the invariant. -/
lemma Sound.step {c c' : Dispatch Body} (hc : c.Sound jobName)
    (h : Step config jobName Early c c') : c'.Sound jobName := by
  cases h with
  | wait later htime =>
      exact hc.of_queue_eq hc.closed rfl (Nat.le_refl _) (Int.sub_nonneg.mp htime) rfl
  | start u g _ => exact hc.of_queue_eq hc.closed rfl (Nat.le_refl _) (Int.le_refl _) rfl
  | upsert before after u now r rest hcycles hallowed => exact hc.upserted _ hallowed
  | claim lockTimeout => exact hc.workedOn lockTimeout
  | work store hsaved hkeyed hjob =>
      refine ⟨hsaved, hkeyed, fun e he e' he' hname hname' => ?_, hc.due, fun e he hname => ?_,
        hc.once⟩
      · exact hc.single e ((hjob e hname).mp he) e' ((hjob e' hname').mp he') hname hname'
      · exact hc.fresh e ((hjob e hname).mp he) hname

/-- Each run with early upserts keeps the invariant. -/
lemma Sound.run {c c' : Dispatch Body} (hc : c.Sound jobName)
    (h : Run config jobName Early c c') : c'.Sound jobName := by
  induction h with
  | refl => exact hc
  | tail _ hstep ih => exact ih.step hstep

/-! ### A late upsert -/

/-- No transaction is open, no fault is left, and these entries wait. -/
structure AtRest (st : Store) (queue : List Entry) : Prop where
  closed : st.saved = none
  faults : st.faults = []
  queue : st.tables.queue = queue

/-- An upsert adds an entry to an empty queue. -/
lemma AtRest.upserted {c : Dispatch Body} (h : AtRest c.store []) {u : Upkeep}
    {r : Registration Body} {now next : Instant} (hname : nameRefusal? r.name = none)
    (hnext : u.Computes r now next) (cycles : List (Cycle Body)) :
    ∃ e : Entry, e.jobName = r.name ∧ e.notBefore = some next ∧
      AtRest (c.upserted u r now cycles).store [e] := by
  obtain ⟨outcome, s, hrun, hs⟩ :=
    (Upkeep.upsert_ends hnext (s := .still c.store c.time) h.closed).runAt
  have hstore : (c.upserted u r now cycles).store = s.store := by
    rw [Dispatch.upserted, hrun]
  cases outcome with
  | error fault => exact hs.1.elim (absurd h.faults) (absurd hname)
  | ok plan =>
      obtain ⟨rfl, d, -, -, hleaves⟩ := hs
      have hpending : c.store.tables.pendingOf r.name = none := by
        rw [Tables.pendingOf, h.queue]
        rfl
      refine ⟨Tables.newEntry d r.name next, rfl, ?_, ?_⟩
      · obtain ⟨secs, rfl⟩ := hnext.whole
        exact congrArg some (Instant.stored_ofSecs secs)
      · rw [hstore]
        refine ⟨hleaves.saved, hleaves.faults h.faults, ?_⟩
        rw [hleaves.tables]
        show (c.store.tables.planned d r.name
          (.make (c.store.tables.pendingOf r.name) next now u.margin)).queue = _
        rw [hpending]
        show c.store.tables.queue ++ [Tables.newEntry d r.name next] = _
        rw [h.queue]
        rfl

/-- A claim takes the only entry once it is due. -/
lemma AtRest.claim {st : Store} {e : Entry} {clock : Instant} (h : AtRest st [e])
    (hdue : e.Due clock.stored) (lockTimeout : Duration) :
    ∃ st', (Worker.claim lockTimeout).run.runAt clock st = (.ok (.ok (some e)), st') ∧
      AtRest st' [] := by
  obtain ⟨outcome, s, hrun, hs⟩ := Script.Ends.runAt
    (Worker.claim_ends lockTimeout (s := .still st clock) h.closed)
  have hmem : e ∈ st.tables.queue := by
    rw [h.queue]
    exact List.mem_singleton_self e
  cases outcome with
  | error fault => exact absurd h.faults hs.1
  | ok taken =>
      obtain ⟨-, hnone, -⟩ | ⟨a, ha, -, rfl, hleaves⟩ := hs
      · rw [List.eq_nil_iff_forall_not_mem] at hnone
        exact absurd ((Tables.mem_due _).mpr ⟨hmem, hdue⟩) (hnone e)
      · obtain rfl : a = e := List.mem_singleton.mp (h.queue ▸ ha)
        refine ⟨_, hrun, hleaves.saved, hleaves.faults h.faults, ?_⟩
        have hqueue : s.store.tables.queue = st.tables.queue.filter fun b => b.id ≠ a.id :=
          congrArg Tables.queue hleaves.tables
        rw [hqueue, h.queue]
        simp

lemma AtRest.workedOn {c : Dispatch Body} {e : Entry} (h : AtRest c.store [e])
    (hdue : e.Due c.time.stored) (lockTimeout : Duration) :
    (c.workedOn lockTimeout).claimed = c.claimed ++ [e] ∧
      AtRest (c.workedOn lockTimeout).store [] := by
  obtain ⟨st', hrun, hrest⟩ := h.claim hdue lockTimeout
  rw [Dispatch.workedOn, hrun]
  exact ⟨rfl, hrest⟩

/-- Nothing has happened yet. -/
def opening (now : Instant) : Dispatch Body := ⟨.new, now, [], []⟩

lemma starts_opening (jobName : String) (now : Instant) :
    (opening now : Dispatch Body).Starts jobName where
  closed := rfl
  keyed := ⟨List.nodup_nil, fun e he => by cases he⟩
  single := fun e he => by cases he
  cycles := rfl
  claimed := rfl

/-- From a store at rest, the next upsert of a cycle adds an entry, and a worker claims it as soon
as it is due. -/
lemma AtRest.claims {c : Dispatch Body} (h : AtRest c.store []) {u : Upkeep}
    {r : Registration Body} {now next clock : Instant} (allowed : Instant → Instant → Prop)
    (before after : List (Cycle Body)) (rest : List (Registration Body))
    (hcycles : c.cycles = before ++ ⟨u, now, r :: rest⟩ :: after)
    (hname : nameRefusal? r.name = none) (hnext : u.Computes r now next)
    (hallowed : allowed next c.time) (hafter : 0 ≤ clock.since c.time)
    (hdue : next ≤ clock.stored) :
    ∃ c' e, Run config r.name allowed c c' ∧ AtRest c'.store [] ∧ c'.time = clock ∧
      c'.cycles = before ++ ⟨u, now, rest⟩ :: after ∧ c'.claimed = c.claimed ++ [e] ∧
      e.jobName = r.name ∧ e.notBefore = some next := by
  obtain ⟨e, hjob, hat, hrest⟩ := h.upserted hname hnext (before ++ ⟨u, now, rest⟩ :: after)
  have hupsert : Run config r.name allowed c
      (c.upserted u r now (before ++ ⟨u, now, rest⟩ :: after)) :=
    .single (.upsert c before after u now r rest hcycles fun next' _ hnext' =>
      hnext.unique hnext' ▸ hallowed)
  have hwaited := hupsert.tail (.wait _ clock hafter)
  obtain ⟨hclaimed, hrest'⟩ := AtRest.workedOn
    (c := { c.upserted u r now (before ++ ⟨u, now, rest⟩ :: after) with time := clock }) hrest
    (by rw [Entry.Due, hat]; exact hdue) (.ofSecs 1)
  exact ⟨_, e, hwaited.tail (.claim _ (.ofSecs 1)), hrest', rfl, rfl, hclaimed, hjob, hat⟩

/-- A cycle of instances whose only job is periodic starts. -/
lemma step_start {u : Upkeep} {r : Registration Body} {now next : Instant}
    (hnext : u.Computes r now next) (allowed : Instant → Instant → Prop) (c : Dispatch Body) :
    Step (fun v g => v = u ∧ g = ⟨[r]⟩) r.name allowed c
      { c with cycles := c.cycles ++ [⟨u, c.time, [r]⟩] } := by
  rw [← hnext.periodic]
  exact .start c u _ ⟨rfl, congrArg Registry.mk hnext.periodic.symm⟩

/-- A cycle starts at `now`. Its upsert takes effect at once, and a worker claims the entry at
`clock`. -/
lemma claimed_of_early {u : Upkeep} {r : Registration Body} {now next clock : Instant}
    (hname : nameRefusal? r.name = none) (hnext : u.Computes r now next) (hearly : Early next now)
    (hafter : 0 ≤ clock.since now) (hdue : next ≤ clock.stored) :
    ∃ c e, Run (fun v g => v = u ∧ g = ⟨[r]⟩) r.name Early (opening now) c ∧
      c.claimed = [e] ∧ e.notBefore = some next := by
  obtain ⟨c, e, hrun, -, -, -, hclaimed, -, hat⟩ := AtRest.claims
    (c := ⟨.new, now, [⟨u, now, [r]⟩], []⟩) ⟨rfl, rfl, rfl⟩ Early [] [] [] rfl hname hnext hearly
    hafter hdue
  exact ⟨c, e, (Relation.ReflTransGen.single (step_start hnext _ _)).trans hrun, hclaimed, hat⟩

/-- Two cycles start at `now`. One upsert takes effect at once, the other at `clock`, when the fire
time is due and a worker has claimed it already. -/
lemma twice_of_late {u : Upkeep} {r : Registration Body} {now next clock : Instant}
    (hname : nameRefusal? r.name = none) (hnext : u.Computes r now next)
    (hafter : 0 ≤ clock.since now) (hlate : next ≤ clock.stored) :
    ∃ c e e', Run (fun v g => v = u ∧ g = ⟨[r]⟩) r.name
        (fun _ reading => reading = now ∨ reading = clock) (opening now) c ∧
      c.claimed = [e, e'] ∧ e.jobName = r.name ∧ e'.jobName = r.name ∧
      e.notBefore = some next ∧ e'.notBefore = some next := by
  have htwo : Run (fun v g => v = u ∧ g = ⟨[r]⟩) r.name
      (fun _ reading => reading = now ∨ reading = clock) (opening now)
      ⟨.new, now, [⟨u, now, [r]⟩, ⟨u, now, [r]⟩], []⟩ :=
    .tail (.single (step_start hnext _ _)) (step_start hnext _ _)
  obtain ⟨c, e, hrun, hrest, htime, hcycles, hclaimed, hjob, hat⟩ := AtRest.claims
    (c := ⟨.new, now, [⟨u, now, [r]⟩, ⟨u, now, [r]⟩], []⟩) ⟨rfl, rfl, rfl⟩
    (fun _ reading => reading = now ∨ reading = clock) [] [⟨u, now, [r]⟩] [] rfl
    hname hnext (.inl rfl) hafter hlate
  obtain ⟨c', e', hrun', -, -, -, hclaimed', hjob', hat'⟩ := hrest.claims
    (fun _ reading => reading = now ∨ reading = clock) [⟨u, now, []⟩] [] [] hcycles
    hname hnext (.inr htime) (by simp [htime, Instant.since]) hlate
  refine ⟨c', e, e', (htwo.trans hrun).trans hrun', ?_, hjob, hjob', hat, hat'⟩
  rw [hclaimed', hclaimed]
  rfl

/-- **Occurrences**.  If every upsert of a job takes effect before the fire time that it has
computed is due, then no two entries of the job with the same earliest time are claimed, whatever
the instances do. An upsert that takes effect later undoes this: in a run where all other upserts
take effect at once, the same fire time is claimed twice. -/
theorem once_of_early_twice_of_late :
    (∀ (config : Upkeep → Registry Body → Prop) (jobName : String) (c₀ c : Dispatch Body),
      c₀.Starts jobName → Run config jobName Early c₀ c → c.Once jobName) ∧
    (∀ (u : Upkeep) (r : Registration Body) (now next clock : Instant),
      nameRefusal? r.name = none → u.Computes r now next → 0 ≤ clock.since now →
      ¬ Early next clock →
      (opening now : Dispatch Body).Starts r.name ∧
      ∃ c e e', Run (fun v g => v = u ∧ g = ⟨[r]⟩) r.name
          (fun _ reading => reading = now ∨ reading = clock) (opening now) c ∧
        c.claimed = [e, e'] ∧ e.jobName = r.name ∧ e'.jobName = r.name ∧
        e.notBefore = some next ∧ e'.notBefore = some next) := by
  refine ⟨fun config jobName c₀ c hstart hrun => (hstart.sound.run hrun).once,
    fun u r now next clock hname hnext hafter hlate => ?_⟩
  exact ⟨starts_opening r.name now, twice_of_late hname hnext hafter (Decidable.not_not.mp hlate)⟩

/-! ### A job of every minute -/

/-- What instances are set up with: times are read in UTC. -/
def inUtc : Upkeep := ⟨Zone.utc, defaultMargin, .ofSecs 5⟩

/-- The next time of a schedule, as it is written, makes out that of its jobs. -/
lemma computes_of_parse (text : String) (now next : Instant)
    (h : (Schedule.parse text).toOption.map (·.nextAfter now .utc) = some (.at next)) :
    ∃ schedule, Schedule.parse text = .ok schedule ∧ ∀ (Body : Type) (r : Registration Body),
      r.schedule = some schedule → inUtc.Computes r now next := by
  cases hparse : Schedule.parse text with
  | error fault => rw [hparse] at h; cases h
  | ok schedule =>
      rw [hparse] at h
      exact ⟨schedule, rfl, fun _ _ hr => ⟨schedule, hr, Option.some.inj h⟩⟩

/-- A job of every minute, asked half a minute before it fires. -/
lemma minutely_computes : ∃ schedule, Schedule.parse "* * * * *" = .ok schedule ∧
    inUtc.Computes ⟨"minutely", some schedule, .none, ()⟩ ⟨1577836830, 0⟩ ⟨1577836860, 0⟩ := by
  obtain ⟨schedule, hparse, hnext⟩ :=
    computes_of_parse "* * * * *" ⟨1577836830, 0⟩ ⟨1577836860, 0⟩ (by decide +kernel)
  exact ⟨schedule, hparse, hnext Unit _ rfl⟩

/-- A cycle starts half a minute before the job fires, its upsert takes effect at once, and a worker
claims the occurrence at the minute. -/
theorem once_each_minute : ∃ schedule c e, Schedule.parse "* * * * *" = .ok schedule ∧
    Run (fun u g => u = inUtc ∧ g = ⟨[⟨"minutely", some schedule, .none, ()⟩]⟩) "minutely" Early
      (opening ⟨1577836830, 0⟩) c ∧
    c.claimed = [e] ∧ e.notBefore = some ⟨1577836860, 0⟩ ∧ c.Once "minutely" := by
  obtain ⟨schedule, hparse, hnext⟩ := minutely_computes
  have hname : nameRefusal? "minutely" = none := by decide +kernel
  have hdue : (⟨1577836860, 0⟩ : Instant) ≤ (⟨1577836860, 0⟩ : Instant).stored := by decide
  have hearly : ¬ (⟨1577836860, 0⟩ : Instant) ≤ (⟨1577836830, 0⟩ : Instant).stored := by decide
  obtain ⟨c, e, hrun, hclaimed, hat⟩ := claimed_of_early hname hnext hearly (by decide) hdue
  exact ⟨schedule, c, e, hparse, hrun, hclaimed, hat,
    once_of_early_twice_of_late.1 _ _ _ _ (starts_opening _ _) hrun⟩

/-- Two cycles start half a minute before the job fires. The upsert of the second takes effect at
the minute, after a worker has claimed the entry of the first, and adds the same occurrence once
more. -/
theorem twice_each_minute : ∃ schedule, ∃ c₀ c : Dispatch Unit,
    Schedule.parse "* * * * *" = .ok schedule ∧
    c₀.Starts "minutely" ∧
    Run (fun u g => u = inUtc ∧ g = ⟨[⟨"minutely", some schedule, .none, ()⟩]⟩) "minutely"
      (fun _ reading => reading = ⟨1577836830, 0⟩ ∨ reading = ⟨1577836860, 0⟩) c₀ c ∧
    ¬ c.Once "minutely" := by
  obtain ⟨schedule, hparse, hnext⟩ := minutely_computes
  have hname : nameRefusal? "minutely" = none := by decide +kernel
  have hlate : (⟨1577836860, 0⟩ : Instant) ≤ (⟨1577836860, 0⟩ : Instant).stored := by decide
  obtain ⟨c, e, e', hrun, hclaimed, hjob, hjob', hat, hat'⟩ := twice_of_late hname hnext
    (by decide) hlate
  refine ⟨schedule, _, c, hparse, starts_opening _ _, hrun, fun honce => ?_⟩
  rw [Once, hclaimed] at honce
  have hdiffer := List.rel_of_pairwise_cons honce (List.mem_singleton_self e') hjob hjob'
  exact hdiffer (hat.trans hat'.symm)

end Dispatch

end JobDispatch
