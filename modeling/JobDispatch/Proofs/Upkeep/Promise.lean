import JobDispatch.Coordinator.Instance
import JobDispatch.Proofs.Election.Attempt
import JobDispatch.Proofs.Upkeep.Occurrence

/-!
When an entry that was asked for is claimed.

A request may name the earliest time of its entry. Workers heed the time that the entry has, but a
cycle moves an entry that bears the name of a periodic job: while the entry is further away than the
margin, it is brought to the time at which the job fires next, be that earlier or later.

* `Instance.enqueue_ends`: a request that is accepted adds its entry to the queue.
* `Agenda` and `Agenda.Step` are instances at work on one store, in any order.
* `Agenda.Bound` is what holds of the entry of a request in all runs, `Agenda.Sound` the invariant.
* `Agenda.heeded_unless_moved`: an entry is not claimed before the time that was asked for, or the
  time to which a cycle has moved it last.
* `Agenda.brought_forward`: an entry is claimed before the time that was asked for.
-/

namespace JobDispatch

/-! ### Requests and checks -/

/-- What a request has come to: its entry is at the end of the queue, or nothing is different. -/
def Request.Enters (r : Request) (s : Session) (outcome : Except OperationError EntryId)
    (s' : Session) : Prop :=
  match outcome with
  | .error _ => s.Leaves s' s.store.tables
  | .ok id => ∃ d : Tables.Draw, s.store.turn < d.turn ∧ d.turn ≤ s'.store.turn ∧
      id = .drawn d.turn ∧
      s.Leaves s' (s.store.tables.insertEntry d r.jobName r.notBefore r.parameters).2

lemma Request.Enters.of_same {r : Request} {s s₁ s' : Session}
    {outcome : Except OperationError EntryId} (h : r.Enters s₁ outcome s')
    (hstore : s₁.store = s.store) (hclock : s₁.clock = s.clock) : r.Enters s outcome s' := by
  cases outcome with
  | error fault =>
      have hleaves : s₁.Leaves s' s₁.store.tables := h
      rw [hstore] at hleaves
      exact hleaves.of_same hstore hclock
  | ok id =>
      obtain ⟨d, hbefore, hafter, hid, hleaves⟩ := h
      rw [hstore] at hbefore hleaves
      exact ⟨d, hbefore, hafter, hid, hleaves.of_same hstore hclock⟩

/-- A new entry is inserted, or nothing is different. -/
lemma Request.insert_ends (r : Request) {s : Session} (hsaved : s.store.saved = none) :
    (Attempt.query (.insertEntry r.jobName r.notBefore r.parameters)).Ends s
      (fun (entry : Entry) s' => r.Enters s (.ok entry.id) s')
      fun _ s' => s.Leaves s' s.store.tables := by
  refine Attempt.ends_query (fun d entry s' happly hs' => ?_) fun fault s' _ hkeeps =>
    hkeeps.leaves hsaved
  obtain ⟨rfl, htables⟩ := Prod.mk.inj (Except.ok.inj (Tables.apply_eq_ok.mp happly).2)
  have hbefore : s.store.turn < d.turn := hs'.drawn ▸ Nat.lt_succ_self _
  have hafter : d.turn ≤ s'.store.turn := Nat.le_of_eq hs'.turn.symm
  exact ⟨d, hbefore, hafter, rfl, hs'.clock, htables.symm, hs'.saved.trans hsaved,
    Nat.le_trans (Nat.le_of_lt hbefore) hafter, hs'.faults⟩

/-- A notice may be logged first. -/
lemma Script.ends_noted {α : Type} {p : Script α} {s : Session} {post : α → Session → Prop}
    (c : Prop) [Decidable c] (n : Notice)
    (h : ∀ s₁ : Session, s₁.store = s.store → s₁.clock = s.clock → p.Ends s₁ post) :
    (if c then log n >>= fun _ => p else p).Ends s post := by
  by_cases hc : c
  · rw [if_pos hc]
    exact (ends_bind _ _).mpr ((ends_log n).mpr (h (s.logged n) rfl rfl))
  · rw [if_neg hc]
    exact h s rfl rfl

lemma Instance.enqueue_ends (i : Instance) (r : Request) {s : Session}
    (hsaved : s.store.saved = none) : (i.enqueue r).Ends s (r.Enters s) := by
  rw [enqueue]
  cases r.validate with
  | error fault => exact (Script.ends_pure _).mpr (Session.leaves_self hsaved)
  | ok _ =>
      refine Script.ends_noted _ _ fun s₁ hstore hclock => (Script.ends_bind _ _).mpr
        (Script.Ends.mono (r.insert_ends (hstore ▸ hsaved)) fun outcome s' h => ?_)
      cases outcome with
      | error fault =>
          have hunchanged : r.Enters s₁ (.error (.store fault)) s' := h
          exact (Script.ends_pure _).mpr (hunchanged.of_same hstore hclock)
      | ok entry =>
          obtain ⟨d, hbefore, hafter, hid, hleaves⟩ := h
          have henters : r.Enters s₁ (.ok entry.id) (s'.logged .enqueued) :=
            ⟨d, hbefore, hafter, hid, hleaves.logged _⟩
          exact (Script.ends_bind _ _).mpr ((Script.ends_log _).mpr ((Script.ends_pure _).mpr
            (henters.of_same hstore hclock)))

/-- Attempts to lead leave the queue alone. -/
lemma Elector.queue_settled (e : Elector) (now : Instant) (t : Tables) :
    (e.settled now t).2.queue = t.queue := by
  rw [settled]
  cases Lease.decide t.lease e.instanceId now e.span <;> rfl

/-- A check reads the lease and leaves the tables alone. -/
lemma Elector.isLeader_ends (e : Elector) {s : Session} (hsaved : s.store.saved = none) :
    e.isLeader.Ends s fun _ s' => s.Leaves s' s.store.tables := by
  have hcheck : e.checkLeader.Ends s (fun _ s' => s.Leaves s' s.store.tables)
      fun _ s' => s.Leaves s' s.store.tables := by
    refine (Attempt.ends_bind _ _).mpr ((Attempt.ends_timed _ _).mpr (Attempt.ends_query
      (fun d lease s' happly hs' => ?_) fun fault s' _ hkeeps =>
        (hkeeps.measured _).leaves hsaved))
    obtain ⟨-, htables⟩ := Prod.mk.inj (Except.ok.inj (Tables.apply_eq_ok.mp happly).2)
    have hleaves := ((hs'.keeps htables.symm).measured (.queryTimed "find_lease")).leaves hsaved
    exact (Attempt.ends_bind _ _).mpr ((Attempt.ends_lift _).mpr (Script.ends_now.mpr
      ((Attempt.ends_pure _).mpr ⟨hleaves.clock, hleaves.tables, hleaves.saved, hleaves.turn,
        hleaves.faults⟩)))
  refine (Script.ends_bind _ _).mpr (Script.Ends.mono hcheck fun outcome s' h => ?_)
  cases outcome with
  | ok leads => exact (Script.ends_pure _).mpr h
  | error fault =>
      exact (Script.ends_bind _ _).mpr ((Script.ends_log _).mpr ((Script.ends_pure _).mpr
        (Session.Leaves.logged h _)))

/-! ### Moves -/

/-- The move of a waiting entry to the next time of its job, by a cycle that started at `now`. -/
structure Move where
  upkeep : Upkeep
  job : Registration Body
  now : Instant
  id : EntryId
  next : Instant

namespace Move

section

variable (config : Upkeep → Registry Body → Prop) (jobName : String) (id : EntryId)
  (asked : Instant)

/-- The time for which the entry of a request for `asked` is set after the moves, of which the
latest comes first. -/
def appointed : List Move → Instant
  | [] => asked
  | m :: older => if m.id = id then m.next else appointed older

/-- A cycle moves an entry that was set for `current` because its job, which is periodic for the
instance, fires next at another time, and the entry is further away than the margin. -/
structure Reconciles (m : Move) (current : Instant) : Prop where
  periodic : ∃ g, config m.upkeep g ∧ m.job ∈ g.periodic
  name : m.job.name = jobName
  fires : m.upkeep.Computes m.job m.now m.next
  distant : m.upkeep.margin < current.stored.since m.now
  differs : current.stored ≠ m.next

/-- There is a reason for each move of the entry. -/
def AllReconcile : List Move → Prop
  | [] => True
  | m :: older =>
    (m.id = id → m.Reconciles config jobName (appointed id asked older)) ∧ AllReconcile older

end

variable {config : Upkeep → Registry Body → Prop} {jobName : String} {id : EntryId}
  {asked : Instant} {m : Move} {moves : List Move}

lemma appointed_of_eq (h : m.id = id) : appointed id asked (m :: moves) = m.next := if_pos h

lemma appointed_of_ne (h : m.id ≠ id) :
    appointed id asked (m :: moves) = appointed id asked moves := if_neg h

/-- An entry that has not been moved is set for the time that was asked for. -/
lemma appointed_of_forall_ne (h : ∀ m ∈ moves, m.id ≠ id) : appointed id asked moves = asked := by
  induction moves with
  | nil => rfl
  | cons m older ih =>
      rw [appointed_of_ne (h m (.head _))]
      exact ih fun m hm => h m (.tail _ hm)

lemma allReconcile_of_forall_ne (h : ∀ m ∈ moves, m.id ≠ id) :
    AllReconcile config jobName id asked moves := by
  induction moves with
  | nil => trivial
  | cons m older ih =>
      exact ⟨fun heq => absurd heq (h m (.head _)), ih fun m hm => h m (.tail _ hm)⟩

/-- The entries of jobs that are periodic nowhere are not moved. -/
lemma AllReconcile.appointed_eq (h : AllReconcile config jobName id asked moves)
    (hnone : ∀ u g, config u g → ∀ job ∈ g.periodic, job.name ≠ jobName) :
    appointed id asked moves = asked := by
  induction moves with
  | nil => rfl
  | cons m older ih =>
      by_cases hid : m.id = id
      · obtain ⟨⟨g, hconfig, hjob⟩, hname, -⟩ := h.1 hid
        exact absurd hname (hnone _ g hconfig _ hjob)
      · rw [appointed_of_ne hid]
        exact ih h.2

end Move

/-! ### Runs -/

/-- Instances that share a store and a clock: the cycles under way, the requests that have been
accepted, with the keys of their entries, the moves of entries by cycles, the latest first, and the
entries that workers have claimed, with the readings of the clock at which they did. -/
structure Agenda where
  store : Store
  time : Instant
  cycles : List (Cycle Body)
  accepted : List (EntryId × Request)
  moves : List Move
  claimed : List (Entry × Instant)

/-- The key is not one that a later statement can draw. -/
def EntryId.Used (turn : Nat) (id : EntryId) : Prop := ∀ n, id = .drawn n → n ≤ turn

/-- The time has come at the given reading of the clock. Tables keep instants at a resolution of
their own; from 2000 on the reading itself is not earlier. -/
def Instant.Reached (t clock : Instant) : Prop :=
  t.stored ≤ clock.stored ∧ (tableOrigin ≤ clock.toNanos → 0 ≤ clock.since t.stored)

/-- From 2000 on tables keep no more of a reading than there is. -/
lemma Instant.Reached.of_stored {t clock : Instant} (h : t.stored ≤ clock.stored) :
    t.Reached clock := by
  refine ⟨h, fun hclock => ?_⟩
  have hstored : t.stored.toNanos ≤ clock.stored.toNanos := (stored_le_iff t clock).mp h
  have hcut : clock.stored.toNanos ≤ clock.toNanos := by
    rw [toNanos_stored, Int.tdiv_eq_ediv_of_nonneg (by omega)]
    omega
  exact Int.sub_nonneg.mpr (Int.le_trans hstored hcut)

namespace Agenda

variable {config : Upkeep → Registry Body → Prop}

/-- The move that an upsert has made, if any. -/
def moved (u : Upkeep) (job : Registration Body) (now : Instant) :
    Except Halt (Except StoreError Plan) → List Move
  | .ok (.ok (.reschedule id _ next)) => [⟨u, job, now, id, next⟩]
  | _ => []

/-- The key that the answer to a request gives, if any. -/
def entered : Except Halt (Except OperationError EntryId) → List EntryId
  | .ok (.ok id) => [id]
  | _ => []

/-- After the upsert of one job of a cycle that started at `now`. -/
def upserted (a : Agenda) (u : Upkeep) (job : Registration Body) (now : Instant)
    (cycles : List (Cycle Body)) : Agenda :=
  let (outcome, store) := (u.upsert job now).runAt a.time a.store
  { a with store, cycles, moves := moved u job now outcome ++ a.moves }

/-- After a request. -/
def requested (a : Agenda) (i : Instance) (r : Request) : Agenda :=
  let (outcome, store) := (i.enqueue r).runAt a.time a.store
  { a with store, accepted := (entered outcome).map (·, r) ++ a.accepted }

/-- After a claim of a worker. -/
def workedOn (a : Agenda) (lockTimeout : Duration) : Agenda :=
  let (outcome, store) := (Worker.claim lockTimeout).run.runAt a.time a.store
  { a with store, claimed := (Dispatch.taken outcome).map (·, a.time) ++ a.claimed }

/-- What can happen while instances with the given configurations share a store. Cycles start with
a reading of the clock, and their upserts take effect one by one at any time. -/
inductive Step (config : Upkeep → Registry Body → Prop) : Agenda → Agenda → Prop
  | wait (a : Agenda) (later : Instant) (h : 0 ≤ later.since a.time) :
      Step config a { a with time := later }
  | elect (a : Agenda) (e : Elector) (wasLeader : Bool) :
      Step config a { a with store := ((e.electOnce wasLeader).runAt a.time a.store).2 }
  | check (a : Agenda) (e : Elector) :
      Step config a { a with store := (e.isLeader.runAt a.time a.store).2 }
  | start (a : Agenda) (u : Upkeep) (g : Registry Body) (h : config u g) :
      Step config a { a with cycles := a.cycles ++ [⟨u, a.time, g.periodic⟩] }
  | upsert (a : Agenda) (before after : List (Cycle Body)) (u : Upkeep) (now : Instant)
      (job : Registration Body) (rest : List (Registration Body))
      (hcycles : a.cycles = before ++ ⟨u, now, job :: rest⟩ :: after) :
      Step config a (a.upserted u job now (before ++ ⟨u, now, rest⟩ :: after))
  | request (a : Agenda) (i : Instance) (r : Request) : Step config a (a.requested i r)
  | claim (a : Agenda) (lockTimeout : Duration) : Step config a (a.workedOn lockTimeout)

/-- Some number of steps, in any order. -/
abbrev Run (config : Upkeep → Registry Body → Prop) : Agenda → Agenda → Prop :=
  Relation.ReflTransGen (Step config)

/-- No transaction is open, and nothing has happened yet. -/
structure Starts (a : Agenda) : Prop where
  closed : a.store.saved = none
  keyed : a.store.tables.Keyed a.store.turn
  cycles : a.cycles = []
  accepted : a.accepted = []
  moves : a.moves = []
  claimed : a.claimed = []

/-! ### The invariant -/

/-- While the entry of a request for `asked` waits, it is set for the time of its last move, or for
`asked`. If it has been claimed, the time had come. -/
structure Bound (config : Upkeep → Registry Body → Prop) (a : Agenda) (id : EntryId) (r : Request)
    (asked : Instant) : Prop where
  waits : ∀ e ∈ a.store.tables.queue, e.id = id → e.jobName = r.jobName ∧
    e.notBefore = some (Move.appointed id asked a.moves).stored
  heeded : ∀ c ∈ a.claimed, c.1.id = id →
    (Move.appointed id asked a.moves).stored ≤ c.2.stored
  moved : Move.AllReconcile config r.jobName id asked a.moves

/-- The keys that have been answered or used. -/
def keys (a : Agenda) : List EntryId :=
  a.accepted.map Prod.fst ++ (a.moves.map Move.id ++ a.claimed.map fun c => c.1.id)

/-- No transaction is open, cycles under way are those of periodic jobs, keys are used once, claimed
entries are gone, and entries are bound to what was asked for. -/
structure Sound (config : Upkeep → Registry Body → Prop) (a : Agenda) : Prop where
  closed : a.store.saved = none
  keyed : a.store.tables.Keyed a.store.turn
  cycles : ∀ c ∈ a.cycles, ∃ g, config c.upkeep g ∧ c.jobs ⊆ g.periodic
  used : ∀ id ∈ a.keys, id.Used a.store.turn
  gone : ∀ c ∈ a.claimed, ∀ e ∈ a.store.tables.queue, e.id ≠ c.1.id
  bound : ∀ p ∈ a.accepted, ∀ asked, p.2.notBefore = some asked → a.Bound config p.1 p.2 asked

lemma Starts.sound {a : Agenda} (h : a.Starts) : a.Sound config where
  closed := h.closed
  keyed := h.keyed
  cycles := by rw [h.cycles]; exact nofun
  used := by rw [keys, h.accepted, h.moves, h.claimed]; exact nofun
  gone := by rw [h.claimed]; exact nofun
  bound := by rw [h.accepted]; exact nofun

namespace Sound

variable {a : Agenda}

lemma used_claimed (h : a.Sound config) {c : Entry × Instant} (hc : c ∈ a.claimed) :
    c.1.id.Used a.store.turn :=
  h.used _ (List.mem_append_right _ (List.mem_append_right _ (List.mem_map_of_mem hc)))

lemma used_moved (h : a.Sound config) {m : Move} (hm : m ∈ a.moves) : m.id.Used a.store.turn :=
  h.used _ (List.mem_append_right _ (List.mem_append_left _ (List.mem_map_of_mem hm)))

lemma used_accepted (h : a.Sound config) {p : EntryId × Request} (hp : p ∈ a.accepted) :
    p.1.Used a.store.turn :=
  h.used _ (List.mem_append_left _ (List.mem_map_of_mem hp))

/-- A key that is drawn later is another one. -/
lemma ne_of_used {turn n : Nat} {id : EntryId} (h : id.Used turn) (hn : turn < n) :
    id ≠ .drawn n := fun heq => absurd (h n heq) (Nat.not_le.mpr hn)

/-- Entries with new keys may come, and other entries may go. -/
lemma of_entries (h : a.Sound config) (time : Instant) {store : Store} {cycles : List (Cycle Body)}
    (hsaved : store.saved = none) (hkeyed : store.tables.Keyed store.turn)
    (hturn : a.store.turn ≤ store.turn)
    (hcycles : ∀ c ∈ cycles, ∃ g, config c.upkeep g ∧ c.jobs ⊆ g.periodic)
    (hqueue : ∀ e ∈ store.tables.queue, e ∈ a.store.tables.queue ∨ ¬ e.id.Used a.store.turn) :
    Sound config { a with store, time, cycles } where
  closed := hsaved
  keyed := hkeyed
  cycles := hcycles
  used := fun id hid n hn => Nat.le_trans (h.used id hid n hn) hturn
  gone := fun c hc e he hid => (hqueue e he).elim (fun he => h.gone c hc e he hid)
    fun hnew => hnew (hid ▸ h.used_claimed hc)
  bound := fun p hp asked hasked =>
    have hbound := h.bound p hp asked hasked
    { waits := fun e he hid => (hqueue e he).elim (fun he => hbound.waits e he hid)
        fun hnew => absurd (hid ▸ h.used_accepted hp) hnew
      heeded := hbound.heeded
      moved := hbound.moved }

/-- The queue is left alone. -/
lemma of_leaves (h : a.Sound config) {s : Session} {tables : Tables}
    (hleaves : (Session.still a.store a.time).Leaves s tables)
    (hqueue : tables.queue = a.store.tables.queue) {cycles : List (Cycle Body)}
    (hcycles : ∀ c ∈ cycles, ∃ g, config c.upkeep g ∧ c.jobs ⊆ g.periodic) :
    Sound config { a with store := s.store, cycles } := by
  obtain rfl := hleaves.tables
  have hkeyed := h.keyed.mono hleaves.turn
  exact h.of_entries a.time hleaves.saved ⟨hqueue ▸ hkeyed.distinct, hqueue ▸ hkeyed.drawn⟩
    hleaves.turn hcycles fun _ he => .inl (hqueue ▸ he)

/-- An entry is moved to the next time of its job. -/
lemma of_move (h : a.Sound config) {m : Move} {e : Entry} {current : Instant} {store : Store}
    {cycles : List (Cycle Body)} (he : e ∈ a.store.tables.queue) (hid : m.id = e.id)
    (hname : e.jobName = m.job.name) (hat : e.notBefore = some current)
    (hperiodic : ∃ g, config m.upkeep g ∧ m.job ∈ g.periodic)
    (hfires : m.upkeep.Computes m.job m.now m.next)
    (hdistant : m.upkeep.margin < current.since m.now) (hdiffers : current ≠ m.next)
    (hsaved : store.saved = none) (hkeyed : store.tables.Keyed store.turn)
    (hturn : a.store.turn ≤ store.turn)
    (hcycles : ∀ c ∈ cycles, ∃ g, config c.upkeep g ∧ c.jobs ⊆ g.periodic)
    (hqueue : store.tables.queue = a.store.tables.queue.map fun b =>
      if b.id = e.id then { b with notBefore := some m.next.stored } else b) :
    Sound config { a with store, cycles, moves := m :: a.moves } := by
  have hentry {b' : Entry} (hb' : b' ∈ store.tables.queue) : ∃ b ∈ a.store.tables.queue,
      b'.id = b.id ∧ b'.jobName = b.jobName ∧
      b'.notBefore = if b.id = e.id then some m.next.stored else b.notBefore := by
    rw [hqueue] at hb'
    obtain ⟨b, hb, rfl⟩ := List.mem_map.mp hb'
    by_cases heq : b.id = e.id
    · exact ⟨b, hb, by rw [if_pos heq], by rw [if_pos heq], by rw [if_pos heq, if_pos heq]⟩
    · exact ⟨b, hb, by rw [if_neg heq], by rw [if_neg heq], by rw [if_neg heq, if_neg heq]⟩
  refine ⟨hsaved, hkeyed, hcycles, fun id hmem n hn => Nat.le_trans ?_ hturn,
    fun c hc b' hb' => ?_, fun p hp asked hasked => ⟨fun b' hb' hkey => ?_, fun c hc hkey => ?_,
      fun hkey => ?_, (h.bound p hp asked hasked).moved⟩⟩
  · have hold : id ∈ a.keys ∨ id = e.id := by
      simp only [keys, List.map_cons, List.mem_append, List.mem_cons] at hmem ⊢
      rw [hid] at hmem
      tauto
    obtain hold | rfl := hold
    · exact h.used id hold n hn
    · exact h.keyed.drawn e he n hn
  · obtain ⟨b, hb, hsame, -⟩ := hentry hb'
    exact hsame ▸ h.gone c hc b hb
  · -- an entry that waits is the one that is moved, or it is set as before
    obtain ⟨b, hb, hsame, hjob, hb'at⟩ := hentry hb'
    obtain ⟨hwaits, hset⟩ := (h.bound p hp asked hasked).waits b hb (hsame ▸ hkey)
    refine ⟨hjob ▸ hwaits, ?_⟩
    by_cases heq : b.id = e.id
    · rw [hb'at, if_pos heq, Move.appointed_of_eq (hid.trans (heq.symm.trans (hsame ▸ hkey)))]
    · rw [hb'at, if_neg heq, Move.appointed_of_ne fun hsame' =>
        heq ((hsame ▸ hkey).trans (hsame'.symm.trans hid))]
      exact hset
  · -- an entry that has been claimed is not moved any more
    have hne : m.id ≠ p.1 := fun heq => h.gone c hc e he ((hid.symm.trans heq).trans hkey.symm)
    rw [Move.appointed_of_ne hne]
    exact (h.bound p hp asked hasked).heeded c hc hkey
  · obtain ⟨hwaits, hset⟩ := (h.bound p hp asked hasked).waits e he (hid.symm.trans hkey)
    obtain rfl := Option.some.inj (hat.symm.trans hset)
    exact ⟨hperiodic, hname.symm.trans hwaits, hfires, hdistant, hdiffers⟩

/-- An upsert inserts an entry, moves the next one of its job, or leaves the tables alone. -/
lemma of_computes (h : a.Sound config) {u : Upkeep} {job : Registration Body} {now next : Instant}
    (hnext : u.Computes job now next) (hperiodic : ∃ g, config u g ∧ job ∈ g.periodic)
    {cycles : List (Cycle Body)}
    (hcycles : ∀ c ∈ cycles, ∃ g, config c.upkeep g ∧ c.jobs ⊆ g.periodic) :
    (a.upserted u job now cycles).Sound config := by
  obtain ⟨outcome, s, hrun, hends⟩ :=
    (Upkeep.upsert_ends hnext (s := .still a.store a.time) h.closed).runAt
  rw [Agenda.upserted, hrun]
  cases outcome with
  | error fault => exact h.of_leaves hends.2 rfl hcycles
  | ok plan =>
      obtain ⟨hplan, d, hbefore, hafter, hleaves⟩ := hends
      have hkeyed : s.store.tables.Keyed s.store.turn := by
        rw [hleaves.tables, hplan]
        exact (h.keyed.planned hbefore).mono hafter
      cases plan with
      | keep => exact h.of_leaves hleaves rfl hcycles
      | insert instant =>
          refine h.of_entries a.time hleaves.saved hkeyed hleaves.turn hcycles fun e he => ?_
          rw [hleaves.tables] at he
          refine (List.mem_append.mp he).imp_right fun he hused => ?_
          rw [List.mem_singleton.mp he] at hused
          exact ne_of_used hused hbefore rfl
      | reschedule id current target =>
          obtain ⟨e, hpending, rfl, hat, hdistant, hdiffers, rfl⟩ :=
            Plan.make_eq_reschedule hplan.symm
          obtain ⟨hnone, -⟩ | ⟨e', he, hname, hfound⟩ :=
            a.store.tables.pendingOf_cases job.name
          · cases hnone.symm.trans hpending
          · obtain rfl : e' = e := Option.some.inj (hfound.symm.trans hpending)
            exact h.of_move (m := ⟨u, job, now, e'.id, target⟩) he rfl hname hat hperiodic hnext
              hdistant hdiffers hleaves.saved hkeyed hleaves.turn hcycles
              (congrArg Tables.queue hleaves.tables)

/-- The next upsert of a cycle. -/
lemma upserted (h : a.Sound config) {before after : List (Cycle Body)} {u : Upkeep} {now : Instant}
    {job : Registration Body} {rest : List (Registration Body)}
    (hcycles : a.cycles = before ++ ⟨u, now, job :: rest⟩ :: after) :
    (a.upserted u job now (before ++ ⟨u, now, rest⟩ :: after)).Sound config := by
  obtain ⟨g, hg, hjobs⟩ : ∃ g, config u g ∧ job :: rest ⊆ g.periodic :=
    h.cycles ⟨u, now, job :: rest⟩ (hcycles ▸ List.mem_append_right _ (.head _))
  have hleft : ∀ c ∈ before ++ ⟨u, now, rest⟩ :: after,
      ∃ g, config c.upkeep g ∧ c.jobs ⊆ g.periodic := by
    intro c hc
    obtain hc | hc := List.mem_append.mp hc
    · exact h.cycles c (hcycles ▸ List.mem_append_left _ hc)
    · obtain rfl | hc := List.mem_cons.mp hc
      · exact ⟨g, hg, fun r hr => hjobs (.tail _ hr)⟩
      · exact h.cycles c (hcycles ▸ List.mem_append_right _ (.tail _ hc))
  by_cases hnext : ∃ next, u.Computes job now next
  · obtain ⟨next, hnext⟩ := hnext
    exact h.of_computes hnext ⟨g, hg, hjobs (.head _)⟩ hleft
  · obtain hidle | ⟨halt, hidle⟩ :=
      Upkeep.upsert_idle (fun next hnext' => hnext ⟨next, hnext'⟩) a.store a.time <;>
    rw [Agenda.upserted, hidle] <;>
    exact h.of_leaves (Session.leaves_self (s := .still a.store a.time) h.closed) rfl hleft

/-- A request that is accepted binds its entry, which has not been moved or claimed yet. -/
lemma requested (h : a.Sound config) (i : Instance) (r : Request) :
    (a.requested i r).Sound config := by
  obtain ⟨outcome, s, hrun, hends⟩ :=
    (i.enqueue_ends r (s := .still a.store a.time) h.closed).runAt
  rw [Agenda.requested, hrun]
  cases outcome with
  | error fault => exact h.of_leaves hends rfl h.cycles
  | ok id =>
      obtain ⟨d, hbefore, hafter, rfl, hleaves⟩ := hends
      have hkeyed : s.store.tables.Keyed s.store.turn :=
        hleaves.tables ▸ (h.keyed.inserted hbefore _ _).mono hafter
      have hqueue {e : Entry} (he : e ∈ s.store.tables.queue) : e ∈ a.store.tables.queue ∨
          e.id = .drawn d.turn ∧ e.jobName = r.jobName ∧
            e.notBefore = r.notBefore.map Instant.stored := by
        rw [hleaves.tables] at he
        refine (List.mem_append.mp he).imp_right fun he => ?_
        rw [List.mem_singleton.mp he]
        exact ⟨rfl, rfl, rfl⟩
      have hadded := h.of_entries a.time hleaves.saved hkeyed hleaves.turn h.cycles
        fun e he => (hqueue he).imp_right fun hnew hused =>
          ne_of_used hused hbefore hnew.1
      refine ⟨hadded.closed, hadded.keyed, hadded.cycles, fun id hid => ?_, hadded.gone,
        fun p hp asked hasked => ?_⟩
      · obtain rfl | hid := List.mem_cons.mp hid
        · exact fun n hn => EntryId.drawn.inj hn ▸ hafter
        · exact hadded.used id hid
      · obtain rfl | hp := List.mem_cons.mp hp
        · -- the key is new, so that nothing has been moved or claimed under it
          have hmoves : ∀ m ∈ a.moves, m.id ≠ .drawn d.turn := fun m hm =>
            ne_of_used (h.used_moved hm) hbefore
          refine ⟨fun e he hid => ?_, fun c hc hid => ?_, Move.allReconcile_of_forall_ne hmoves⟩
          · obtain he | ⟨-, hjob, hat⟩ := hqueue he
            · exact absurd hid (ne_of_used (h.keyed.drawn e he) hbefore)
            · rw [Move.appointed_of_forall_ne hmoves, hat]
              exact ⟨hjob, congrArg (Option.map Instant.stored) hasked⟩
          · exact absurd hid (ne_of_used (h.used_claimed hc) hbefore)
        · obtain ⟨hwaits, hheeded, hmoved⟩ := hadded.bound p hp asked hasked
          exact ⟨hwaits, hheeded, hmoved⟩

/-- A claim takes an entry whose time has come. -/
lemma workedOn (h : a.Sound config) (lockTimeout : Duration) :
    (a.workedOn lockTimeout).Sound config := by
  obtain ⟨outcome, s, hrun, hends⟩ := Script.Ends.runAt
    (Worker.claim_ends lockTimeout (s := .still a.store a.time) h.closed)
  rw [Agenda.workedOn, hrun]
  cases outcome with
  | error fault => exact h.of_leaves hends.2 rfl h.cycles
  | ok taken =>
      obtain ⟨rfl, -, hleaves⟩ | ⟨e, he, hdue, rfl, hleaves⟩ := hends
      · exact h.of_leaves hleaves rfl h.cycles
      · have hmem {b : Entry} (hb : b ∈ s.store.tables.queue) :
            b ∈ a.store.tables.queue ∧ b.id ≠ e.id := Tables.mem_without.mp (hleaves.tables ▸ hb)
        have hkeyed : s.store.tables.Keyed s.store.turn :=
          hleaves.tables ▸ (h.keyed.without e.id).mono hleaves.turn
        have hrest := h.of_entries a.time hleaves.saved hkeyed hleaves.turn h.cycles
          fun b hb => .inl (hmem hb).1
        refine ⟨hrest.closed, hrest.keyed, hrest.cycles, fun id hid => ?_, fun c hc b hb => ?_,
          fun p hp asked hasked => ⟨(hrest.bound p hp asked hasked).waits, fun c hc hid => ?_,
            (hrest.bound p hp asked hasked).moved⟩⟩
        · have hold : id ∈ a.keys ∨ id = e.id := by
            simp only [keys, Dispatch.taken, List.map_append, List.map_cons, List.mem_append,
              List.mem_cons] at hid ⊢
            tauto
          obtain hold | rfl := hold
          · exact hrest.used id hold
          · exact fun n hn => Nat.le_trans (h.keyed.drawn e he n hn) hleaves.turn
        · obtain rfl | hc := List.mem_cons.mp hc
          · exact (hmem hb).2
          · exact hrest.gone c hc b hb
        · obtain rfl | hc := List.mem_cons.mp hc
          · obtain ⟨-, hset⟩ := (h.bound p hp asked hasked).waits e he hid
            rw [Entry.Due, hset] at hdue
            exact hdue
          · exact (hrest.bound p hp asked hasked).heeded c hc hid

/-- Each step keeps the invariant. -/
lemma step {a' : Agenda} (h : a.Sound config) (hstep : Step config a a') : a'.Sound config := by
  cases hstep with
  | wait later htime =>
      exact h.of_entries later h.closed h.keyed (Nat.le_refl _) h.cycles fun _ he => .inl he
  | elect e wasLeader =>
      obtain ⟨outcome, s, hrun, hends⟩ :=
        (e.electOnce_ends wasLeader (s := .still a.store a.time) h.closed).runAt
      rw [hrun]
      obtain ⟨o, -, -, hleaves⟩ | ⟨fault, -, -, hleaves⟩ := hends
      · exact h.of_leaves hleaves (e.queue_settled _ _) h.cycles
      · exact h.of_leaves hleaves rfl h.cycles
  | check e =>
      obtain ⟨leads, s, hrun, hleaves⟩ :=
        (e.isLeader_ends (s := .still a.store a.time) h.closed).runAt
      rw [hrun]
      exact h.of_leaves hleaves rfl h.cycles
  | start u g hconfig =>
      refine h.of_entries a.time h.closed h.keyed (Nat.le_refl _) (fun c hc => ?_)
        fun _ he => .inl he
      obtain hc | hc := List.mem_append.mp hc
      · exact h.cycles c hc
      · exact ⟨g, List.mem_singleton.mp hc ▸ ⟨hconfig, List.Subset.refl _⟩⟩
  | upsert before after u now job rest hcycles => exact h.upserted hcycles
  | request i r => exact h.requested i r
  | claim lockTimeout => exact h.workedOn lockTimeout

/-- Each run keeps the invariant. -/
lemma run {a' : Agenda} (h : a.Sound config) (hrun : Run config a a') : a'.Sound config := by
  induction hrun with
  | refl => exact h
  | tail _ hstep ih => exact ih.step hstep

end Sound

/-- **Times that were asked for**.  Workers do not claim the entry of an accepted request before the
time that was asked for, or the time to which a cycle has moved the entry last. Only cycles for
which the job is periodic move it, while it is further away than the margin. The entries of jobs
that are periodic nowhere are not claimed before the time that was asked for. -/
theorem heeded_unless_moved {a₀ a : Agenda} {id : EntryId} {r : Request} {asked : Instant}
    (hstart : a₀.Starts) (hrun : Run config a₀ a) (haccepted : (id, r) ∈ a.accepted)
    (hasked : r.notBefore = some asked) :
    (∀ c ∈ a.claimed, c.1.id = id → (Move.appointed id asked a.moves).Reached c.2) ∧
    Move.AllReconcile config r.jobName id asked a.moves ∧
    ((∀ u g, config u g → ∀ job ∈ g.periodic, job.name ≠ r.jobName) →
      ∀ c ∈ a.claimed, c.1.id = id → asked.Reached c.2) := by
  have hbound : a.Bound config id r asked := (hstart.sound.run hrun).bound _ haccepted asked hasked
  have hreached : ∀ c ∈ a.claimed, c.1.id = id → (Move.appointed id asked a.moves).Reached c.2 :=
    fun c hc hid => .of_stored (hbound.heeded c hc hid)
  refine ⟨hreached, hbound.moved, fun hnone c hc hid => ?_⟩
  rw [← hbound.moved.appointed_eq hnone]
  exact hreached c hc hid

/-! ### A job of every hour -/

/-- No entry is claimed before the time that was asked for. -/
def Heeds (a : Agenda) : Prop :=
  ∀ p ∈ a.accepted, ∀ asked, p.2.notBefore = some asked →
    ∀ c ∈ a.claimed, c.1.id = p.1 → asked.stored ≤ c.2.stored

/-- The job's only entry is brought to its next time. -/
lemma upserted_of_atRest {a : Agenda} {u : Upkeep} {job : Registration Body}
    {now current next : Instant} {e : Entry} (h : Dispatch.AtRest a.store [e])
    (hjob : e.jobName = job.name) (hname : nameRefusal? job.name = none)
    (hat : e.notBefore = some current) (hnext : u.Computes job now next)
    (hdistant : u.margin < current.since now) (hdiffers : current ≠ next)
    (cycles : List (Cycle Body)) :
    ∃ store, a.upserted u job now cycles =
        { a with store, cycles, moves := ⟨u, job, now, e.id, next⟩ :: a.moves } ∧
      Dispatch.AtRest store [{ e with notBefore := some next.stored }] := by
  obtain ⟨outcome, s, hrun, hends⟩ :=
    (Upkeep.upsert_ends hnext (s := .still a.store a.time) h.closed).runAt
  have hpending : a.store.tables.pendingOf job.name = some e := by
    obtain ⟨-, hnone⟩ | ⟨e', he', -, hfound⟩ := a.store.tables.pendingOf_cases job.name
    · exact absurd hjob (hnone e (h.queue ▸ List.mem_singleton_self e))
    · obtain rfl : e' = e := List.mem_singleton.mp (h.queue ▸ he')
      exact hfound
  have hplan : Plan.make (some e) next now u.margin = .reschedule e.id current next := by
    rw [Plan.make, hat]
    exact if_pos ⟨hdistant, hdiffers⟩
  cases outcome with
  | error fault => exact hends.1.elim (absurd h.faults) (absurd hname)
  | ok plan =>
      obtain ⟨hmade, d, -, -, hleaves⟩ := hends
      obtain rfl : plan = .reschedule e.id current next := by
        rw [hmade, ← hplan, ← hpending]
        rfl
      refine ⟨s.store, by rw [upserted, hrun]; rfl, hleaves.saved, hleaves.faults h.faults, ?_⟩
      have hqueue : s.store.tables.queue = a.store.tables.queue.map fun b =>
          if b.id = e.id then { b with notBefore := some next.stored } else b :=
        congrArg Tables.queue hleaves.tables
      rw [hqueue, h.queue, List.map_singleton, if_pos rfl]

/-- A cycle starts and moves the only entry to the next time of its job, and a worker claims it at
`clock`, when that time has come. -/
lemma moved_and_claimed (config : Upkeep → Registry Body → Prop) (clock : Instant) {a : Agenda}
    {u : Upkeep} {job : Registration Body} {current next : Instant} {e : Entry}
    (h : Dispatch.AtRest a.store [e]) (hconfig : config u ⟨[job]⟩) (hjob : e.jobName = job.name)
    (hname : nameRefusal? job.name = none) (hat : e.notBefore = some current)
    (hnext : u.Computes job a.time next) (hdistant : u.margin < current.since a.time)
    (hdiffers : current ≠ next) (hafter : 0 ≤ clock.since a.time)
    (hdue : next.stored ≤ clock.stored) :
    ∃ a' c, Run config a a' ∧ a'.accepted = a.accepted ∧
      a'.moves = ⟨u, job, a.time, e.id, next⟩ :: a.moves ∧
      a'.claimed = (c, clock) :: a.claimed ∧ c.id = e.id := by
  let started : Agenda := { a with cycles := a.cycles ++ [⟨u, a.time, [job]⟩] }
  have hstart : Step config a started := by
    have hstep := Step.start a u ⟨[job]⟩ hconfig
    rw [hnext.periodic] at hstep
    exact hstep
  obtain ⟨store, hupserted, hmoved⟩ := upserted_of_atRest (a := started) h hjob hname hat hnext
    hdistant hdiffers (a.cycles ++ [⟨u, a.time, []⟩])
  have hupsert : Step config started _ := .upsert started a.cycles [] u a.time job [] rfl
  rw [hupserted] at hupsert
  have hready : ({ e with notBefore := some next.stored } : Entry).Due clock.stored := hdue
  obtain ⟨store', hclaim, -⟩ := hmoved.claim hready (.ofSecs 5)
  have hrun := ((Relation.ReflTransGen.single hstart).tail hupsert).tail (.wait _ clock hafter)
  have hrun := hrun.tail (.claim _ (.ofSecs 5))
  rw [workedOn, hclaim] at hrun
  exact ⟨_, _, hrun, rfl, rfl, rfl, rfl⟩

/-- A job of every hour. -/
def hourlyJob (schedule : Schedule) : Registration Body :=
  ⟨"hourly", some schedule, .none, Body.ending (.returned .null)⟩

/-- A request to run the job, not before half past five. -/
def lateRequest : Request := { Request.named "hourly" with notBefore := some ⟨1577856600, 0⟩ }

/-- Half past twelve, before anything has happened. -/
def opening : Agenda := ⟨.new, ⟨1577838600, 0⟩, [], [], [], []⟩

lemma starts_opening : opening.Starts := ⟨rfl, ⟨List.nodup_nil, nofun⟩, rfl, rfl, rfl, rfl⟩

/-- An instance that has the job. -/
def hourlyInstance (schedule : Schedule) : Instance := ⟨.standard "a", ⟨[hourlyJob schedule]⟩⟩

/-- The request is accepted. -/
lemma requested_opening (schedule : Schedule) :
    ∃ store, opening.requested (hourlyInstance schedule) lateRequest =
        { opening with store, accepted := [(.drawn 2, lateRequest)] } ∧
      Dispatch.AtRest store
        [⟨.drawn 2, "hourly", some ⟨1577856600, 0⟩, Json.emptyObject, none, none, 2⟩] :=
  ⟨(((hourlyInstance schedule).enqueue lateRequest).runAt opening.time opening.store).2,
    rfl, rfl, rfl, rfl⟩

/-- The request is accepted at half past twelve. A cycle brings the entry to one o'clock, when a
worker claims it. -/
lemma hourly_run : ∃ schedule a e, Schedule.parse "0 * * * *" = .ok schedule ∧
    Run (fun u g => u = Dispatch.inUtc ∧ g = ⟨[hourlyJob schedule]⟩) opening a ∧
    a.accepted = [(.drawn 2, lateRequest)] ∧
    a.moves = [⟨Dispatch.inUtc, hourlyJob schedule, ⟨1577838600, 0⟩, .drawn 2, ⟨1577840400, 0⟩⟩] ∧
    a.claimed = [(e, ⟨1577840400, 0⟩)] ∧ e.id = .drawn 2 := by
  obtain ⟨schedule, hparse, hcomputes⟩ :=
    Dispatch.computes_of_parse "0 * * * *" ⟨1577838600, 0⟩ ⟨1577840400, 0⟩ (by decide +kernel)
  have hnext := hcomputes Body (hourlyJob schedule) rfl
  have hname : nameRefusal? (hourlyJob schedule).name = none :=
    show nameRefusal? "hourly" = none by decide +kernel
  obtain ⟨store, hrequested, hwaits⟩ := requested_opening schedule
  let accepted : Agenda := { opening with store, accepted := [(.drawn 2, lateRequest)] }
  have hdistant : Dispatch.inUtc.margin < Instant.since ⟨1577856600, 0⟩ ⟨1577838600, 0⟩ := by decide
  have hafter : 0 ≤ Instant.since ⟨1577840400, 0⟩ ⟨1577838600, 0⟩ := by decide
  obtain ⟨a, e, hrun, haccepted, hmoves, hclaimed, hid⟩ := moved_and_claimed
    (fun u g => u = Dispatch.inUtc ∧ g = ⟨[hourlyJob schedule]⟩) ⟨1577840400, 0⟩ (a := accepted)
    hwaits ⟨rfl, rfl⟩ rfl hname rfl hnext hdistant (by decide) hafter (by decide)
  have hrequest : Run _ opening a := .head (.request opening (hourlyInstance schedule) lateRequest)
    (by rw [hrequested]; exact hrun)
  exact ⟨schedule, a, e, hparse, hrequest, haccepted, hmoves, hclaimed, hid⟩

/-- The entry has been claimed at one o'clock, to which a cycle had moved it. -/
theorem heeded_unless_moved_hourly : ∃ schedule a e,
    Schedule.parse "0 * * * *" = .ok schedule ∧ opening.Starts ∧
    Run (fun u g => u = Dispatch.inUtc ∧ g = ⟨[hourlyJob schedule]⟩) opening a ∧
    (.drawn 2, lateRequest) ∈ a.accepted ∧ lateRequest.notBefore = some ⟨1577856600, 0⟩ ∧
    a.claimed = [(e, ⟨1577840400, 0⟩)] ∧ e.id = .drawn 2 ∧
    Move.appointed (.drawn 2) ⟨1577856600, 0⟩ a.moves = ⟨1577840400, 0⟩ ∧
    Instant.Reached ⟨1577840400, 0⟩ ⟨1577840400, 0⟩ := by
  obtain ⟨schedule, a, e, hparse, hrun, haccepted, hmoves, hclaimed, hid⟩ := hourly_run
  have hmem : (.drawn 2, lateRequest) ∈ a.accepted := haccepted ▸ List.mem_singleton_self _
  have hset : Move.appointed (.drawn 2) ⟨1577856600, 0⟩ a.moves = ⟨1577840400, 0⟩ := by
    rw [hmoves]
    exact Move.appointed_of_eq rfl
  have hreached := (heeded_unless_moved starts_opening hrun hmem rfl).1 (e, ⟨1577840400, 0⟩)
    (by rw [hclaimed]; exact List.mem_singleton_self _) hid
  rw [hset] at hreached
  exact ⟨schedule, a, e, hparse, starts_opening, hrun, hmem, rfl, hclaimed, hid, hset, hreached⟩

/-- The request asked for half past five. -/
theorem brought_forward : ∃ schedule a, Schedule.parse "0 * * * *" = .ok schedule ∧
    opening.Starts ∧
    Run (fun u g => u = Dispatch.inUtc ∧ g = ⟨[hourlyJob schedule]⟩) opening a ∧ ¬ a.Heeds := by
  obtain ⟨schedule, a, e, hparse, hrun, haccepted, -, hclaimed, hid⟩ := hourly_run
  refine ⟨schedule, a, hparse, starts_opening, hrun, fun hheeds => ?_⟩
  have hreached : Instant.stored ⟨1577856600, 0⟩ ≤ Instant.stored ⟨1577840400, 0⟩ :=
    hheeds (.drawn 2, lateRequest) (by rw [haccepted]; exact List.mem_singleton_self _) _ rfl
      (e, ⟨1577840400, 0⟩) (by rw [hclaimed]; exact List.mem_singleton_self _) hid
  exact absurd hreached (by decide)

end Agenda

end JobDispatch
