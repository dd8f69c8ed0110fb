import JobDispatch.Proofs.Upkeep.Promise
import JobDispatch.Proofs.Work.Loss
import JobDispatch.Proofs.Work.Retention

/-!
What a request asked for arrives at the body of its job.

An accepted request becomes one entry. Cycles may move the entry in time, a claim takes it out of
the queue, and a worker builds a context and a row from it. Nothing but the time of the entry
changes on the way.

* `Instance.enqueue_cases`: what a request does to the store, with the reason if it fails.
* `Agenda.Sound.queue_cases`: what a step does to the queue and to the entries that were claimed.
* `Agenda.Traced` is the invariant: of all entries that wait or were claimed, exactly one has the
  key of the request's entry, and it differs from that entry in its time at most.
* `Worker.handle_carries`: a worker that records a result for an entry has run the body in the
  entry's context and written a row with what the entry bears.
* `Agenda.delivery` puts these together. `Agenda.delivery_cuts`: a time that was asked for to the
  nanosecond is kept to the microsecond.
-/

namespace JobDispatch

/-! ### Requests -/

/-- The entry bears what was asked for, its time as tables keep it. -/
structure Request.Describes (r : Request) (e : Entry) : Prop where
  jobName : e.jobName = r.jobName
  notBefore : e.notBefore = r.notBefore.map Instant.stored
  parameters : e.parameters = r.parameters

/-- The query by which a request adds its entry. -/
def Request.query (r : Request) : Query := .insertEntry r.jobName r.notBefore r.parameters

namespace Instance

variable (i : Instance) {r : Request} (time : Instant) (st : Store)

/-- A request that is not valid does not get to the store. -/
lemma enqueue_invalid {fault : RequestError} (h : r.validate = .error fault) :
    (i.enqueue r).runAt time st = (.ok (.error (.request fault)), st) := by
  rw [enqueue, h]
  rfl

/-- A valid request is one query, whose answer it passes on. -/
lemma enqueue_valid (h : r.validate = .ok ()) {s : Session} :
    (i.enqueue r).Ends s fun outcome s' =>
      outcome = ((s.store.perform (.query r.query)).1.map fun e : Entry => e.id).mapError .store ∧
        s'.store = (s.store.perform (.query r.query)).2 := by
  rw [enqueue, h]
  refine Script.ends_noted _ _ fun s₁ hstore _ => (Script.ends_bind _ _).mpr ?_
  rw [← hstore]
  have hquery : (Attempt.query r.query).run.run s₁ = (.ok (s₁.store.perform (.query r.query)).1,
      { s₁ with store := (s₁.store.perform (.query r.query)).2 }) := rfl
  refine ⟨_, _, hquery, ?_⟩
  rcases s₁.store.perform (.query r.query) with ⟨fault | entry, st⟩
  · exact (Script.ends_pure _).mpr ⟨rfl, rfl⟩
  · exact (Script.ends_bind _ _).mpr ((Script.ends_log _).mpr ((Script.ends_pure _).mpr ⟨rfl, rfl⟩))

/-- A valid request adds one entry, with the key that it answers, or it fails and leaves the tables
alone: struck by a fault, or refused for what it asks. -/
lemma enqueue_cases (h : r.validate = .ok ()) (time : Instant) (st : Store) :
    (∃ fault st', (i.enqueue r).runAt time st = (.ok (.error (.store fault)), st') ∧
      st'.tables = st.tables ∧ (st.faults ≠ [] ∨ r.query.refusal? = some fault)) ∨
    ∃ e st', (i.enqueue r).runAt time st = (.ok (.ok e.id), st') ∧ r.Describes e ∧
      e.id = .drawn st'.turn ∧ st.turn < st'.turn ∧
      st'.tables = { st.tables with queue := st.tables.queue ++ [e] } := by
  obtain ⟨outcome, s, hrun, rfl, hstore⟩ := (i.enqueue_valid h (s := .still st time)).runAt
  rw [hrun, hstore, show (Session.still st time).store = st from rfl]
  obtain ⟨faults, -, hperform | ⟨hfaults, -, fault, hperform⟩⟩ :=
    st.perform_cases (.query r.query)
  · rw [hperform, Store.execute]
    rcases happly : (st.counted faults).tables.apply (st.counted faults).draw r.query with
      fault | ⟨entry, tables⟩
    · refine .inl ⟨fault, _, rfl, rfl, .inr ?_⟩
      rw [Tables.apply] at happly
      split at happly
      · next refusal hrefused => rw [hrefused, Except.error.inj happly]
      · cases happly
    · obtain ⟨hentry, htables⟩ := Prod.mk.inj (Except.ok.inj (Tables.apply_eq_ok.mp happly).2)
      refine .inr ⟨entry, _, rfl, hentry ▸ ⟨rfl, rfl, rfl⟩, hentry ▸ rfl, Nat.lt_succ_self _, ?_⟩
      rw [← htables, ← hentry]
      rfl
  · rw [hperform]
    exact .inl ⟨fault, _, rfl, rfl, .inl hfaults⟩

end Instance

/-! ### Steps -/

/-- The entry as it is but for its time. -/
def Entry.timeless (e : Entry) : Entry := { e with notBefore := none }

namespace Agenda

variable {config : Upkeep → Registry Body → Prop} {a a' : Agenda} {e : Entry}

/-- What has become of the entries that wait and of those that were claimed: nothing, there is a
new one, one has another time, or one was claimed. -/
inductive Changes (a a' : Agenda) : Prop
  | none (hqueue : a'.store.tables.queue = a.store.tables.queue) (hclaimed : a'.claimed = a.claimed)
  | added (e : Entry) (hnew : ¬ e.id.Used a.store.turn)
      (hqueue : a'.store.tables.queue = a.store.tables.queue ++ [e])
      (hclaimed : a'.claimed = a.claimed)
  | moved (id : EntryId) (next : Instant)
      (hqueue : a'.store.tables.queue = a.store.tables.queue.map fun e =>
        if e.id = id then { e with notBefore := some next.stored } else e)
      (hclaimed : a'.claimed = a.claimed)
  | claimed (e : Entry) (now : Instant) (he : e ∈ a.store.tables.queue)
      (hqueue : a'.store.tables.queue = a.store.tables.queue.filter fun b => b.id ≠ e.id)
      (hclaimed : a'.claimed = (e, now) :: a.claimed)

/-- What an upsert does to the queue. -/
lemma changes_upserted (h : a.Sound config) (u : Upkeep) (job : Registration Body) (now : Instant)
    (cycles : List (Cycle Body)) : a.Changes (a.upserted u job now cycles) := by
  by_cases hnext : ∃ next, u.Computes job now next
  · obtain ⟨next, hnext⟩ := hnext
    obtain ⟨outcome, s, hrun, hends⟩ :=
      (Upkeep.upsert_ends hnext (s := .still a.store a.time) h.closed).runAt
    rw [upserted, hrun]
    cases outcome with
    | error fault => exact .none (congrArg Tables.queue hends.2.tables) rfl
    | ok plan =>
        obtain ⟨-, d, hbefore, -, hleaves⟩ := hends
        have hqueue := congrArg Tables.queue hleaves.tables
        cases plan with
        | keep => exact .none hqueue rfl
        | insert instant =>
            exact .added _ (fun hused => Sound.ne_of_used hused hbefore rfl) hqueue rfl
        | reschedule id current target => exact .moved id target hqueue rfl
  · obtain hidle | ⟨halt, hidle⟩ :=
      Upkeep.upsert_idle (fun next hnext' => hnext ⟨next, hnext'⟩) a.store a.time
    · rw [upserted, hidle]
      exact .none rfl rfl
    · rw [upserted, hidle]
      exact .none rfl rfl

/-- What a request does to the queue. -/
lemma changes_requested (i : Instance) (r : Request) : a.Changes (a.requested i r) := by
  cases hvalid : r.validate with
  | error fault =>
      rw [requested, i.enqueue_invalid a.time a.store hvalid]
      exact .none rfl rfl
  | ok _ =>
      obtain ⟨fault, st, hrun, htables, -⟩ | ⟨e, st, hrun, -, hid, hturn, htables⟩ :=
        i.enqueue_cases hvalid a.time a.store
      · rw [requested, hrun]
        exact .none (congrArg Tables.queue htables) rfl
      · rw [requested, hrun]
        refine .added e (fun hused => ?_) (congrArg Tables.queue htables) rfl
        exact absurd (hused _ hid) (Nat.not_le.mpr hturn)

/-- What a claim does to the queue. -/
lemma changes_workedOn (h : a.Sound config) (lockTimeout : Duration) :
    a.Changes (a.workedOn lockTimeout) := by
  obtain ⟨outcome, s, hrun, hends⟩ := Script.Ends.runAt
    (Worker.claim_ends lockTimeout (s := .still a.store a.time) h.closed)
  rw [workedOn, hrun]
  cases outcome with
  | error fault => exact .none (congrArg Tables.queue hends.2.tables) rfl
  | ok taken =>
      obtain ⟨rfl, -, hleaves⟩ | ⟨e, he, -, rfl, hleaves⟩ := hends
      · exact .none (congrArg Tables.queue hleaves.tables) rfl
      · exact .claimed e a.time he (congrArg Tables.queue hleaves.tables) rfl

lemma Step.changes (h : a.Sound config) (hstep : Step config a a') : a.Changes a' := by
  cases hstep with
  | wait later htime => exact .none rfl rfl
  | elect e wasLeader =>
      obtain ⟨outcome, s, hrun, hends⟩ :=
        (e.electOnce_ends wasLeader (s := .still a.store a.time) h.closed).runAt
      rw [hrun]
      obtain ⟨o, -, -, hleaves⟩ | ⟨fault, -, -, hleaves⟩ := hends
      · exact .none ((congrArg Tables.queue hleaves.tables).trans (e.queue_settled _ _)) rfl
      · exact .none (congrArg Tables.queue hleaves.tables) rfl
  | check e =>
      obtain ⟨leads, s, hrun, hleaves⟩ :=
        (e.isLeader_ends (s := .still a.store a.time) h.closed).runAt
      rw [hrun]
      exact .none (congrArg Tables.queue hleaves.tables) rfl
  | start u g hconfig => exact .none rfl rfl
  | upsert before after u now job rest hcycles => exact changes_upserted h u job now _
  | request i r => exact changes_requested i r
  | claim lockTimeout => exact changes_workedOn h lockTimeout

/-! ### The invariant -/

/-- The entries that wait and those that were claimed. -/
def entries (a : Agenda) : List Entry := a.store.tables.queue ++ a.claimed.map Prod.fst

/-- All that is known of a key: the entries that bear it, but for their times. -/
def traces (id : EntryId) (a : Agenda) : List Entry :=
  (a.entries.filter fun e => e.id = id).map Entry.timeless

/-- Of all entries that wait or were claimed, exactly one has the key of `e`, and it differs from
`e` in its time at most. -/
def Traced (e : Entry) (a : Agenda) : Prop := a.traces e.id = [e.timeless]

/-- No change of the queue makes a difference to the traces of a key that is in use. -/
lemma Changes.traces (h : a.Changes a') (hkeyed : a.store.tables.Keyed a.store.turn)
    {id : EntryId} (hid : id.Used a.store.turn) : (a'.traces id).Perm (a.traces id) := by
  cases h with
  | none hqueue hclaimed => rw [Agenda.traces, entries, hqueue, hclaimed]; rfl
  | added e hnew hqueue hclaimed =>
      have hne : e.id ≠ id := fun heq => hnew (heq ▸ hid)
      rw [Agenda.traces, Agenda.traces, entries, entries, hqueue, hclaimed]
      simp [List.filter_append, hne]
  | moved key next hqueue hclaimed =>
      have hsame (e : Entry) :
          (if e.id = key then { e with notBefore := some next.stored } else e).timeless =
            e.timeless := by
        split <;> rfl
      have hkey (e : Entry) :
          (if e.id = key then { e with notBefore := some next.stored } else e).id = e.id := by
        split <;> rfl
      rw [Agenda.traces, Agenda.traces, entries, entries, hqueue, hclaimed]
      simp only [List.filter_append, List.map_append, List.filter_map, List.map_map]
      simp only [Function.comp_def, hsame, hkey]
      rfl
  | claimed e now he hqueue hclaimed =>
      have hperm : a'.entries.Perm a.entries := by
        rw [entries, entries, hqueue, hclaimed]
        exact List.perm_middle.trans ((hkeyed.cons_without he).append_right _)
      exact (hperm.filter _).map _

namespace Traced

/-- The key is in use. -/
lemma used (htraced : a.Traced e) (h : a.Sound config) : e.id.Used a.store.turn := by
  have hmem : e.timeless ∈ a.traces e.id := htraced ▸ List.mem_singleton_self _
  obtain ⟨b, hb, -⟩ := List.mem_map.mp hmem
  obtain ⟨hb, hid⟩ := List.mem_filter.mp hb
  rw [← of_decide_eq_true hid]
  obtain hb | hb := List.mem_append.mp hb
  · exact h.keyed.drawn b hb
  · obtain ⟨c, hc, rfl⟩ := List.mem_map.mp hb
    exact h.used_claimed hc

/-- Each run keeps the invariant. -/
lemma run (htraced : a.Traced e) (h : a.Sound config) (hrun : Run config a a') : a'.Traced e := by
  induction hrun with
  | refl => exact htraced
  | tail hrun hstep ih =>
      have hsound := h.run hrun
      have hperm := (hstep.changes hsound).traces hsound.keyed (ih.used hsound)
      rw [ih] at hperm
      exact List.perm_singleton.mp hperm

/-- Whatever bears the key differs from the entry in its time at most. -/
lemma timeless_eq (htraced : a.Traced e) {b : Entry} (hb : b ∈ a.entries) (hid : b.id = e.id) :
    b.timeless = e.timeless := by
  have hmem : b.timeless ∈ a.traces e.id :=
    List.mem_map_of_mem (List.mem_filter.mpr ⟨hb, decide_eq_true hid⟩)
  rw [htraced] at hmem
  exact List.mem_singleton.mp hmem

/-- Either the entry waits and nobody has claimed it, or it was claimed and waits no more. -/
lemma waits_or_claimed (htraced : a.Traced e) :
    ((∃ b ∈ a.store.tables.queue, b.timeless = e.timeless) ∧ ∀ c ∈ a.claimed, c.1.id ≠ e.id) ∨
    ((∃ c ∈ a.claimed, c.1.timeless = e.timeless) ∧
      ∀ b ∈ a.store.tables.queue, b.id ≠ e.id) := by
  have hnone {l : List Entry} (h : (l.filter fun b => b.id = e.id).map Entry.timeless = []) :
      ∀ b ∈ l, b.id ≠ e.id := by
    intro b hb
    simpa using List.filter_eq_nil_iff.mp (List.map_eq_nil_iff.mp h) b hb
  have hone {l : List Entry}
      (h : (l.filter fun b => b.id = e.id).map Entry.timeless = [e.timeless]) :
      ∃ b ∈ l, b.timeless = e.timeless := by
    obtain ⟨b, hb, heq⟩ := List.mem_map.mp (h ▸ List.mem_singleton_self e.timeless)
    exact ⟨b, (List.mem_filter.mp hb).1, heq⟩
  rw [Traced, traces, entries, List.filter_append, List.map_append] at htraced
  obtain ⟨hqueue, hclaimed⟩ | ⟨hqueue, hclaimed⟩ := List.append_eq_singleton_iff.mp htraced
  · obtain ⟨b, hb, heq⟩ := hone hclaimed
    obtain ⟨c, hc, rfl⟩ := List.mem_map.mp hb
    exact .inr ⟨⟨c, hc, heq⟩, hnone hqueue⟩
  · exact .inl ⟨hone hqueue, fun c hc => hnone hclaimed c.1 (List.mem_map_of_mem hc)⟩

end Traced

end Agenda

/-! ### Workers -/

namespace Worker

variable {g : Registry Body} {lockTimeout : Duration} {entry : Entry} {job : Registration Body}
  {s s' : Session}

lemma Carries.stands {row kept : ResultRow} (h : Carries entry row) (hkept : Stands row kept) :
    Carries entry kept := by
  obtain rfl | ⟨fault, rfl⟩ := hkept
  · exact h
  · exact ⟨h.id, h.jobName, h.parameters⟩

/-- The context of an entry holds its parameters exactly if the job asks for them. -/
lemma parameters_contextOf (job : Registration Body) (entry : Entry) :
    (contextOf job entry).parameters = .ok entry.parameters ↔
      job.capabilities.wantsParameters = true := by
  rw [contextOf, Context.build, Context.parameters]
  cases job.capabilities.wantsParameters <;> simp

/-- All rows that a worker sends for an entry bear what the entry bears. -/
lemma record_only_carries (lockTimeout : Duration) (entry : Entry) (executedAt : Instant)
    (ending : Ending) : (record lockTimeout (resultOf entry executedAt ending).2).Only
      fun q => ∀ row, q = .query (.insertResult row) → Carries entry row := by
  refine (record_only_reports (reports_resultOf entry executedAt ending) lockTimeout).mono ?_
  rintro q hq row rfl
  exact Reports.toCarries hq

/-- A worker that deals with an entry of a known job without an error has run the body in the
context of the entry, and has added a row that bears what the entry bears. -/
lemma handle_carries {outcome : WorkOutcome} (hjob : g.find? entry.jobName = some job)
    (hsaved : s.store.saved = none) (hcloses : job.body.Closes)
    (hrun : (handle g lockTimeout entry).run.run s = (.ok (.ok outcome), s')) :
    ∃ ending s₁ row, (job.body (contextOf job entry)).run (begun s) = (.ok ending, s₁) ∧
      s'.store.tables.results = s₁.store.tables.results ++ [row] ∧ Carries entry row := by
  have hrest : (Task.claimed g lockTimeout entry).left.run s = (.ok (.ok (some outcome)), s') := by
    rw [Task.left, map_eq_pure_bind, ExceptT.run_bind, Script.run_bind, hrun]
    rfl
  rw [Task.left_start hjob, Task.start, hjob, Task.left_running, Script.run_bind] at hrest
  rcases hexecute : (execute job entry).run s with ⟨halt | row, s₁⟩
  · rw [hexecute] at hrest
    cases hrest
  · obtain ⟨ending, s₀, hbody, rfl, hstore⟩ := body_of_execute hexecute
    have hclosed : s₁.store.saved = none := by
      rw [hstore]
      exact hcloses _ (begun s) _ _ hsaved hbody
    obtain ⟨recorded, s₂, hrecord, hkept⟩ :
        (record lockTimeout (resultOf entry s.now ending).2).Ends s₁ _ _ := record_leaves hclosed
    rw [hexecute] at hrest
    dsimp only at hrest
    rw [ExceptT.run_bind, Script.run_bind, hrecord] at hrest
    cases recorded with
    | error fault => cases hrest
    | ok kept =>
        obtain ⟨hstands, hleaves⟩ := hkept
        have hend : s₂.measured _ = s' := (Prod.mk.inj hrest).2
        refine ⟨ending, s₀, Tables.storedResult kept, hbody, ?_, ?_⟩
        · rw [← hend, Session.store_measured, hleaves.tables, ← hstore]
          rfl
        · have hreports := reports_resultOf entry s.now ending
          obtain ⟨hid, hname, hparameters⟩ := hreports.toCarries.stands hstands
          exact ⟨hid, hname, hparameters⟩

/-- Whatever worker deals with the entry, and knows its job: the body gets the parameters of the
request exactly if the job asks for them, all rows that the worker sends bear the key and what the
request asked for, and so does the row that is there once the worker has succeeded. -/
def Conveys (entry : Entry) (id : EntryId) (r : Request) : Prop :=
  ∀ (g : Registry Body) (lockTimeout : Duration) (job : Registration Body),
    g.find? r.jobName = some job →
    ((contextOf job entry).parameters = .ok r.parameters ↔
      job.capabilities.wantsParameters = true) ∧
    (∀ executedAt ending, (record lockTimeout (resultOf entry executedAt ending).2).Only fun q =>
      ∀ row, q = .query (.insertResult row) →
        row.id = id ∧ row.jobName = r.jobName ∧ row.parameters = r.parameters) ∧
    ∀ s outcome s', s.store.saved = none → job.body.Closes →
      (handle g lockTimeout entry).run.run s = (.ok (.ok outcome), s') →
        ∃ ending s₁ row, (job.body (contextOf job entry)).run (begun s) = (.ok ending, s₁) ∧
          s'.store.tables.results = s₁.store.tables.results ++ [row] ∧
          row.id = id ∧ row.jobName = r.jobName ∧ row.parameters = r.parameters

lemma conveys {r : Request} (hname : entry.jobName = r.jobName)
    (hparameters : entry.parameters = r.parameters) : Conveys entry entry.id r := by
  intro g lockTimeout job hjob
  rw [← hname] at hjob
  have hbears {row : ResultRow} (h : Carries entry row) :
      row.id = entry.id ∧ row.jobName = r.jobName ∧ row.parameters = r.parameters :=
    ⟨h.id, h.jobName.trans hname, h.parameters.trans hparameters⟩
  refine ⟨hparameters ▸ parameters_contextOf job entry, ?_, ?_⟩
  · intro executedAt ending
    exact (record_only_carries lockTimeout entry executedAt ending).follows
      (fun _ q hq row hrow => hbears (hq row hrow)) ()
  · intro s outcome s' hsaved hcloses hrun
    obtain ⟨ending, s₁, row, hbody, hresults, hcarries⟩ := handle_carries hjob hsaved hcloses hrun
    exact ⟨ending, s₁, row, hbody, hresults, hbears hcarries⟩

end Worker

/-! ### Delivery -/

namespace Agenda

variable {config : Upkeep → Registry Body → Prop}

/-- **Delivery**.  A request that is not valid fails and leaves the store as it was. A valid one
fails only for a fault or for a character that the store does not take, and leaves the tables as
they were, or it adds exactly one entry: with a key that is new, and that it answers, and with what
was asked for, the time as a table keeps it. In every run from then on the entry waits, and it
differs in its time at most, until it is claimed. Once it is claimed, a worker that knows its job
conveys the parameters of the request to the body, if the job asks for them, and the key, the name
and the parameters to the result. -/
theorem delivery {a₀ a : Agenda} (hstart : a₀.Starts) (hrun : Run config a₀ a) (i : Instance)
    (r : Request) :
    (∀ fault, r.validate = .error fault →
      (i.enqueue r).runAt a.time a.store = (.ok (.error (.request fault)), a.store)) ∧
    (r.validate = .ok () →
      (∃ fault st, (i.enqueue r).runAt a.time a.store = (.ok (.error (.store fault)), st) ∧
        st.tables = a.store.tables ∧
        (a.store.faults ≠ [] ∨ r.query.refusal? = some fault)) ∨
      ∃ e st, (i.enqueue r).runAt a.time a.store = (.ok (.ok e.id), st) ∧ r.Describes e ∧
        st.tables = { a.store.tables with queue := a.store.tables.queue ++ [e] } ∧
        (∀ b ∈ a.entries, b.id ≠ e.id) ∧
        ∀ a', Run config (a.requested i r) a' →
          ((∃ b ∈ a'.store.tables.queue, b.timeless = e.timeless) ∧
              (∀ c ∈ a'.claimed, c.1.id ≠ e.id) ∨
            (∃ c ∈ a'.claimed, c.1.timeless = e.timeless) ∧
              ∀ b ∈ a'.store.tables.queue, b.id ≠ e.id) ∧
          ∀ c ∈ a'.claimed, c.1.id = e.id → Worker.Conveys c.1 e.id r) := by
  have h : a.Sound config := hstart.sound.run hrun
  refine ⟨fun fault hinvalid => i.enqueue_invalid a.time a.store hinvalid, fun hvalid => ?_⟩
  obtain hfails | ⟨e, st, hanswer, hdescribes, hid, hturn, htables⟩ :=
    i.enqueue_cases hvalid a.time a.store
  · exact .inl hfails
  have hnew : ∀ b ∈ a.entries, b.id ≠ e.id := by
    intro b hb
    rw [hid]
    obtain hb | hb := List.mem_append.mp hb
    · exact Sound.ne_of_used (h.keyed.drawn b hb) hturn
    · obtain ⟨c, hc, rfl⟩ := List.mem_map.mp hb
      exact Sound.ne_of_used (h.used_claimed hc) hturn
  have htraced : (a.requested i r).Traced e := by
    have hothers {l : List Entry} (hl : l ⊆ a.entries) : (l.filter fun b => b.id = e.id) = [] :=
      List.filter_eq_nil_iff.mpr fun b hb => by simpa using hnew b (hl hb)
    rw [Traced, traces, entries, requested, hanswer]
    show ((st.tables.queue ++ a.claimed.map Prod.fst).filter _).map _ = _
    rw [htables, List.filter_append, List.filter_append, hothers (List.subset_append_left _ _),
      hothers (List.subset_append_right _ _)]
    simp
  refine .inr ⟨e, st, hanswer, hdescribes, htables, hnew, fun a' hlater => ?_⟩
  have htraced' : a'.Traced e := htraced.run (h.step (.request a i r)) hlater
  refine ⟨htraced'.waits_or_claimed, fun c hc hkey => ?_⟩
  have hsame : c.1.timeless = e.timeless :=
    htraced'.timeless_eq (List.mem_append_right _ (List.mem_map_of_mem hc)) hkey
  have hname : c.1.timeless.jobName = e.timeless.jobName := congrArg Entry.jobName hsame
  have hparameters : c.1.timeless.parameters = e.timeless.parameters :=
    congrArg Entry.parameters hsame
  rw [← hkey]
  exact Worker.conveys (hname.trans hdescribes.jobName) (hparameters.trans hdescribes.parameters)

/-! ### A job that asks for parameters -/

/-- A job of every hour that asks for parameters. -/
def reportJob (schedule : Schedule) : Registration Body :=
  { hourlyJob schedule with capabilities := .parameters }

/-- An instance that has the job. -/
def reportInstance (schedule : Schedule) : Instance := ⟨.standard "a", ⟨[reportJob schedule]⟩⟩

/-- What the job is to report on. -/
def reportParameters : Json := .object [("day", .string "2020-01-01")]

/-- A request to run the job, not before half past five. -/
def reportRequest : Request := { lateRequest with parameters := reportParameters }

/-- The request is accepted. -/
lemma requested_report (schedule : Schedule) :
    ∃ store, opening.requested (reportInstance schedule) reportRequest =
        { opening with store, accepted := [(.drawn 2, reportRequest)] } ∧
      Dispatch.AtRest store
        [⟨.drawn 2, "hourly", some ⟨1577856600, 0⟩, reportParameters, none, none, 2⟩] :=
  ⟨(((reportInstance schedule).enqueue reportRequest).runAt opening.time opening.store).2,
    rfl, rfl, rfl, rfl⟩

/-- A cycle brings the entry to one o'clock, when a worker claims it. -/
lemma report_run : ∃ schedule a e, Schedule.parse "0 * * * *" = .ok schedule ∧
    Run (fun u g => u = Dispatch.inUtc ∧ g = ⟨[reportJob schedule]⟩)
      (opening.requested (reportInstance schedule) reportRequest) a ∧
    a.moves = [⟨Dispatch.inUtc, reportJob schedule, ⟨1577838600, 0⟩, .drawn 2, ⟨1577840400, 0⟩⟩] ∧
    a.claimed = [(e, ⟨1577840400, 0⟩)] ∧ e.id = .drawn 2 := by
  obtain ⟨schedule, hparse, hcomputes⟩ :=
    Dispatch.computes_of_parse "0 * * * *" ⟨1577838600, 0⟩ ⟨1577840400, 0⟩ (by decide +kernel)
  have hnext := hcomputes Body (reportJob schedule) rfl
  have hname : nameRefusal? (reportJob schedule).name = none :=
    show nameRefusal? "hourly" = none by decide +kernel
  obtain ⟨store, hrequested, hwaits⟩ := requested_report schedule
  let accepted : Agenda := { opening with store, accepted := [(.drawn 2, reportRequest)] }
  have hdistant : Dispatch.inUtc.margin < Instant.since ⟨1577856600, 0⟩ ⟨1577838600, 0⟩ := by decide
  have hafter : 0 ≤ Instant.since ⟨1577840400, 0⟩ ⟨1577838600, 0⟩ := by decide
  obtain ⟨a, e, hrun, -, hmoves, hclaimed, hid⟩ := moved_and_claimed
    (fun u g => u = Dispatch.inUtc ∧ g = ⟨[reportJob schedule]⟩) ⟨1577840400, 0⟩ (a := accepted)
    hwaits ⟨rfl, rfl⟩ rfl hname rfl hnext hdistant (by decide) hafter (by decide)
  exact ⟨schedule, a, e, hparse, hrequested ▸ hrun, hmoves, hclaimed, hid⟩

/-- The worker hands the parameters to the body, and its row bears them. -/
theorem delivery_report : ∃ schedule a e, Schedule.parse "0 * * * *" = .ok schedule ∧
    Run (fun u g => u = Dispatch.inUtc ∧ g = ⟨[reportJob schedule]⟩)
      (opening.requested (reportInstance schedule) reportRequest) a ∧
    a.moves = [⟨Dispatch.inUtc, reportJob schedule, ⟨1577838600, 0⟩, .drawn 2, ⟨1577840400, 0⟩⟩] ∧
    a.claimed = [(e, ⟨1577840400, 0⟩)] ∧
    (Worker.contextOf (reportJob schedule) e).parameters = .ok reportParameters ∧
    Worker.Conveys e (.drawn 2) reportRequest := by
  obtain ⟨schedule, a, e, hparse, hrun, hmoves, hclaimed, hid⟩ := report_run
  have hanswer : (((reportInstance schedule).enqueue reportRequest).runAt opening.time
      opening.store).1 = .ok (.ok (.drawn 2)) := rfl
  obtain ⟨fault, st, hfailed, -⟩ | ⟨entry, st, haccepted, -, -, -, hlater⟩ :=
    (delivery starts_opening (.refl : Run _ opening opening) (reportInstance schedule)
      reportRequest).2 rfl
  · rw [hfailed] at hanswer
    cases hanswer
  · rw [haccepted] at hanswer
    have hkey : entry.id = .drawn 2 := Except.ok.inj (Except.ok.inj hanswer)
    have hconveys := (hlater a hrun).2 (e, ⟨1577840400, 0⟩)
      (hclaimed ▸ List.mem_singleton_self _) (hid.trans hkey.symm)
    rw [hkey] at hconveys
    exact ⟨schedule, a, e, hparse, hrun, hmoves, hclaimed,
      ((hconveys ⟨[reportJob schedule]⟩ (.ofSecs 5) (reportJob schedule) rfl).1).mpr rfl, hconveys⟩

/-- An instance that knows no jobs. -/
def bareInstance : Instance := ⟨.standard "a", .empty⟩

/-- A time that was asked for to the nanosecond is kept to the microsecond. -/
theorem delivery_cuts :
    let r : Request := { Request.named "idle" with notBefore := some ⟨1893456000, 1⟩ }
    opening.Starts ∧ r.validate = .ok () ∧
      ∃ e st, (bareInstance.enqueue r).runAt opening.time opening.store = (.ok (.ok e.id), st) ∧
        st.tables.queue = [e] ∧ e.notBefore = some ⟨1893456000, 0⟩ ∧ e.notBefore ≠ r.notBefore :=
  ⟨starts_opening, rfl, _, _, rfl, rfl, rfl, by decide⟩

end Agenda

end JobDispatch
