import JobDispatch.Proofs.Upkeep.Halting
import JobDispatch.Proofs.Upkeep.Rows
import Mathlib.Data.List.TakeWhile

/-!
What a cycle does to the entries of each of its jobs, whatever faults strike.

A cycle counts what became of its jobs. Here the outcomes are kept instead: one for each job, in
their order. An upsert carries out its plan or leaves everything as it is, and it touches the
entries of its own job only; so the entries of a job are what its own upsert has made of them.

* `Upkeep.upserts`: the upserts of some jobs, with their outcomes. A cycle counts these
  (`Upkeep.goThrough_eq_map`).
* `Upkeep.Dealt`: what has become of the entries of one job, by the outcome of its upsert.
* `Upkeep.Accounts`: what has become of all the tables.
* `Upkeep.upserts_ends`: jobs with answers are all dealt with.
* `Upkeep.runOnce_deals`: what a cycle comes to, with `Upkeep.runOnce_deals_with_all` for a cycle
  that finds answers for all its jobs.
-/

namespace JobDispatch

/-! ### The entries of a job and its plan -/

namespace Tables

variable {t t' : Tables} {d : Draw} {name : String} {plan : Plan}

lemma pendingOf_congr (h : t.rowsOf name = t'.rowsOf name) :
    t.pendingOf name = t'.pendingOf name := congrArg (leastBy Entry.before) h

/-- What a plan does to the entries of its job depends on these only. -/
lemma rowsOf_planned_congr (h : t.rowsOf name = t'.rowsOf name) :
    (t.planned d name plan).rowsOf name = (t'.planned d name plan).rowsOf name := by
  cases plan with
  | keep => exact h
  | insert next =>
      simp only [rowsOf, planned, insertEntry, List.filter_append] at h ⊢
      rw [h]
  | reschedule id current next =>
      rw [planned, planned, rowsOf, reschedule, rowsOf_moved, h, ← rowsOf_moved]
      rfl

/-- Only an insertion makes the queue longer. -/
lemma length_planned : (t.planned d name plan).queue.length =
    t.queue.length + if plan matches .insert _ then 1 else 0 := by
  cases plan with
  | insert next => exact List.length_append
  | reschedule id current next => exact List.length_map _
  | keep => rfl

lemma results_planned : (t.planned d name plan).results = t.results := by
  cases plan <;> rfl

lemma lease_planned : (t.planned d name plan).lease = t.lease := by
  cases plan <;> rfl

end Tables

/-- The periodic jobs of a registry have names of their own. -/
lemma Registry.Enrolled.distinct_periodic {Body : Type} {g : Registry Body} (hg : g.Enrolled) :
    (g.periodic.map Registration.name).Nodup :=
  hg.distinct.sublist (List.filter_sublist.map _)

/-! ### Outcomes -/

namespace Upkeep

variable {Body : Type} {u : Upkeep} {now next : Instant} {r : Registration Body} {s s' : Session}
  {jobs : List (Registration Body)} {report : CycleReport}

/-- Keeps the given jobs queued, and gives what became of each of them. -/
def upserts (u : Upkeep) (now : Instant) :
    List (Registration Body) → Script (List (Except StoreError Plan))
  | [] => pure []
  | r :: rest => do
    let outcome ← u.upsert r now
    match notice? outcome with
    | some n => Script.log n
    | none => pure ()
    let later ← u.upserts now rest
    pure (outcome :: later)

/-- A cycle counts the outcomes of its upserts. -/
lemma goThrough_eq_map : u.goThrough now report jobs =
    (fun outcomes => outcomes.foldl CycleReport.count report) <$> u.upserts now jobs := by
  induction jobs generalizing report with
  | nil => rfl
  | cons r rest ih =>
      rw [goThrough, upserts, map_bind]
      refine congrArg _ (funext fun outcome => ?_)
      dsimp only
      cases notice? outcome with
      | none => simp [ih]
      | some n => simp [ih]

/-- The upsert has added an entry. -/
def adds : Except StoreError Plan → Bool
  | .ok (.insert _) => true
  | _ => false

/-- The upsert has moved an entry. -/
def moves : Except StoreError Plan → Bool
  | .ok (.reschedule _ _ _) => true
  | _ => false

/-- The upsert has failed. -/
def fails : Except StoreError Plan → Bool
  | .error _ => true
  | _ => false

/-- A cycle reports how many of its upserts had each outcome. -/
lemma foldl_count (report : CycleReport) (outcomes : List (Except StoreError Plan)) :
    (outcomes.foldl CycleReport.count report).inserted = report.inserted + outcomes.countP adds ∧
    (outcomes.foldl CycleReport.count report).rescheduled =
      report.rescheduled + outcomes.countP moves ∧
    (outcomes.foldl CycleReport.count report).failed = report.failed + outcomes.countP fails ∧
    (outcomes.foldl CycleReport.count report).total = report.total + outcomes.length := by
  induction outcomes generalizing report with
  | nil => exact ⟨rfl, rfl, rfl, rfl⟩
  | cons outcome rest ih =>
      obtain ⟨hadds, hmoves, hfails, htotal⟩ := ih (report.count outcome)
      rw [List.foldl_cons, hadds, hmoves, hfails, htotal, CycleReport.total_count]
      simp only [List.countP_cons, List.length_cons]
      rcases outcome with fault | ⟨next⟩ | ⟨id, current, next⟩ | _ <;>
        simp only [CycleReport.count, adds, moves, fails] <;> simp <;> omega

/-- A whole cycle reports as many failures as there were. -/
lemma failed_foldl_count (outcomes : List (Except StoreError Plan)) :
    (outcomes.foldl CycleReport.count .empty).failed = outcomes.countP fails := by
  obtain ⟨-, -, hfails, -⟩ := foldl_count .empty outcomes
  exact hfails.trans (Nat.zero_add _)

/-! ### One job -/

/-- What has become of the entries of a job between `s` and `s'`, by the outcome of its upsert: if
it failed they are as they were, and otherwise its plan has been carried out. A job that computes no
next time keeps its entries. -/
inductive Dealt (u : Upkeep) (now : Instant) (s s' : Session) (r : Registration Body) :
    Except StoreError Plan → Prop
  | failed (fault : StoreError) (hnext : ∃ next, u.Computes r now next) (hfail : CanFail s r.name)
      (hrows : s'.store.tables.rowsOf r.name = s.store.tables.rowsOf r.name) :
      Dealt u now s s' r (.error fault)
  | planned (next : Instant) (d : Tables.Draw) (hnext : u.Computes r now next)
      (htaken : textRefusal? r.name = none) (hdrawn : s.store.turn < d.turn)
      (hrows : s'.store.tables.rowsOf r.name = (s.store.tables.planned d r.name
        (.make (s.store.tables.pendingOf r.name) next now u.margin)).rowsOf r.name) :
      Dealt u now s s' r (.ok (.make (s.store.tables.pendingOf r.name) next now u.margin))
  | idle (hnone : ∀ next, ¬ u.Computes r now next)
      (hrows : s'.store.tables.rowsOf r.name = s.store.tables.rowsOf r.name) :
      Dealt u now s s' r (.ok .keep)

/-- What has become of the tables between `s` and `s'`, by the outcomes of the upserts of some
jobs. -/
structure Accounts (u : Upkeep) (now : Instant) (s : Session) (jobs : List (Registration Body))
    (outcomes : List (Except StoreError Plan)) (s' : Session) : Prop where
  leaves : s.Leaves s' s'.store.tables
  keyed : s'.store.tables.Keyed s'.store.turn
  results : s'.store.tables.results = s.store.tables.results
  lease : s'.store.tables.lease = s.store.tables.lease
  dealt : List.Forall₂ (u.Dealt now s s') jobs outcomes
  others : ∀ name ∉ jobs.map Registration.name,
    s'.store.tables.rowsOf name = s.store.tables.rowsOf name
  length : s'.store.tables.queue.length = s.store.tables.queue.length + outcomes.countP adds

/-- After one job come the others, whatever the log says about it. -/
lemma upserts_cons_ends {post : List (Except StoreError Plan) → Session → Prop}
    (h : (u.upsert r now).Ends s fun outcome s' => ∀ s'', s''.store = s'.store →
      s''.clock = s'.clock →
        (u.upserts now jobs).Ends s'' fun outcomes => post (outcome :: outcomes)) :
    (u.upserts now (r :: jobs)).Ends s post := by
  rw [upserts]
  refine (Script.ends_bind _ _).mpr (h.mono fun outcome s' hrest => ?_)
  dsimp only
  have hlater {s'' : Session} (hstore : s''.store = s'.store) (hclock : s''.clock = s'.clock) :
      (u.upserts now jobs >>= fun later => pure (outcome :: later)).Ends s'' post :=
    (Script.ends_bind _ _).mpr ((hrest s'' hstore hclock).mono fun _ _ => (Script.ends_pure _).mpr)
  cases notice? outcome with
  | none => exact hlater rfl rfl
  | some n => exact (Script.ends_bind _ _).mpr ((Script.ends_log _).mpr (hlater rfl rfl))

/-- Nothing has been dealt with yet. -/
lemma Accounts.nil (hsaved : s.store.saved = none) (hkeyed : s.store.tables.Keyed s.store.turn) :
    u.Accounts now s ([] : List (Registration Body)) [] s :=
  ⟨Session.leaves_self hsaved, hkeyed, rfl, rfl, .nil, fun _ _ => rfl, rfl⟩

/-- A job that leaves the tables alone. -/
lemma Accounts.of_same {outcome : Except StoreError Plan}
    (hkeyed : s.store.tables.Keyed s.store.turn) (hleaves : s.Leaves s' s.store.tables)
    (hadds : adds outcome = false) (hdealt : u.Dealt now s s' r outcome) :
    u.Accounts now s [r] [outcome] s' where
  leaves := hleaves.tables ▸ hleaves
  keyed := hleaves.tables ▸ hkeyed.mono hleaves.turn
  results := by rw [hleaves.tables]
  lease := by rw [hleaves.tables]
  dealt := .cons hdealt .nil
  others name _ := by rw [hleaves.tables]
  length := by rw [hleaves.tables, List.countP_singleton, hadds]; rfl

/-- A job whose plan is carried out. -/
lemma Accounts.of_reconciles {plan : Plan} (hkeyed : s.store.tables.Keyed s.store.turn)
    (hnext : u.Computes r now next) (htaken : textRefusal? r.name = none)
    (h : u.Reconciles s r.name next now plan s') : u.Accounts now s [r] [.ok plan] s' := by
  obtain ⟨rfl, d, hd, hd', hleaves⟩ := h
  have hplanned : (s.store.tables.planned d r.name
      (.make (s.store.tables.pendingOf r.name) next now u.margin)).Keyed d.turn := hkeyed.planned hd
  have hkeyed' := hplanned.mono hd'
  refine ⟨hleaves.tables ▸ hleaves, hleaves.tables ▸ hkeyed', ?_, ?_,
    .cons (.planned next d hnext htaken hd (by rw [hleaves.tables])) .nil, fun name hname => ?_, ?_⟩
  · rw [hleaves.tables, Tables.results_planned]
  · rw [hleaves.tables, Tables.lease_planned]
  · rw [hleaves.tables]
    exact Tables.rowsOf_planned_of_ne hkeyed fun heq => hname (List.mem_singleton.mpr heq)
  · rw [hleaves.tables, Tables.length_planned, List.countP_singleton]
    generalize Plan.make (s.store.tables.pendingOf r.name) next now u.margin = plan
    cases plan <;> rfl

/-- Under a name that the store refuses nothing is brought to its next time. -/
lemma reconcile_refused {name : String} (hname : textRefusal? name ≠ none)
    (hsaved : s.store.saved = none) :
    (u.reconcile name next now).Ends s (fun _ _ => False)
      fun _ s' => s.Leaves s' s.store.tables := by
  refine Attempt.ends_committed hsaved (fun s' hopen => ?_) fun _ _ _ hleaves => hleaves
  refine (Attempt.ends_bind _ _).mpr ((Attempt.ends_bind _ _).mpr (Attempt.ends_query
    (fun d reply s₁ hlock _ => ?_) fun fault s₁ _ hkeeps => ?_))
  · exact absurd (Tables.apply_eq_ok.mp hlock).1 hname
  · exact ⟨(hopen.trans hkeeps).restores, fun _ hleaves => hleaves⟩

/-- An upsert that has an answer deals with its job. -/
lemma upsert_accounts (hr : ¬ u.Halts now r) (hsaved : s.store.saved = none)
    (hkeyed : s.store.tables.Keyed s.store.turn) :
    (u.upsert r now).Ends s fun outcome s' => u.Accounts now s [r] [outcome] s' := by
  by_cases hcomputes : ∃ next, u.Computes r now next
  · obtain ⟨next, hnext⟩ := hcomputes
    by_cases htaken : textRefusal? r.name = none
    · refine (upsert_ends hnext hsaved).mono fun outcome s' h => ?_
      cases outcome with
      | error fault =>
          exact .of_same hkeyed h.2 rfl (.failed fault ⟨next, hnext⟩ h.1 (by rw [h.2.tables]))
      | ok plan => exact .of_reconciles hkeyed hnext htaken h
    · have hfail : CanFail s r.name := .inr fun hname => htaken (nameRefusal?_eq_none hname)
      obtain ⟨schedule, hschedule, hat⟩ := id hnext
      rw [upsert, hschedule]
      dsimp only
      rw [hat]
      refine Attempt.ends_iff.mp ((reconcile_refused htaken hsaved).mono (fun _ _ h => h.elim)
        fun fault s' hleaves => ?_)
      exact .of_same hkeyed hleaves rfl
        (.failed fault ⟨next, hnext⟩ hfail (by rw [hleaves.tables]))
  · have hnone : ∀ next, ¬ u.Computes r now next := fun next hnext => hcomputes ⟨next, hnext⟩
    refine (upsert_keeps_idle hnone hr hsaved).mono fun outcome s' h => ?_
    obtain ⟨rfl, hleaves⟩ := h
    exact .of_same hkeyed hleaves rfl (.idle hnone (by rw [hleaves.tables]))

/-! ### One job after the other -/

section Composition

variable {s₁ s₂ : Session} {outcome : Except StoreError Plan}

/-- What came before made no difference to the entries of the job. -/
lemma Dealt.of_before (h : u.Dealt now s₁ s' r outcome)
    (hrows : s₁.store.tables.rowsOf r.name = s.store.tables.rowsOf r.name)
    (hturn : s.store.turn ≤ s₁.store.turn)
    (hfaults : s.store.faults = [] → s₁.store.faults = []) : u.Dealt now s s' r outcome := by
  cases h with
  | failed fault hnext hfail hafter =>
      exact .failed fault hnext (hfail.imp_left (mt hfaults)) (hafter.trans hrows)
  | planned next d hnext htaken hdrawn hafter =>
      rw [Tables.pendingOf_congr hrows] at hafter ⊢
      exact .planned next d hnext htaken (Nat.lt_of_le_of_lt hturn hdrawn)
        (hafter.trans (Tables.rowsOf_planned_congr hrows))
  | idle hnone hafter => exact .idle hnone (hafter.trans hrows)

/-- What came after made no difference to the entries of the job. -/
lemma Dealt.of_after (h : u.Dealt now s s₁ r outcome)
    (hrows : s'.store.tables.rowsOf r.name = s₁.store.tables.rowsOf r.name) :
    u.Dealt now s s' r outcome := by
  cases h with
  | failed fault hnext hfail hafter => exact .failed fault hnext hfail (hrows.trans hafter)
  | planned next d hnext htaken hdrawn hafter =>
      exact .planned next d hnext htaken hdrawn (hrows.trans hafter)
  | idle hnone hafter => exact .idle hnone (hrows.trans hafter)

/-- A job is dealt with, then others with other names. -/
lemma Accounts.cons {outcomes : List (Except StoreError Plan)}
    (h : u.Accounts now s [r] [outcome] s₁) (hstore : s₂.store = s₁.store)
    (hclock : s₂.clock = s₁.clock) (h' : u.Accounts now s₂ jobs outcomes s')
    (hname : r.name ∉ jobs.map Registration.name) :
    u.Accounts now s (r :: jobs) (outcome :: outcomes) s' where
  leaves := (h'.leaves.of_same hstore hclock).after h.leaves
  keyed := h'.keyed
  results := h'.results.trans (hstore ▸ h.results)
  lease := h'.lease.trans (hstore ▸ h.lease)
  dealt := by
    have hkept {name : String} (hne : name ≠ r.name) :
        s₂.store.tables.rowsOf name = s.store.tables.rowsOf name := by
      rw [hstore]
      exact h.others name fun hmem => hne (List.mem_singleton.mp hmem)
    have hlater := h'.others _ hname
    rw [hstore] at hlater
    refine .cons ((List.forall₂_cons.mp h.dealt).1.of_after hlater) ?_
    have hothers : ∀ r' ∈ jobs, r'.name ≠ r.name :=
      fun r' hr' heq => hname (heq ▸ List.mem_map_of_mem hr')
    refine ((List.forall₂_and_left _ _).mpr ⟨hothers, h'.dealt⟩).imp fun r' outcome' hdealt => ?_
    refine hdealt.2.of_before (hkept hdealt.1) ?_ ?_
    · rw [hstore]
      exact h.leaves.turn
    · rw [hstore]
      exact h.leaves.faults
  others name hout := by
    rw [List.map_cons, List.mem_cons, not_or] at hout
    rw [h'.others name hout.2, hstore]
    exact h.others name fun hmem => hout.1 (List.mem_singleton.mp hmem)
  length := by
    rw [h'.length, hstore, h.length, List.countP_singleton, List.countP_cons]
    omega

end Composition

/-- Jobs with answers, which have names of their own, are all dealt with. -/
lemma upserts_ends (hjobs : ∀ r ∈ jobs, ¬ u.Halts now r)
    (hdistinct : (jobs.map Registration.name).Nodup) (hsaved : s.store.saved = none)
    (hkeyed : s.store.tables.Keyed s.store.turn) :
    (u.upserts now jobs).Ends s fun outcomes s' => u.Accounts now s jobs outcomes s' := by
  induction jobs generalizing s with
  | nil => exact (Script.ends_pure _).mpr (.nil hsaved hkeyed)
  | cons r rest ih =>
      obtain ⟨hr, hrest⟩ := List.forall_mem_cons.mp hjobs
      rw [List.map_cons, List.nodup_cons] at hdistinct
      refine upserts_cons_ends ((upsert_accounts hr hsaved hkeyed).mono
        fun outcome s₁ h s₂ hstore hclock => ?_)
      refine (ih hrest hdistinct.2 (hstore ▸ h.leaves.saved) (hstore ▸ h.keyed)).mono
        fun outcomes s' h' => ?_
      exact h.cons hstore hclock h' hdistinct.1

/-- Each of the jobs has an outcome. -/
lemma Accounts.of_mem {outcomes : List (Except StoreError Plan)}
    (h : u.Accounts now s jobs outcomes s') (hr : r ∈ jobs) :
    ∃ outcome ∈ outcomes, u.Dealt now s s' r outcome := by
  obtain ⟨n, hn, rfl⟩ := List.mem_iff_getElem.mp hr
  have hn' : n < outcomes.length := h.dealt.length_eq ▸ hn
  exact ⟨_, List.getElem_mem hn', h.dealt.get hn hn'⟩

lemma Accounts.of_mem_outcomes {outcomes : List (Except StoreError Plan)}
    {outcome : Except StoreError Plan} (h : u.Accounts now s jobs outcomes s')
    (houtcome : outcome ∈ outcomes) : ∃ r ∈ jobs, u.Dealt now s s' r outcome := by
  obtain ⟨n, hn', rfl⟩ := List.mem_iff_getElem.mp houtcome
  have hn : n < jobs.length := h.dealt.length_eq ▸ hn'
  exact ⟨_, List.getElem_mem hn, h.dealt.get hn hn'⟩

/-! ### Cycles -/

/-- The jobs before the first one without an answer. These a cycle reaches. -/
def reached (u : Upkeep) (now : Instant) (jobs : List (Registration Body)) :
    List (Registration Body) :=
  jobs.takeWhile fun r => ¬ u.Halts now r

lemma not_halts_of_mem_reached (h : r ∈ u.reached now jobs) : ¬ u.Halts now r := by
  simpa using List.mem_takeWhile_imp h

lemma reached_sublist : (u.reached now jobs).Sublist jobs := List.takeWhile_sublist _

lemma reached_eq_self (h : ∀ r ∈ jobs, ¬ u.Halts now r) : u.reached now jobs = jobs :=
  List.takeWhile_eq_self_iff.mpr fun r hr => by simpa using h r hr

/-- After the jobs that are reached comes one without an answer, if there is any. -/
lemma reached_append (h : ∃ r ∈ jobs, u.Halts now r) :
    ∃ first after, jobs = u.reached now jobs ++ first :: after ∧ u.Halts now first := by
  obtain ⟨r, hr, hhalts⟩ := h
  obtain ⟨first, hfound⟩ := Option.isSome_iff_exists.mp (List.find?_isSome.mpr
    ⟨r, hr, decide_eq_true hhalts⟩ : (jobs.find? fun r => u.Halts now r).isSome)
  obtain ⟨hfirst, before, after, rfl, hbefore⟩ := List.find?_eq_some_iff_append.mp hfound
  refine ⟨first, after, ?_, of_decide_eq_true hfirst⟩
  rw [reached, List.takeWhile_append_of_pos (by simpa using hbefore), List.takeWhile_cons_of_neg]
  · rw [List.append_nil]
  · simpa using hfirst

/-- With a job without an answer a cycle does not come to its end. -/
lemma runOnce_breaks {g : Registry Body} (h : ∃ r ∈ g.periodic, u.Halts now r)
    (hsaved : s.store.saved = none) : ((u.runOnce g now).run s).1 = .error .outOfCalendar := by
  obtain ⟨first, after, hjobs, hfirst⟩ := reached_append h
  obtain ⟨report, s', -, -, hhalted⟩ :=
    runOnce_halts hjobs (fun r => not_halts_of_mem_reached) hfirst hsaved
  rw [hhalted]

/-- If a cycle has come to its end, there were answers for all its jobs. -/
lemma not_halts_of_runOnce {g : Registry Body} {report : CycleReport}
    (hrun : (u.runOnce g now).run s = (.ok report, s')) (hsaved : s.store.saved = none) :
    ∀ r ∈ g.periodic, ¬ u.Halts now r := by
  intro r hr hhalts
  have hbreaks := runOnce_breaks ⟨r, hr, hhalts⟩ hsaved
  rw [hrun] at hbreaks
  cases hbreaks

/-- What a cycle comes to. It deals with the jobs that it reaches; it reports what becomes of them
if these are all, and it halts otherwise. -/
theorem runOnce_deals (u : Upkeep) (now : Instant) {g : Registry Body}
    (hdistinct : (g.periodic.map Registration.name).Nodup) (hsaved : s.store.saved = none)
    (hkeyed : s.store.tables.Keyed s.store.turn) :
    ∃ outcomes s', (u.upserts now (u.reached now g.periodic)).run s = (.ok outcomes, s') ∧
      u.Accounts now s (u.reached now g.periodic) outcomes s' ∧
      ((u.runOnce g now).run s).2.store = s'.store ∧
      ((u.runOnce g now).run s).1 = if ∃ r ∈ g.periodic, u.Halts now r then .error .outOfCalendar
        else .ok (outcomes.foldl CycleReport.count .empty) := by
  obtain ⟨outcomes, s', hrun, haccounts⟩ := upserts_ends (s := s)
    (fun r => not_halts_of_mem_reached) (hdistinct.sublist (reached_sublist.map _)) hsaved hkeyed
  have hgone : (u.goThrough now .empty (u.reached now g.periodic)).run s =
      (.ok (outcomes.foldl CycleReport.count .empty), s') := by
    rw [goThrough_eq_map, map_eq_pure_bind, Script.run_bind, hrun]
    rfl
  refine ⟨outcomes, s', hrun, haccounts, ?_⟩
  by_cases hhalts : ∃ r ∈ g.periodic, u.Halts now r
  · obtain ⟨first, after, hjobs, hfirst⟩ := reached_append hhalts
    obtain ⟨report, s'', hgone', -, hhalted⟩ :=
      runOnce_halts hjobs (fun r => not_halts_of_mem_reached) hfirst hsaved
    obtain ⟨-, rfl⟩ := Prod.mk.inj (hgone.symm.trans hgone')
    rw [hhalted, if_pos hhalts]
    exact ⟨rfl, rfl⟩
  · have hall : u.reached now g.periodic = g.periodic :=
      reached_eq_self fun r hr hhalt => hhalts ⟨r, hr, hhalt⟩
    rw [hall] at hgone
    rw [runOnce, Script.run_bind, hgone, if_neg hhalts]
    exact ⟨rfl, rfl⟩

/-- If there are answers for all jobs, a cycle deals with each of them and reports what becomes of
them. -/
lemma runOnce_deals_with_all {g : Registry Body} (hjobs : ∀ r ∈ g.periodic, ¬ u.Halts now r)
    (hdistinct : (g.periodic.map Registration.name).Nodup) (hsaved : s.store.saved = none)
    (hkeyed : s.store.tables.Keyed s.store.turn) :
    ∃ outcomes s', (u.upserts now g.periodic).run s = (.ok outcomes, s') ∧
      u.Accounts now s g.periodic outcomes s' ∧
      ((u.runOnce g now).run s).2.store = s'.store ∧
      ((u.runOnce g now).run s).1 = .ok (outcomes.foldl CycleReport.count .empty) := by
  obtain ⟨outcomes, s', hrun, haccounts, hstore, hreport⟩ :=
    runOnce_deals u now hdistinct hsaved hkeyed
  have hnone : ¬ ∃ r ∈ g.periodic, u.Halts now r := by
    rintro ⟨r, hr, hhalts⟩
    exact hjobs r hr hhalts
  rw [reached_eq_self hjobs] at hrun haccounts
  rw [if_neg hnone] at hreport
  exact ⟨outcomes, s', hrun, haccounts, hstore, hreport⟩

end Upkeep

end JobDispatch
