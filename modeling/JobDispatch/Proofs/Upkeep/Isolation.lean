import JobDispatch.Proofs.Store.Strikes
import JobDispatch.Proofs.Upkeep.Convergence

/-!
A fault in the upsert of one job makes no difference to the others.

The transaction of a job fails as a whole or not at all, and the plan for a job depends only on its
own entries. So a cycle under faults leaves what a cycle without faults leaves that has to do with
the other jobs only, and its report says what has become of the queue.

* `Upkeep.failures`: the jobs whose upserts fail.
* `Tables.Changed`: an entry has got another time. So many upserts have moved one
  (`Upkeep.Accounts.countP_changed`).
* `Entry.Agrees`: two entries differ at most in what the store makes up for a new row.
* `Upkeep.Accounts.agrees`: two cycles over the same tables, the second without faults and without
  the jobs that fail in the first.
* `Upkeep.isolates_unless_halts`: the whole account of a cycle under faults.
-/

namespace JobDispatch

/-! ### Entries that have got another time -/

namespace Tables

/-- The entry is still there with another time. -/
def Changed (t : Tables) (e : Entry) : Prop :=
  ∃ e' ∈ t.queue, e'.id = e.id ∧ e'.notBefore ≠ e.notBefore

instance (t : Tables) : DecidablePred t.Changed := fun e => by unfold Changed; infer_instance

variable {t t' : Tables} {turn : Nat} {e : Entry}

lemma Keyed.not_changed (h : t.Keyed turn) (he : e ∈ t.queue) : ¬ t.Changed e := by
  rintro ⟨e', he', hid, hne⟩
  exact hne (congrArg Entry.notBefore (h.eq_of_id he' he hid))

/-- Entries are counted job by job. -/
lemma countP_queue_eq_sum (names : List String) (hdistinct : names.Nodup) {p : Entry → Bool}
    (hnames : ∀ e ∈ t.queue, p e → e.jobName ∈ names) :
    t.queue.countP p = (names.map fun name => (t.rowsOf name).countP p).sum := by
  induction names generalizing p with
  | nil => exact List.countP_eq_zero.mpr fun e he hp => nomatch hnames e he hp
  | cons name rest ih =>
      obtain ⟨hname, hrest⟩ := List.nodup_cons.mp hdistinct
      have hsplit : t.queue.countP p = (t.rowsOf name).countP p +
          t.queue.countP fun e => p e && e.jobName != name := by
        have hparts := List.length_eq_countP_add_countP (fun e : Entry => e.jobName == name)
          (l := t.queue.filter p)
        rw [← List.countP_eq_length_filter, List.countP_filter, List.countP_filter] at hparts
        rw [hparts, rowsOf, List.countP_filter]
        congr 1 <;> refine List.countP_congr fun e _ => ?_ <;> simp [and_comm]
      have hothers : ∀ other ∈ rest,
          (t.rowsOf other).countP (fun e => p e && e.jobName != name) =
            (t.rowsOf other).countP p := by
        intro other hother
        refine List.countP_congr fun e he => ?_
        have hne : e.jobName ≠ name := by
          rw [(mem_rowsOf.mp he).2]
          rintro rfl
          exact hname hother
        simp [hne]
      rw [hsplit, ih hrest, List.map_cons, List.sum_cons, List.map_congr_left hothers]
      intro e he hp
      simp only [Bool.and_eq_true, bne_iff_ne] at hp
      exact (List.mem_cons.mp (hnames e he hp.1)).resolve_left hp.2

end Tables

/-- A plan that moves an entry changes one of its job, and the others change none. -/
lemma Revised.countP_changed {next now : Instant} {margin : Span} {d : Tables.Draw} {name : String}
    {plan : Plan} {rows rows' : List Entry} {t' : Tables} {turn : Nat}
    (h : Revised next now margin d name plan rows rows') (hkeyed : t'.Keyed turn)
    (hafter : ∀ e ∈ rows', e ∈ t'.queue) :
    rows.countP (fun e => t'.Changed e) = if Upkeep.moves (.ok plan) then 1 else 0 := by
  have hsame {others : List Entry} (hothers : ∀ e ∈ others, e ∈ rows') :
      others.countP (fun e => t'.Changed e) = 0 := by
    refine List.countP_eq_zero.mpr fun e he => ?_
    rw [decide_eq_true_iff]
    exact hkeyed.not_changed (hafter e (hothers e he))
  cases h with
  | added => rfl
  | moved before m after current hat hfar hne hleast =>
      have hbefore : before.countP (fun e => t'.Changed e) = 0 :=
        hsame fun e he => List.mem_append_left _ he
      have hlater : after.countP (fun e => t'.Changed e) = 0 :=
        hsame fun e he => List.mem_append_right _ (List.mem_cons_of_mem _ he)
      have hmoved : t'.Changed m := by
        refine ⟨_, hafter _ (List.mem_append_right _ List.mem_cons_self), rfl, ?_⟩
        rw [hat]
        exact fun heq => hne (Option.some.inj heq).symm
      rw [List.countP_append, List.countP_cons, hbefore, hlater, decide_eq_true hmoved]
      rfl
  | kept rows hsettled => exact hsame fun e he => he

/-! ### Entries that agree -/

namespace Entry

/-- The entry has been added since that statement. -/
def Newer (turn : Nat) (e : Entry) : Prop := ∃ n, turn < n ∧ e.id = .drawn n

/-- The entries are the same, or both are new and differ only in key and place. -/
def Agrees (turn : Nat) (a b : Entry) : Prop :=
  a = b ∨ a.Newer turn ∧ b.Newer turn ∧ b = { a with id := b.id, createdAt := b.createdAt }

end Entry

lemma Entry.Agrees.jobName_eq {turn : Nat} {a b : Entry} (h : a.Agrees turn b) :
    a.jobName = b.jobName := by
  obtain rfl | ⟨-, -, hb⟩ := h
  · rfl
  · exact (congrArg Entry.jobName hb).symm

/-- What a plan makes of the tables depends on the draw only up to that. -/
lemma Tables.agrees_planned {t : Tables} {d d' : Draw} {turn : Nat} (hd : turn < d.turn)
    (hd' : turn < d'.turn) (name other : String) (plan : Plan) :
    List.Forall₂ (Entry.Agrees turn) ((t.planned d name plan).rowsOf other)
      ((t.planned d' name plan).rowsOf other) := by
  have hself (queue : List Entry) : List.Forall₂ (Entry.Agrees turn) queue queue :=
    List.forall₂_same.mpr fun e _ => .inl rfl
  refine List.rel_filter (fun a b hab => ?_) ?_
  · simp [hab.jobName_eq]
  · cases plan with
    | insert next =>
        exact List.rel_append (hself t.queue) (.cons (.inr ⟨⟨_, hd, rfl⟩, ⟨_, hd', rfl⟩, rfl⟩) .nil)
    | reschedule id current next => exact hself _
    | keep => exact hself _

/-! ### Jobs that fail -/

/-- The registry without the jobs of these names. -/
def Registry.without {Body : Type} (g : Registry Body) (names : List String) : Registry Body :=
  ⟨g.jobs.filter fun r => r.name ∉ names⟩

namespace Registry

variable {Body : Type} {g : Registry Body} {r : Registration Body} {names : List String}

lemma Enrolled.without (hg : g.Enrolled) (names : List String) : (g.without names).Enrolled where
  distinct := hg.distinct.sublist (List.filter_sublist.map _)
  fits r hr := hg.fits r (List.mem_of_mem_filter hr)
  parsed r hr := hg.parsed r (List.mem_of_mem_filter hr)

lemma mem_periodic_without : r ∈ (g.without names).periodic ↔ r ∈ g.periodic ∧ r.name ∉ names := by
  simp only [periodic, without, List.mem_filter, decide_eq_true_iff]
  exact and_right_comm

end Registry

namespace Upkeep

variable {Body : Type} {u : Upkeep} {now next : Instant} {r : Registration Body} {s s' : Session}
  {jobs : List (Registration Body)} {outcomes : List (Except StoreError Plan)}

/-- The names of the jobs whose upserts fail. -/
def failures (jobs : List (Registration Body)) (outcomes : List (Except StoreError Plan)) :
    List String :=
  ((jobs.zip outcomes).filter fun job => fails job.2).map fun job => job.1.name

lemma failures_cons (r : Registration Body) (outcome : Except StoreError Plan) :
    failures (r :: jobs) (outcome :: outcomes) =
      if fails outcome then r.name :: failures jobs outcomes else failures jobs outcomes := by
  rw [failures, List.zip_cons_cons, List.filter_cons]
  split <;> rfl

lemma failures_subset : failures jobs outcomes ⊆ jobs.map Registration.name := by
  intro name hname
  obtain ⟨⟨r, outcome⟩, hjob, rfl⟩ := List.mem_map.mp hname
  exact List.mem_map_of_mem (List.of_mem_zip (List.mem_of_mem_filter hjob)).1

/-- A job is among those that fail exactly if its own outcome is a failure. -/
lemma exists_outcome {relates : Registration Body → Except StoreError Plan → Prop}
    (h : List.Forall₂ relates jobs outcomes) (hdistinct : (jobs.map Registration.name).Nodup) :
    ∀ r ∈ jobs, ∃ outcome, relates r outcome ∧
      (r.name ∈ failures jobs outcomes ↔ fails outcome = true) := by
  induction h with
  | nil => exact nofun
  | @cons first outcome jobs outcomes hfirst hrest ih =>
      rw [List.map_cons, List.nodup_cons] at hdistinct
      rw [failures_cons]
      refine List.forall_mem_cons.mpr ⟨⟨outcome, hfirst, ?_⟩, fun r hr => ?_⟩
      · cases fails outcome with
        | true => exact iff_of_true List.mem_cons_self rfl
        | false => exact iff_of_false (fun hmem => hdistinct.1 (failures_subset hmem)) nofun
      · obtain ⟨outcome', hrelates, hiff⟩ := ih hdistinct.2 r hr
        refine ⟨outcome', hrelates, Iff.trans ?_ hiff⟩
        have hne : r.name ≠ first.name := fun heq => hdistinct.1 (heq ▸ List.mem_map_of_mem hr)
        split
        · rw [List.mem_cons, or_iff_right hne]
        · rfl

/-! ### What the report says of the queue -/

lemma Dealt.countP_changed {outcome : Except StoreError Plan} (h : u.Dealt now s s' r outcome)
    (hkeyed : s.store.tables.Keyed s.store.turn) (hkeyed' : s'.store.tables.Keyed s'.store.turn) :
    (s.store.tables.rowsOf r.name).countP (fun e => s'.store.tables.Changed e) =
      if moves outcome then 1 else 0 := by
  have hsame (hrows : s'.store.tables.rowsOf r.name = s.store.tables.rowsOf r.name) :
      (s.store.tables.rowsOf r.name).countP (fun e => s'.store.tables.Changed e) = 0 := by
    refine List.countP_eq_zero.mpr fun e he => ?_
    rw [← hrows] at he
    rw [decide_eq_true_iff]
    exact hkeyed'.not_changed (Tables.mem_rowsOf.mp he).1
  cases h with
  | failed fault _ _ hrows => exact hsame hrows
  | planned next d hnext _ _ hrows =>
      obtain ⟨secs, rfl⟩ := hnext.whole
      have hrevised := hrows ▸ hkeyed.revised (d := d) (Instant.stored_ofSecs secs)
      exact hrevised.countP_changed hkeyed' fun e he => (Tables.mem_rowsOf.mp he).1
  | idle _ hrows => exact hsame hrows

lemma sum_eq_countP {f : Registration Body → Nat} {p : Except StoreError Plan → Bool}
    (h : List.Forall₂ (fun r outcome => f r = if p outcome then 1 else 0) jobs outcomes) :
    (jobs.map f).sum = outcomes.countP p := by
  induction h with
  | nil => rfl
  | cons hfirst _ ih =>
      rw [List.map_cons, List.sum_cons, List.countP_cons, hfirst, ih, Nat.add_comm]

/-- As many entries have got another time as upserts have moved one. -/
lemma Accounts.countP_changed (h : u.Accounts now s jobs outcomes s')
    (hdistinct : (jobs.map Registration.name).Nodup)
    (hkeyed : s.store.tables.Keyed s.store.turn) :
    s.store.tables.queue.countP (fun e => s'.store.tables.Changed e) = outcomes.countP moves := by
  rw [Tables.countP_queue_eq_sum _ hdistinct, List.map_map]
  · exact sum_eq_countP (h.dealt.imp fun r outcome hdealt =>
      hdealt.countP_changed hkeyed h.keyed)
  · intro e he hchanged
    by_contra hother
    have hmem : e ∈ s'.store.tables.rowsOf e.jobName := by
      rw [h.others _ hother]
      exact Tables.mem_rowsOf.mpr ⟨he, rfl⟩
    exact h.keyed.not_changed (Tables.mem_rowsOf.mp hmem).1 (of_decide_eq_true hchanged)

/-! ### Two cycles -/

section Pair

variable {s₀ s₀' : Session} {jobs₀ : List (Registration Body)}
  {outcome outcome₀ : Except StoreError Plan} {outcomes₀ : List (Except StoreError Plan)}

/-- A job that has not failed does not fail without faults. -/
lemma Dealt.not_fails (h : u.Dealt now s s' r outcome) (h₀ : u.Dealt now s₀ s₀' r outcome₀)
    (hfits : Registration.NameFits r.name) (hfaults : s₀.store.faults = [])
    (hok : ¬ fails outcome = true) : ¬ fails outcome₀ = true := by
  cases h₀ with
  | failed fault hnext hfail =>
      cases h with
      | failed => exact absurd rfl hok
      | planned next d hnext' htaken =>
          exact absurd hfail (not_or_intro (absurd hfaults)
            (absurd (nameRefusal?_of_fits hfits htaken)))
      | idle hnone =>
          obtain ⟨next, hnext⟩ := hnext
          exact absurd hnext (hnone next)
  | planned => exact nofun
  | idle => exact nofun

/-- If neither fails, both leave the same. -/
lemma Dealt.agrees (h : u.Dealt now s s' r outcome) (h₀ : u.Dealt now s₀ s₀' r outcome₀)
    (htables : s₀.store.tables = s.store.tables) (hturn : s₀.store.turn = s.store.turn)
    (hok : ¬ fails outcome = true) (hok₀ : ¬ fails outcome₀ = true) :
    List.Forall₂ (Entry.Agrees s.store.turn) (s'.store.tables.rowsOf r.name)
      (s₀'.store.tables.rowsOf r.name) := by
  cases h with
  | failed => exact absurd rfl hok
  | planned next d hnext _ hdrawn hrows =>
      cases h₀ with
      | failed => exact absurd rfl hok₀
      | planned next₀ d₀ hnext₀ _ hdrawn₀ hrows₀ =>
          obtain rfl := hnext.unique hnext₀
          rw [htables] at hrows₀
          rw [hturn] at hdrawn₀
          rw [hrows, hrows₀]
          exact Tables.agrees_planned hdrawn hdrawn₀ _ _ _
      | idle hnone => exact absurd hnext (hnone next)
  | idle hnone hrows =>
      cases h₀ with
      | failed => exact absurd rfl hok₀
      | planned next d hnext => exact absurd hnext (hnone next)
      | idle _ hrows₀ =>
          rw [hrows, hrows₀, htables]
          exact List.forall₂_same.mpr fun e _ => .inl rfl

/-- Jobs that fail keep their entries. -/
lemma Accounts.kept (h : u.Accounts now s jobs outcomes s')
    (hdistinct : (jobs.map Registration.name).Nodup) :
    ∀ name ∈ failures jobs outcomes,
      s'.store.tables.rowsOf name = s.store.tables.rowsOf name := by
  intro name hname
  obtain ⟨r, hr, rfl⟩ := List.mem_map.mp (failures_subset hname)
  obtain ⟨outcome, hdealt, hiff⟩ := exists_outcome h.dealt hdistinct r hr
  cases hdealt with
  | failed fault _ _ hrows => exact hrows
  | planned next d =>
      generalize Plan.make _ next now u.margin = plan at hiff
      exact absurd (hiff.mp hname) nofun
  | idle => exact absurd (hiff.mp hname) nofun

/-- A cycle without faults over the jobs that do not fail has no failure and leaves the same. -/
lemma Accounts.agrees (h : u.Accounts now s jobs outcomes s')
    (h₀ : u.Accounts now { s with store := s.store.faultless } jobs₀ outcomes₀ s₀')
    (hjobs : ∀ r, r ∈ jobs₀ ↔ r ∈ jobs ∧ r.name ∉ failures jobs outcomes)
    (hdistinct : (jobs.map Registration.name).Nodup)
    (hfits : ∀ r ∈ jobs, Registration.NameFits r.name) :
    outcomes₀.countP fails = 0 ∧
      ∀ name, List.Forall₂ (Entry.Agrees s.store.turn) (s'.store.tables.rowsOf name)
        (s₀'.store.tables.rowsOf name) := by
  have hfares (r : Registration Body) (hr : r ∈ jobs) (hname : r.name ∉ failures jobs outcomes) :
      ∃ outcome, u.Dealt now s s' r outcome ∧ ¬ fails outcome = true := by
    obtain ⟨outcome, hdealt, hiff⟩ := exists_outcome h.dealt hdistinct r hr
    exact ⟨outcome, hdealt, mt hiff.mpr hname⟩
  constructor
  · refine List.countP_eq_zero.mpr fun outcome₀ houtcome₀ => ?_
    obtain ⟨r, hr, hdealt₀⟩ := h₀.of_mem_outcomes houtcome₀
    obtain ⟨hr, hname⟩ := (hjobs r).mp hr
    obtain ⟨outcome, hdealt, hok⟩ := hfares r hr hname
    exact hdealt.not_fails hdealt₀ (hfits r hr) rfl hok
  · intro name
    by_cases hname : ∃ r ∈ jobs, r.name = name ∧ name ∉ failures jobs outcomes
    · obtain ⟨r, hr, rfl, hname⟩ := hname
      obtain ⟨outcome, hdealt, hok⟩ := hfares r hr hname
      obtain ⟨outcome₀, -, hdealt₀⟩ := h₀.of_mem ((hjobs r).mpr ⟨hr, hname⟩)
      exact hdealt.agrees hdealt₀ rfl rfl hok (hdealt.not_fails hdealt₀ (hfits r hr) rfl hok)
    · -- both leave the entries of the name as they are
      have hrows : s'.store.tables.rowsOf name = s.store.tables.rowsOf name := by
        by_cases hfailed : name ∈ failures jobs outcomes
        · exact h.kept hdistinct name hfailed
        · refine h.others name fun hmem => ?_
          obtain ⟨r, hr, rfl⟩ := List.mem_map.mp hmem
          exact hname ⟨r, hr, rfl, hfailed⟩
      have hrows₀ : s₀'.store.tables.rowsOf name = s.store.tables.rowsOf name := by
        refine h₀.others name fun hmem => ?_
        obtain ⟨r, hr, rfl⟩ := List.mem_map.mp hmem
        obtain ⟨hr, hfailed⟩ := (hjobs r).mp hr
        exact hname ⟨r, hr, rfl, hfailed⟩
      rw [hrows, hrows₀]
      exact List.forall₂_same.mpr fun e _ => .inl rfl

end Pair

/-! ### Cycles -/

/-- The whole account of a cycle: what has become of every job, what the report says of the queue,
that jobs that fail keep their entries, and that the others fare as in a cycle without faults over
these alone. -/
structure Isolates (u : Upkeep) (g : Registry Body) (now : Instant) (s : Session)
    (report : CycleReport) (s' : Session) (outcomes : List (Except StoreError Plan)) : Prop where
  upserts : ∃ s₁, (u.upserts now g.periodic).run s = (.ok outcomes, s₁) ∧ s'.store = s₁.store
  every : outcomes.length = g.periodic.length
  total : report.total = g.periodic.length
  failed : report.failed = outcomes.countP fails
  rescheduled : report.rescheduled =
    s.store.tables.queue.countP fun e => s'.store.tables.Changed e
  inserted : s'.store.tables.queue.length = s.store.tables.queue.length + report.inserted
  kept : ∀ name ∈ failures g.periodic outcomes,
    s'.store.tables.rowsOf name = s.store.tables.rowsOf name
  restricted : (u.runOnce (g.without (failures g.periodic outcomes)) now).Ends
    { s with store := s.store.faultless } fun report₀ s₀ => report₀.failed = 0 ∧
      ∀ name, List.Forall₂ (Entry.Agrees s.store.turn) (s'.store.tables.rowsOf name)
        (s₀.store.tables.rowsOf name)

/-- **Faults are isolated job by job unless a job halts the cycle.** Take any tables and any faults.
If all periodic jobs have answers, the cycle comes to its end. Each job has an outcome, and the
report counts the outcomes, the entries that have got another time and those that the queue has
gained. The entries of the jobs that fail stay as they are. All entries are those that a cycle
without faults over the other jobs leaves, up to the keys and places of new entries. If a periodic
job has no answer, the cycle does not come to its end. -/
theorem isolates_unless_halts (u : Upkeep) (now : Instant) {g : Registry Body} (hg : g.Enrolled)
    (hsaved : s.store.saved = none) (hkeyed : s.store.tables.Keyed s.store.turn) :
    ((∀ r ∈ g.periodic, ¬ u.Halts now r) → (u.runOnce g now).Ends s fun report s' =>
      ∃ outcomes, u.Isolates g now s report s' outcomes) ∧
    ((∃ r ∈ g.periodic, u.Halts now r) →
      ((u.runOnce g now).run s).1 = .error .outOfCalendar) := by
  have hdistinct := hg.distinct_periodic
  refine ⟨fun hjobs => ?_, fun hhalts => runOnce_breaks hhalts hsaved⟩
  obtain ⟨outcomes, s₁, hrun, haccounts, hstore, hreport⟩ :=
    runOnce_deals_with_all hjobs hdistinct hsaved hkeyed
  obtain ⟨hinserted, hmoved, hfailed, htotal⟩ := foldl_count .empty outcomes
  have hlength := haccounts.dealt.length_eq
  refine ⟨_, _, Prod.ext hreport rfl, outcomes, ⟨s₁, hrun, hstore⟩, hlength.symm, ?_, ?_, ?_, ?_,
    ?_, ?_⟩
  · rw [htotal, hlength]
    exact Nat.zero_add _
  · rw [hfailed]
    exact Nat.zero_add _
  · rw [hmoved, hstore, haccounts.countP_changed hdistinct hkeyed]
    exact Nat.zero_add _
  · rw [hinserted, hstore, haccounts.length]
    exact congrArg _ (Nat.zero_add _).symm
  · rw [hstore]
    exact haccounts.kept hdistinct
  · have hsub : ∀ r ∈ (g.without (failures g.periodic outcomes)).periodic, ¬ u.Halts now r :=
      fun r hr => hjobs r (Registry.mem_periodic_without.mp hr).1
    obtain ⟨outcomes₀, s₀, -, haccounts₀, hstore₀, hreport₀⟩ := runOnce_deals_with_all hsub
      (s := { s with store := s.store.faultless })
      (hg.without (failures g.periodic outcomes)).distinct_periodic hsaved hkeyed
    have hfits : ∀ r ∈ g.periodic, Registration.NameFits r.name :=
      fun r hr => hg.fits r (List.mem_of_mem_filter hr)
    obtain ⟨hnone, hagrees⟩ := haccounts.agrees haccounts₀
      (fun r => Registry.mem_periodic_without) hdistinct hfits
    refine ⟨_, _, Prod.ext hreport₀ rfl, ?_, fun name => ?_⟩
    · exact (failed_foldl_count outcomes₀).trans hnone
    · rw [hstore, hstore₀]
      exact hagrees name

/-- A job at noon and one at noon on the 31st. -/
def noons : Registry Unit := ⟨[noon, lastNoon "other"]⟩

lemma enrolled_pair : noons.Enrolled :=
  ⟨by decide +kernel, by decide +kernel,
    fun r hr => enrolled_noons.parsed r (List.mem_cons_of_mem _ hr)⟩

/-- A new store that is to lose one commit. -/
def losesCommit : Session :=
  .still { Store.new with faults := [⟨.commit, "40001", "could not serialize access", 1, 0⟩] }
    ⟨1325221200, 0⟩

/-- The first job loses its commit, and the second one gets its entry. -/
theorem isolates_unless_halts_commit : (atNoon.runOnce noons ⟨1325221200, 0⟩).Ends losesCommit
    fun report s' => report = ⟨1, 0, 0, 1⟩ ∧
      ∃ outcomes, atNoon.Isolates noons ⟨1325221200, 0⟩ losesCommit report s' outcomes := by
  have hkeyed : losesCommit.store.tables.Keyed losesCommit.store.turn := Store.calm_new.keyed
  have hjobs : ∀ r ∈ noons.periodic, ¬ atNoon.Halts ⟨1325221200, 0⟩ r := by
    have hperiodic : noons.periodic = [noon, lastNoon "other"] := rfl
    rw [hperiodic, List.forall_mem_cons, List.forall_mem_singleton]
    exact ⟨by decide +kernel, by decide +kernel⟩
  have hreport : ((atNoon.runOnce noons ⟨1325221200, 0⟩).run losesCommit).1 =
      .ok ⟨1, 0, 0, 1⟩ := by
    decide +kernel
  obtain ⟨hisolates, -⟩ := isolates_unless_halts atNoon ⟨1325221200, 0⟩ enrolled_pair rfl hkeyed
  obtain ⟨report, s', hrun, hall⟩ := hisolates hjobs
  rw [hrun] at hreport
  exact ⟨report, s', hrun, Except.ok.inj hreport, hall⟩

/-- In Apia at the same time, the first job has no next noon. The second one, which has one, gets no
entry, as the cycle never comes to it. -/
theorem noon_starves_other : noons.Enrolled ∧
    inApia.Computes (lastNoon "other") ⟨1325221200, 0⟩ (.ofSecs 1325282400) ∧
    ∀ s : Session, (inApia.runOnce noons ⟨1325221200, 0⟩).run s = (.error .outOfCalendar, s) := by
  have hhalts : inApia.Halts ⟨1325221200, 0⟩ noon := by decide +kernel
  exact ⟨enrolled_pair, ⟨_, rfl, by decide +kernel⟩, runOnce_halts_at_once rfl hhalts⟩

end Upkeep

end JobDispatch
