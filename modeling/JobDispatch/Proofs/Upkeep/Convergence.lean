import JobDispatch.Proofs.Job.NameLength
import JobDispatch.Proofs.Upkeep.Outcomes

/-!
Cycles that come one after the other at the same instant.

An upsert brings the entries of its job nearer to where they stay, and the upserts of different jobs
do not touch each other's entries. So after as many cycles as a periodic job has entries, and after
one cycle at least, nothing changes any more. Between two cycles the rows may come in any other
order. The exceptions are jobs for which there is no answer to when they fire next, and jobs whose
names the store refuses: as long as there is one, no cycle comes to its end without a failure.

* `Upkeep.Keepable`: a job that is no such exception.
* `Upkeep.runAt_calm`: what a cycle does to the entries of each job.
* `Upkeep.goThrough_settled`: a cycle leaves settled entries as they are.
* `Upkeep.afterCycles_nears`: how near the entries are after so many cycles.
* `Upkeep.settles_unless_not_keepable`: cycles settle the queue, or none of them comes to its end
  without a failure.
-/

namespace JobDispatch

/-- No transaction is open, no fault will strike, and the entries have keys of their own. -/
structure Store.Calm (st : Store) : Prop where
  closed : st.saved = none
  faultless : st.faults = []
  keyed : st.tables.Keyed st.turn

lemma Store.calm_new : Store.new.Calm := by
  refine ⟨rfl, rfl, List.nodup_nil, ?_⟩
  intro e he
  cases he

lemma Store.Calm.of_leaves {s s' : Session} {tables : Tables} (h : s.store.Calm)
    (hleaves : s.Leaves s' tables) (hkeyed : tables.Keyed s'.store.turn) : s'.store.Calm :=
  ⟨hleaves.saved, hleaves.faults h.faultless, hleaves.tables ▸ hkeyed⟩

lemma nameRefusal?_of_fits {name : String} (hfits : Registration.NameFits name)
    (htext : textRefusal? name = none) : nameRefusal? name = none := by
  have hlength := Text.length_le_utf8ByteSize name
  have hwidth : ¬ nameWidth < name.length := by
    have hbytes := hfits.2
    simp only [nameWidth]
    omega
  rw [nameRefusal?, htext, if_neg hwidth]
  rfl

namespace Upkeep

variable {Body : Type} {u : Upkeep} {now next : Instant} {r : Registration Body} {s : Session}
  {jobs : List (Registration Body)} {report : CycleReport}

/-- The job computes a next time, and the store does not take its name. -/
def Refused (u : Upkeep) (now : Instant) (r : Registration Body) : Prop :=
  (∃ next, u.Computes r now next) ∧ textRefusal? r.name ≠ none

/-- There is an answer to when the job fires next, and if it is a time the store takes the name. -/
def Keepable (u : Upkeep) (now : Instant) (r : Registration Body) : Prop :=
  ¬ u.Halts now r ∧ ¬ u.Refused now r

/-! ### One upsert -/

/-- The upsert of a job whose name is taken does not fail as long as no fault strikes. -/
lemma not_canFail (hcalm : s.store.Calm) (hfits : Registration.NameFits r.name)
    (hr : u.Keepable now r) (hnext : u.Computes r now next) : ¬ CanFail s r.name := by
  have htext : textRefusal? r.name = none := by
    by_contra hrefused
    exact hr.2 ⟨⟨next, hnext⟩, hrefused⟩
  rintro (hfaults | hname)
  · exact hfaults hcalm.faultless
  · exact hname (nameRefusal?_of_fits hfits htext)

/-- What has been done to the entries of a job that is kept. -/
lemma Dealt.replanned {s' : Session} {outcome : Except StoreError Plan}
    (h : u.Dealt now s s' r outcome) (hcalm : s.store.Calm)
    (hfits : Registration.NameFits r.name) (hr : u.Keepable now r)
    (hnext : u.Computes r now next) : Replanned next now u.margin
      (s.store.tables.rowsOf r.name) (s'.store.tables.rowsOf r.name) := by
  cases h with
  | failed fault _ hfail _ => exact absurd hfail (not_canFail hcalm hfits hr hnext)
  | planned next' d hnext' _ _ hrows =>
      obtain rfl := hnext.unique hnext'
      obtain ⟨secs, rfl⟩ := hnext.whole
      rw [hrows]
      exact hcalm.keyed.replanned (Instant.stored_ofSecs secs)
  | idle hnone _ => exact absurd hnext (hnone next)

/-- An upsert leaves settled entries as they are. -/
lemma upsert_settled (hcalm : s.store.Calm) (hfits : Registration.NameFits r.name)
    (hr : u.Keepable now r) (hsettled : ∀ next, u.Computes r now next →
      Settled next now u.margin (s.store.tables.rowsOf r.name)) :
    (u.upsert r now).Ends s fun outcome s' =>
      outcome = .ok .keep ∧ s.Leaves s' s.store.tables := by
  by_cases hcomputes : ∃ next, u.Computes r now next
  · obtain ⟨next, hnext⟩ := hcomputes
    refine (upsert_ends hnext hcalm.closed).mono fun outcome s' h => ?_
    cases outcome with
    | error fault => exact absurd h.1 (not_canFail hcalm hfits hr hnext)
    | ok plan =>
        obtain ⟨rfl, d, -, -, hleaves⟩ := h
        have hkeep : Plan.make (s.store.tables.pendingOf r.name) next now u.margin = .keep :=
          (hsettled next hnext).make_eq_keep
        rw [hkeep] at hleaves ⊢
        exact ⟨rfl, hleaves⟩
  · exact upsert_keeps_idle (fun next hnext => hcomputes ⟨next, hnext⟩) hr.1 hcalm.closed

/-! ### One cycle -/

/-- A cycle leaves settled entries as they are, and reports that. -/
lemma goThrough_settled (hcalm : s.store.Calm)
    (hfits : ∀ r ∈ jobs, Registration.NameFits r.name) (hjobs : ∀ r ∈ jobs, u.Keepable now r)
    (hsettled : ∀ r ∈ jobs, ∀ next, u.Computes r now next →
      Settled next now u.margin (s.store.tables.rowsOf r.name)) :
    (u.goThrough now report jobs).Ends s fun report' s' =>
      report' = { report with unchanged := report.unchanged + jobs.length } ∧
        s'.store.tables = s.store.tables := by
  induction jobs generalizing report s with
  | nil => exact (Script.ends_pure _).mpr ⟨rfl, rfl⟩
  | cons r rest ih =>
      obtain ⟨hfit, hfits⟩ := List.forall_mem_cons.mp hfits
      obtain ⟨hr, hrest⟩ := List.forall_mem_cons.mp hjobs
      obtain ⟨hown, hothers⟩ := List.forall_mem_cons.mp hsettled
      refine goThrough_cons_ends ((upsert_settled hcalm hfit hr hown).mono
        fun outcome s' h s'' hstore _ => ?_)
      obtain ⟨rfl, hleaves⟩ := h
      have hcalm'' : s''.store.Calm := by
        rw [hstore]
        exact hcalm.of_leaves hleaves (hcalm.keyed.mono hleaves.turn)
      have htables : s''.store.tables = s.store.tables := by rw [hstore, hleaves.tables]
      refine (ih hcalm'' hfits hrest (by rwa [htables])).mono fun report' s₃ h => ?_
      obtain ⟨rfl, hkept⟩ := h
      refine ⟨?_, hkept.trans htables⟩
      rw [List.length_cons, Nat.add_comm rest.length, ← Nat.add_assoc]
      rfl

end Upkeep

/-! ### Cycle after cycle -/

/-- The store with the rows of its queue in another order. -/
def Store.reordered (st : Store) (order : List Entry → List Entry) : Store :=
  { st with tables := { st.tables with queue := order st.tables.queue } }

section Reordered

variable {st : Store} {order : List Entry → List Entry}

lemma Store.rowsOf_reordered (horder : ∀ queue, (order queue).Perm queue) (name : String) :
    ((st.reordered order).tables.rowsOf name).Perm (st.tables.rowsOf name) :=
  (horder _).filter _

lemma Store.Calm.reordered (h : st.Calm) (horder : ∀ queue, (order queue).Perm queue) :
    (st.reordered order).Calm := by
  have hperm := horder st.tables.queue
  refine ⟨h.closed, h.faultless, (hperm.map Entry.id).nodup_iff.mpr h.keyed.distinct, ?_⟩
  exact fun e he => h.keyed.drawn e (hperm.mem_iff.mp he)

end Reordered

namespace Upkeep

variable {Body : Type} {u : Upkeep} {g : Registry Body} {now : Instant} {st : Store}

/-- The store after so many cycles at one instant. Before each cycle the rows of the queue may come
in another order, so that any of several entries may be the first that becomes due. -/
def afterCycles (u : Upkeep) (g : Registry Body) (now : Instant)
    (order : Nat → List Entry → List Entry) (st : Store) : Nat → Store
  | 0 => st
  | k + 1 => ((u.runOnce g now).runAt now ((u.afterCycles g now order st k).reordered (order k))).2

/-- A cycle comes to its end, with the entries of each periodic job dealt with. -/
lemma runAt_calm (hg : g.Enrolled) (hjobs : ∀ r ∈ g.periodic, u.Keepable now r) (hcalm : st.Calm) :
    ∃ report st', (u.runOnce g now).runAt now st = (.ok report, st') ∧ st'.Calm ∧
      ∀ r ∈ g.periodic, ∀ next, u.Computes r now next → Replanned next now u.margin
        (st.tables.rowsOf r.name) (st'.tables.rowsOf r.name) := by
  obtain ⟨outcomes, s', -, haccounts, hstore, hreport⟩ := runOnce_deals_with_all
    (s := .still st now) (fun r hr => (hjobs r hr).1) hg.distinct_periodic hcalm.closed hcalm.keyed
  refine ⟨_, s'.store, Prod.ext hreport hstore, ?_, fun r hr next hnext => ?_⟩
  · exact hcalm.of_leaves (s := .still st now) haccounts.leaves haccounts.keyed
  · obtain ⟨outcome, -, hdealt⟩ := haccounts.of_mem hr
    exact hdealt.replanned hcalm (hg.fits r (List.mem_of_mem_filter hr)) (hjobs r hr) hnext

/-- A cycle that finds all entries settled leaves everything as it is. -/
lemma runAt_settled (hg : g.Enrolled) (hjobs : ∀ r ∈ g.periodic, u.Keepable now r)
    (hcalm : st.Calm) (hsettled : ∀ r ∈ g.periodic, ∀ next, u.Computes r now next →
      Settled next now u.margin (st.tables.rowsOf r.name)) :
    ∃ st', (u.runOnce g now).runAt now st = (.ok ⟨0, 0, g.periodic.length, 0⟩, st') ∧
      st'.tables = st.tables := by
  have hfits : ∀ r ∈ g.periodic, Registration.NameFits r.name :=
    fun r hr => hg.fits r (List.mem_of_mem_filter hr)
  obtain ⟨report, s', hrun, rfl, htables⟩ := (runOnce_ends (fun report st' =>
      report = ⟨0, 0, g.periodic.length, 0⟩ ∧ st'.tables = st.tables)
    ((goThrough_settled (s := .still st now) hcalm hfits hjobs hsettled).mono fun report _ h =>
      ⟨h.1.trans (by rw [CycleReport.empty, Nat.zero_add]), h.2⟩)).runAt
  exact ⟨s'.store, hrun, htables⟩

section Cycles

variable {n : Nat} {order : Nat → List Entry → List Entry} (hg : g.Enrolled)
  (hjobs : ∀ r ∈ g.periodic, u.Keepable now r) (hcalm : st.Calm)
  (hn : ∀ r ∈ g.periodic, (st.tables.rowsOf r.name).length ≤ n)
  (horder : ∀ k queue, (order k queue).Perm queue)
include hg hjobs hcalm hn horder

/-- The first cycle leaves all entries of a job but one to be dealt with at most, and each further
cycle one less. -/
lemma afterCycles_nears (k : Nat) : (u.afterCycles g now order st k).Calm ∧
    ∀ r ∈ g.periodic, ∀ next, u.Computes r now next →
      k = 0 ∧ ((u.afterCycles g now order st k).tables.rowsOf r.name).length ≤ n ∨
      Nears next now u.margin (max 1 n - k)
        ((u.afterCycles g now order st k).tables.rowsOf r.name) := by
  induction k with
  | zero => exact ⟨hcalm, fun r hr next _ => .inl ⟨rfl, hn r hr⟩⟩
  | succ k ih =>
      obtain ⟨hcalm', hnears⟩ := ih
      obtain ⟨report, st', hrun, hcalm'', hreplanned⟩ :=
        runAt_calm hg hjobs (hcalm'.reordered (horder k))
      have hafter : u.afterCycles g now order st (k + 1) = st' := congrArg Prod.snd hrun
      rw [hafter]
      refine ⟨hcalm'', fun r hr next hnext => .inr ?_⟩
      have hstep := hreplanned r hr next hnext
      have hperm : List.Perm (((u.afterCycles g now order st k).reordered (order k)).tables.rowsOf
          r.name) _ := Store.rowsOf_reordered (horder k) r.name
      obtain ⟨rfl, hlength⟩ | hnear := hnears r hr next hnext
      · exact hstep.nears (hperm.length_eq ▸ hlength)
      · refine Nears.replanned ((hnear.perm hperm.symm).mono ?_) hstep
        omega

/-- After as many cycles as a job has entries, and one at least, all entries are settled. -/
lemma afterCycles_settled {k : Nat} (hk : max 1 n ≤ k) {r : Registration Body}
    (hr : r ∈ g.periodic) {next : Instant} (hnext : u.Computes r now next) :
    Settled next now u.margin ((u.afterCycles g now order st k).tables.rowsOf r.name) := by
  obtain ⟨hzero, -⟩ | hnear :=
    (afterCycles_nears hg hjobs hcalm hn horder k).2 r hr next hnext
  · omega
  · rw [Nat.sub_eq_zero_of_le hk] at hnear
    exact hnear.settled

end Cycles

/-! ### Jobs that are not kept -/

section Failures

variable {r : Registration Body} {s : Session} {name : String} {next : Instant}
  {jobs : List (Registration Body)} {report : CycleReport}

/-- An upsert of such a job fails. -/
lemma upsert_fails (h : ¬ u.Halts now r) (hsaved : s.store.saved = none) :
    (u.upsert r now).Ends s fun outcome s' => s'.store.saved = none ∧
      (u.Refused now r → ∃ fault, outcome = .error fault) := by
  by_cases hrefused : u.Refused now r
  · obtain ⟨⟨next, schedule, hschedule, hat⟩, hname⟩ := hrefused
    rw [upsert, hschedule]
    dsimp only
    rw [hat]
    exact Attempt.ends_iff.mp ((reconcile_refused hname hsaved).mono (fun _ _ h => h.elim)
      fun fault _ hleaves => ⟨hleaves.saved, fun _ => ⟨fault, rfl⟩⟩)
  · exact (upsert_closes h hsaved).mono fun _ _ hclosed => ⟨hclosed, fun h => absurd h hrefused⟩

/-- A cycle counts the failures of such jobs. -/
lemma goThrough_fails (hjobs : ∀ r ∈ jobs, ¬ u.Halts now r) (hsaved : s.store.saved = none) :
    (u.goThrough now report jobs).Ends s fun report' s' => s'.store.saved = none ∧
      report.failed ≤ report'.failed ∧
      ((∃ r ∈ jobs, u.Refused now r) → report.failed < report'.failed) := by
  induction jobs generalizing report s with
  | nil => exact (Script.ends_pure _).mpr ⟨hsaved, Nat.le_refl _, fun ⟨_, hr, _⟩ => nomatch hr⟩
  | cons r rest ih =>
      obtain ⟨hr, hrest⟩ := List.forall_mem_cons.mp hjobs
      refine goThrough_cons_ends ((upsert_fails hr hsaved).mono fun outcome s' h s'' hstore _ => ?_)
      obtain ⟨hclosed, hfails⟩ := h
      refine (ih hrest (hstore ▸ hclosed)).mono fun report' s₃ hcounts => ?_
      obtain ⟨hclosed₃, hle, hlater⟩ := hcounts
      have hcount : report.failed ≤ (report.count outcome).failed := by
        rcases outcome with fault | ⟨_⟩ | ⟨_⟩ | _ <;> simp [CycleReport.count]
      refine ⟨hclosed₃, Nat.le_trans hcount hle, ?_⟩
      rintro ⟨r', hr', hrefused⟩
      rcases List.mem_cons.mp hr' with rfl | hr'
      · obtain ⟨fault, rfl⟩ := hfails hrefused
        exact hle
      · exact Nat.lt_of_le_of_lt hcount (hlater ⟨r', hr', hrefused⟩)

/-- A cycle whose jobs all have answers comes to its end and leaves no transaction open; if the
store refuses the name of one of them, it reports a failure. -/
lemma runOnce_fails (hjobs : ∀ r ∈ g.periodic, ¬ u.Halts now r) (hsaved : s.store.saved = none) :
    (u.runOnce g now).Ends s fun report s' => s'.store.saved = none ∧
      ((∃ r ∈ g.periodic, u.Refused now r) → 0 < report.failed) :=
  runOnce_ends (fun report st' => st'.saved = none ∧
      ((∃ r ∈ g.periodic, u.Refused now r) → 0 < report.failed))
    ((goThrough_fails hjobs hsaved).mono fun _ _ h => ⟨h.1, h.2.2⟩)

/-- With a job that is not kept no cycle comes to its end without a failure. -/
lemma failed_of_not_keepable (hr : r ∈ g.periodic) (hkeep : ¬ u.Keepable now r)
    (hsaved : s.store.saved = none) {report : CycleReport} {s' : Session}
    (hrun : (u.runOnce g now).run s = (.ok report, s')) : 0 < report.failed := by
  have hjobs := not_halts_of_runOnce hrun hsaved
  have hrefused : u.Refused now r := by
    by_contra hnot
    exact hkeep ⟨hjobs r hr, hnot⟩
  exact ((runOnce_fails hjobs hsaved).of_run hrun).2 ⟨r, hr, hrefused⟩

end Failures

/-! ### Convergence -/

/-- **Cycles converge unless a job is not kept.** Take any entries, any margin and zone, and cycles
at one instant without faults, before each of which the rows of the queue may come in another order.
If all periodic jobs are kept, each cycle comes to its end, and after as many cycles as the periodic
job with the most entries has, and one at least, each further one leaves the tables as they are and
reports all jobs as unchanged. If one of them is not kept, no cycle on any store without an open
transaction comes to its end without a failure. -/
theorem settles_unless_not_keepable (hg : g.Enrolled) (hcalm : st.Calm) {n : Nat}
    (hn : ∀ r ∈ g.periodic, (st.tables.rowsOf r.name).length ≤ n)
    {order : Nat → List Entry → List Entry} (horder : ∀ k queue, (order k queue).Perm queue) :
    ((∀ r ∈ g.periodic, u.Keepable now r) → ∀ k, ∃ report st',
      (u.runOnce g now).runAt now ((u.afterCycles g now order st k).reordered (order k)) =
        (.ok report, st') ∧
      (max 1 n ≤ k → report = ⟨0, 0, g.periodic.length, 0⟩ ∧
        st'.tables = ((u.afterCycles g now order st k).reordered (order k)).tables)) ∧
    ((∃ r ∈ g.periodic, ¬ u.Keepable now r) → ∀ s : Session, s.store.saved = none →
      ∀ report s', (u.runOnce g now).run s = (.ok report, s') → 0 < report.failed) := by
  constructor
  · intro hjobs k
    have hcalm' : ((u.afterCycles g now order st k).reordered (order k)).Calm :=
      (afterCycles_nears hg hjobs hcalm hn horder k).1.reordered (horder k)
    by_cases hk : max 1 n ≤ k
    · obtain ⟨st', hrun, hsame⟩ := runAt_settled hg hjobs hcalm' fun r hr next hnext =>
        (afterCycles_settled hg hjobs hcalm hn horder hk hr hnext).perm
          (Store.rowsOf_reordered (horder k) r.name).symm
      exact ⟨_, st', hrun, fun _ => ⟨rfl, hsame⟩⟩
    · obtain ⟨report, st', hrun, -⟩ := runAt_calm hg hjobs hcalm'
      exact ⟨report, st', hrun, fun h => absurd h hk⟩
  · rintro ⟨r, hr, hkeep⟩ s hsaved report s' hrun
    exact failed_of_not_keepable hr hkeep hsaved hrun

/-- Cycles in UTC. -/
def atNoon : Upkeep := ⟨.utc, defaultMargin, .ofSecs 5⟩

/-- Two entries for the job at noon, three hours from five o'clock and a day after that. -/
def twoNoons : Store := { Store.new with
  tables := ⟨[⟨.drawn 1, "noon", some ⟨1325318400, 0⟩, Json.emptyObject, none, none, 1⟩,
    ⟨.drawn 2, "noon", some ⟨1325232000, 0⟩, Json.emptyObject, none, none, 2⟩], [], none⟩
  turn := 2 }

lemma enrolled_noon : (⟨[noon]⟩ : Registry Unit).Enrolled := by
  refine ⟨by decide, by decide +kernel, ?_⟩
  simp only [List.forall_mem_singleton, noon, Option.some.injEq, forall_eq']
  exact ⟨_, parse_noon⟩

lemma calm_twoNoons : twoNoons.Calm := by
  refine ⟨rfl, rfl, by decide, ?_⟩
  simp [twoNoons]

/-- Two cycles move both entries to noon; the third one leaves them. -/
theorem settles_unless_not_keepable_noon : ∃ st',
    (atNoon.runOnce ⟨[noon]⟩ ⟨1325221200, 0⟩).runAt ⟨1325221200, 0⟩
      ((atNoon.afterCycles ⟨[noon]⟩ ⟨1325221200, 0⟩ (fun _ => List.reverse) twoNoons 2).reordered
        List.reverse) = (.ok ⟨0, 0, 1, 0⟩, st') ∧
    st'.tables = ((atNoon.afterCycles ⟨[noon]⟩ ⟨1325221200, 0⟩ (fun _ => List.reverse) twoNoons
      2).reordered List.reverse).tables := by
  have hkeep : atNoon.Keepable ⟨1325221200, 0⟩ noon := by
    refine ⟨by decide +kernel, fun hrefused => hrefused.2 (by decide +kernel)⟩
  have horder : ∀ (k : Nat) (queue : List Entry), ((fun _ => List.reverse) k queue).Perm queue :=
    fun _ queue => queue.reverse_perm
  obtain ⟨hsettles, -⟩ :=
    settles_unless_not_keepable (u := atNoon) (n := 2) enrolled_noon calm_twoNoons
      (by decide +kernel) horder
  obtain ⟨report, st', hrun, hlast⟩ :=
    hsettles (fun r hr => List.mem_singleton.mp hr ▸ hkeep) 2
  obtain ⟨rfl, hsame⟩ := hlast (by decide)
  exact ⟨st', hrun, hsame⟩

/-- In Apia, at seven in the evening of 29 December, with that job alone, which a registry takes,
and with no entry at first: no cycle ever comes to its end. -/
theorem noon_never_settles :
    (Registry.Call.register "noon" "0 12 * * *" .none ()).answer .empty = .ok ⟨⟩ ∧
    (Registry.Call.register "noon" "0 12 * * *" .none ()).after .empty = ⟨[noon]⟩ ∧
    Store.new.Calm ∧ Store.new.tables.rowsOf noon.name = [] ∧
    ∀ k, ((inApia.runOnce ⟨[noon]⟩ ⟨1325221200, 0⟩).runAt ⟨1325221200, 0⟩
      (inApia.afterCycles ⟨[noon]⟩ ⟨1325221200, 0⟩ (fun _ => id) .new k)).1 =
        .error .outOfCalendar := by
  have hregister : (Registry.Call.register "noon" "0 12 * * *" .none ()).apply .empty =
      .ok ⟨[noon]⟩ := by
    rw [Registry.Call.apply, Registry.register, parse_noon]
    exact Registry.add_of_free (by decide +kernel) rfl
  have hhalts : inApia.Halts ⟨1325221200, 0⟩ noon := by decide +kernel
  refine ⟨?_, ?_, Store.calm_new, rfl, fun k => ?_⟩
  · rw [Registry.Call.answer, hregister]
    rfl
  · rw [Registry.Call.after, hregister]
  · rw [Script.runAt, runOnce_halts_at_once (g := ⟨[noon]⟩) rfl hhalts]

end Upkeep

end JobDispatch
