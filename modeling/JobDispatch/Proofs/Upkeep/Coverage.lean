import JobDispatch.Proofs.Upkeep.Convergence

/-!
What a cycle leaves for each of its jobs to run next.

A cycle keeps the entry of a job that becomes due first if it is near or at the next time, moves it
there if it is not, and adds one if there is none. So whatever entries a job had, afterwards one is
due by its next time, or by the end of the margin where that is later. Only a failed upsert leaves
its job as it was.

* `Covered`: an entry is due in time, and it is a new one if the job had none.
* `Revised.covered`: every plan that is carried out leaves its job covered.
* `Upkeep.covers_unless_failed`: a cycle that reports no failure covers all periodic jobs.
-/

namespace JobDispatch

/-! ### Entries that are due in time -/

/-- The later one of two instants. -/
def Instant.later (a b : Instant) : Instant := if a ≤ b then b else a

lemma Instant.le_later_left (a b : Instant) : a ≤ a.later b := by
  rw [later]
  split
  · next h => exact h
  · exact a.le_refl

lemma Instant.le_later_right (a b : Instant) : b ≤ a.later b := by
  rw [later]
  split
  · exact b.le_refl
  · next h => exact (a.le_total b).resolve_left h

lemma Entry.due_of_le {e : Entry} {t now : Instant} (hat : e.notBefore = some t) (hle : t ≤ now) :
    e.Due now := by
  rwa [Entry.Due, hat]

/-- Of the entries of a job, which were `before` and are `after`, one is due at `latest`. If there
was none, there is one that has the next time and no parameters. -/
structure Covered (next latest : Instant) (before after : List Entry) : Prop where
  due : ∃ e ∈ after, e.Due latest
  fresh : before = [] →
    ∃ e, after = [e] ∧ e.notBefore = some next ∧ e.parameters = Json.emptyObject

section Plans

variable {next now latest : Instant} {margin : Span} {rows rows' : List Entry}

/-- Settled entries have one that is near or at the next time. -/
lemma Settled.exists_due (h : Settled next now margin rows) :
    ∃ e ∈ rows, e.Due (next.later (now.advance margin)) := by
  obtain ⟨e, he, -, hkeep⟩ := h
  refine ⟨e, he, ?_⟩
  cases hat : e.notBefore with
  | none =>
      rw [Entry.Due, hat]
      trivial
  | some current =>
      refine Entry.due_of_le hat ?_
      have hstays := Plan.make_eq_keep_iff.mp hkeep current hat
      by_cases hnext : current = next
      · exact hnext ▸ Instant.le_later_left _ _
      · have hnear : current.since now ≤ margin := Int.not_lt.mp fun hfar => hstays ⟨hfar, hnext⟩
        exact Instant.le_trans (Instant.le_advance_of_since_le hnear) (Instant.le_later_right _ _)

/-- Entries that stay as they are cover their job if one of them is due in time. -/
lemma covered_self_iff : Covered next latest rows rows ↔ ∃ e ∈ rows, e.Due latest := by
  refine ⟨Covered.due, fun h => ⟨h, fun hnone => ?_⟩⟩
  obtain ⟨e, he, -⟩ := h
  rw [hnone] at he
  cases he

/-- A plan that is carried out leaves its job covered. -/
lemma Revised.covered {d : Tables.Draw} {name : String} {plan : Plan}
    (h : Revised next now margin d name plan rows rows') (hwhole : next.stored = next) :
    Covered next (next.later (now.advance margin)) rows rows' := by
  have hnext := next.le_later_left (now.advance margin)
  cases h with
  | added =>
      have hat : (Tables.newEntry d name next).notBefore = some next := congrArg some hwhole
      exact ⟨⟨_, List.mem_singleton_self _, Entry.due_of_le hat hnext⟩, fun _ => ⟨_, rfl, hat, rfl⟩⟩
  | moved before m after current hat hfar hne hleast =>
      refine ⟨⟨{ m with notBefore := some next }, ?_, Entry.due_of_le rfl hnext⟩, fun hnone => ?_⟩
      · exact List.mem_append_right _ List.mem_cons_self
      · exact absurd hnone (List.append_ne_nil_of_right_ne_nil _ (List.cons_ne_nil _ _))
  | kept rows hsettled => exact covered_self_iff.mpr hsettled.exists_due

end Plans

/-! ### Cycles -/

namespace Upkeep

variable {Body : Type} {u : Upkeep} {g : Registry Body} {r : Registration Body}
  {now next : Instant} {s s' : Session} {outcome : Except StoreError Plan}

/-- A job whose upsert has not failed is covered. -/
lemma Dealt.covered (h : u.Dealt now s s' r outcome) (hkeyed : s.store.tables.Keyed s.store.turn)
    (hsucceeds : fails outcome = false) (hnext : u.Computes r now next) :
    Covered next (next.later (now.advance u.margin)) (s.store.tables.rowsOf r.name)
      (s'.store.tables.rowsOf r.name) := by
  cases h with
  | failed fault _ _ _ => cases hsucceeds
  | planned next' d hnext' _ _ hrows =>
      obtain rfl := hnext.unique hnext'
      obtain ⟨secs, rfl⟩ := hnext.whole
      have hwhole := Instant.stored_ofSecs secs
      rw [hrows]
      exact (hkeyed.revised hwhole).covered hwhole
  | idle hnone _ => exact absurd hnext (hnone next)

/-- Without faults the upserts of jobs that are kept do not fail. -/
lemma Accounts.countP_fails {jobs : List (Registration Body)}
    {outcomes : List (Except StoreError Plan)} (h : u.Accounts now s jobs outcomes s')
    (hcalm : s.store.Calm) (hfits : ∀ r ∈ jobs, Registration.NameFits r.name)
    (hjobs : ∀ r ∈ jobs, u.Keepable now r) : outcomes.countP fails = 0 := by
  refine List.countP_eq_zero.mpr fun outcome houtcome => ?_
  obtain ⟨r, hr, hdealt⟩ := h.of_mem_outcomes houtcome
  cases hdealt with
  | failed fault hnext hfail _ =>
      obtain ⟨next, hnext⟩ := hnext
      exact absurd hfail (not_canFail hcalm (hfits r hr) (hjobs r hr) hnext)
  | planned next d _ _ _ _ => exact Bool.false_ne_true
  | idle _ _ => exact Bool.false_ne_true

/-- **A cycle without failures covers every job.** Take any entries, and any margin and zone. After
a cycle that reports no failure every periodic job with a next time is covered, whatever its
entries were. Without faults a cycle comes to its end and reports none, if there are answers for all
periodic jobs and the store takes their names. If a periodic job has no answer, no cycle comes to
its end. -/
theorem covers_unless_failed (u : Upkeep) (now : Instant) (hg : g.Enrolled)
    (hsaved : s.store.saved = none) (hkeyed : s.store.tables.Keyed s.store.turn) :
    (∀ report s', (u.runOnce g now).run s = (.ok report, s') → report.failed = 0 →
      ∀ r ∈ g.periodic, ∀ next, u.Computes r now next →
        Covered next (next.later (now.advance u.margin)) (s.store.tables.rowsOf r.name)
          (s'.store.tables.rowsOf r.name)) ∧
    (s.store.faults = [] → (∀ r ∈ g.periodic, u.Keepable now r) →
      (u.runOnce g now).Ends s fun report _ => report.failed = 0) ∧
    ((∃ r ∈ g.periodic, u.Halts now r) →
      ((u.runOnce g now).run s).1 = .error .outOfCalendar) := by
  refine ⟨fun report s' hrun hfailed r hr next hnext => ?_, fun hfaults hkept => ?_,
    fun hhalts => runOnce_breaks hhalts hsaved⟩
  · obtain ⟨outcomes, s₁, -, haccounts, hstore, hreport⟩ := runOnce_deals_with_all
      (not_halts_of_runOnce hrun hsaved) hg.distinct_periodic hsaved hkeyed
    rw [hrun] at hreport hstore
    obtain rfl := Except.ok.inj hreport
    rw [failed_foldl_count] at hfailed
    obtain ⟨outcome, houtcome, hdealt⟩ := haccounts.of_mem hr
    have hsucceeds := List.countP_eq_zero.mp hfailed outcome houtcome
    dsimp only at hstore
    rw [hstore]
    exact hdealt.covered hkeyed (Bool.eq_false_iff.mpr hsucceeds) hnext
  · obtain ⟨outcomes, s₁, -, haccounts, -, hreport⟩ := runOnce_deals_with_all
      (fun r hr => (hkept r hr).1) hg.distinct_periodic hsaved hkeyed
    refine ⟨_, _, Prod.ext hreport rfl, ?_⟩
    dsimp only
    rw [failed_foldl_count]
    exact haccounts.countP_fails ⟨hsaved, hfaults, hkeyed⟩
      (fun r hr => hg.fits r (List.mem_of_mem_filter hr)) hkept

/-- At five o'clock the job at noon has no entry; after the cycle it has one for noon. -/
theorem covers_unless_failed_noon :
    (atNoon.runOnce ⟨[noon]⟩ ⟨1325221200, 0⟩).Ends (.new fun _ => ⟨0, 0⟩) fun report s' =>
      report.failed = 0 ∧
      ∃ e, s'.store.tables.rowsOf "noon" = [e] ∧ e.notBefore = some (.ofSecs 1325246400) ∧
        e.parameters = Json.emptyObject := by
  have hnext : atNoon.Computes noon ⟨1325221200, 0⟩ (.ofSecs 1325246400) :=
    ⟨_, rfl, by decide +kernel⟩
  have hkeep : atNoon.Keepable ⟨1325221200, 0⟩ noon :=
    ⟨by decide +kernel, fun hrefused => hrefused.2 (by decide +kernel)⟩
  obtain ⟨hcovers, hsucceeds, -⟩ := covers_unless_failed (s := .new fun _ => ⟨0, 0⟩) atNoon
    ⟨1325221200, 0⟩ enrolled_noon rfl Store.calm_new.keyed
  obtain ⟨report, s', hrun, hfailed⟩ :=
    hsucceeds rfl fun r hr => List.mem_singleton.mp hr ▸ hkeep
  have hcovered := hcovers report s' hrun hfailed noon (List.mem_singleton_self _) _ hnext
  exact ⟨report, s', hrun, hfailed, hcovered.fresh rfl⟩

end Upkeep

end JobDispatch
