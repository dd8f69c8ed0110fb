import JobDispatch.Proofs.Cron.Soundness
import JobDispatch.Proofs.Upkeep.Convergence

/-!
What a cycle may touch.

A cycle adds the first entry of a periodic job, or moves one entry that is further away than the
margin. Everything else in the tables stays as it is, whatever faults strike and wherever the cycle
halts: the entries of all other jobs, the results, the lease, and every entry that is near.

* `Touched`: the entries of a job before a cycle and after it.
* `Revised.touched`: a plan does no more than that.
* `Upkeep.touches_far_entries_only`: nor does a cycle, to any job.
-/

namespace JobDispatch

/-- What a cycle may do to the entries of one job. It adds the first one, or it moves one that
becomes due first, and not by `limit`, to another time after `now`. -/
inductive Touched (now limit : Instant) : List Entry → List Entry → Prop
  | kept (rows : List Entry) : Touched now limit rows rows
  | added (e : Entry) : Touched now limit [] [e]
  | moved (before : List Entry) (m : Entry) (after : List Entry) (current next : Instant)
      (hat : m.notBefore = some current) (hfar : limit < current)
      (hleast : ∀ a ∈ before ++ m :: after, m.NoLater a) (hlater : now < next)
      (hne : next ≠ current) :
      Touched now limit (before ++ m :: after)
        (before ++ { m with notBefore := some next } :: after)

section Entries

variable {next now limit : Instant} {margin : Span} {rows rows' : List Entry}

/-- A plan for a time in the future does no more. -/
lemma Revised.touched {d : Tables.Draw} {name : String} {plan : Plan}
    (h : Revised next now margin d name plan rows rows') (hlater : now < next)
    (hstored : ∀ e ∈ rows, ∀ t, e.notBefore = some t → t.stored = t) :
    Touched now (now.advance margin) rows rows' := by
  cases h with
  | added => exact .added _
  | moved before m after current hat hfar hne hleast =>
      have hmem : m ∈ before ++ m :: after := List.mem_append_right _ List.mem_cons_self
      have hplain : current.nanos < nanosPerSec := by
        rw [← hstored m hmem current hat]
        exact Instant.nanos_ofNanos_lt _
      exact .moved before m after current next hat (Instant.advance_lt_of_lt_since hplain hfar)
        hleast hlater (Ne.symm hne)
  | kept rows hsettled => exact .kept rows

/-- Every entry is still there, with another time at most, and as it is if it is due by `limit`. -/
lemma Touched.exists_after (h : Touched now limit rows rows') {e : Entry} (he : e ∈ rows) :
    ∃ e' ∈ rows', e' = { e with notBefore := e'.notBefore } ∧ (e.Due limit → e' = e) := by
  cases h with
  | kept rows => exact ⟨e, he, rfl, fun _ => rfl⟩
  | added => cases he
  | moved before m after current next hat hfar =>
      obtain hbefore | rfl | hafter : e ∈ before ∨ e = m ∨ e ∈ after := by
        simpa only [List.mem_append, List.mem_cons] using he
      · exact ⟨e, List.mem_append_left _ hbefore, rfl, fun _ => rfl⟩
      · refine ⟨{ e with notBefore := some next }, ?_, rfl, fun hdue => ?_⟩
        · exact List.mem_append_right _ List.mem_cons_self
        · rw [Entry.Due, hat] at hdue
          exact absurd hfar (Instant.not_lt_of_le hdue)
      · exact ⟨e, List.mem_append_right _ (List.mem_cons_of_mem _ hafter), rfl, fun _ => rfl⟩

/-- What is due is due by the end of the margin. -/
lemma Entry.Due.advance {e : Entry} (h : e.Due now) (hmargin : 0 ≤ margin) :
    e.Due (now.advance margin) := by
  have hnow : now ≤ now.advance margin := by
    refine Instant.le_advance_of_since_le ?_
    rw [Instant.since, Int.sub_self]
    exact hmargin
  rw [Entry.Due] at h ⊢
  cases hat : e.notBefore with
  | none => trivial
  | some t =>
      rw [hat] at h
      exact Instant.le_trans h hnow

end Entries

namespace Upkeep

variable {Body : Type} {u : Upkeep} {g : Registry Body} {r : Registration Body}
  {now next : Instant} {s s' : Session} {outcome : Except StoreError Plan}

/-- The instants that the jobs of a registry compute in a lawful zone lie in the future. -/
lemma Computes.later (hg : g.Enrolled) (hz : u.zone.Lawful) (hr : r ∈ g.periodic)
    (hnext : u.Computes r now next) : now < next := by
  obtain ⟨schedule, hschedule, hat⟩ := hnext
  obtain ⟨text, hparse⟩ := hg.parsed r (List.mem_of_mem_filter hr) schedule hschedule
  exact Schedule.lt_of_nextAfter hparse hz hat

lemma Dealt.touched (h : u.Dealt now s s' r outcome) (hkeyed : s.store.tables.Keyed s.store.turn)
    (hlater : ∀ next, u.Computes r now next → now < next)
    (hstored : ∀ e ∈ s.store.tables.rowsOf r.name, ∀ t, e.notBefore = some t → t.stored = t) :
    Touched now (now.advance u.margin) (s.store.tables.rowsOf r.name)
      (s'.store.tables.rowsOf r.name) := by
  cases h with
  | failed fault _ _ hrows => exact hrows ▸ .kept _
  | planned next d hnext _ _ hrows =>
      obtain ⟨secs, rfl⟩ := hnext.whole
      rw [hrows]
      exact (hkeyed.revised (Instant.stored_ofSecs secs)).touched (hlater _ hnext) hstored
  | idle _ hrows => exact hrows ▸ .kept _

/-- **A cycle touches far entries only.** Take any tables, any faults, any margin and any known
zone, and a cycle that comes to its end or halts. Results and lease stay, and so do the entries of
all jobs that are not periodic. Of each periodic job the first entry is added, or one entry is moved
that was not due by the end of the margin and became due first, or nothing is done. No entry is lost
or changed but in its time, and none that was due by the end of the margin, or is due, is changed at
all. -/
theorem touches_far_entries_only (u : Upkeep) (now : Instant) (hg : g.Enrolled)
    (hz : u.zone ∈ Zone.known) (hsaved : s.store.saved = none)
    (hkeyed : s.store.tables.Keyed s.store.turn)
    (hstored : ∀ e ∈ s.store.tables.queue, ∀ t, e.notBefore = some t → t.stored = t)
    (hrun : ((u.runOnce g now).run s).2 = s') :
    s'.store.tables.results = s.store.tables.results ∧
    s'.store.tables.lease = s.store.tables.lease ∧
    (∀ name, (∀ r ∈ g.periodic, r.name ≠ name) →
      s'.store.tables.rowsOf name = s.store.tables.rowsOf name) ∧
    (∀ r ∈ g.periodic, Touched now (now.advance u.margin) (s.store.tables.rowsOf r.name)
      (s'.store.tables.rowsOf r.name)) ∧
    ∀ e ∈ s.store.tables.queue, ∃ e' ∈ s'.store.tables.queue,
      e' = { e with notBefore := e'.notBefore } ∧
      (e.Due (now.advance u.margin) ∨ 0 ≤ u.margin ∧ e.Due now → e' = e) := by
  obtain ⟨outcomes, s₁, -, haccounts, hstore, -⟩ :=
    runOnce_deals u now hg.distinct_periodic hsaved hkeyed
  rw [hrun] at hstore
  rw [hstore]
  have hothers (name : String) (hname : ∀ r ∈ u.reached now g.periodic, r.name ≠ name) :
      s₁.store.tables.rowsOf name = s.store.tables.rowsOf name := by
    refine haccounts.others name fun hmem => ?_
    obtain ⟨r, hr, heq⟩ := List.mem_map.mp hmem
    exact hname r hr heq
  have htouched : ∀ name, Touched now (now.advance u.margin) (s.store.tables.rowsOf name)
      (s₁.store.tables.rowsOf name) := by
    intro name
    by_cases hname : ∃ r ∈ u.reached now g.periodic, r.name = name
    · obtain ⟨r, hr, rfl⟩ := hname
      obtain ⟨outcome, -, hdealt⟩ := haccounts.of_mem hr
      refine hdealt.touched hkeyed (fun next hnext => ?_) fun e he => ?_
      · exact hnext.later hg (Zone.lawful_of_mem_known hz) (reached_sublist.mem hr)
      · exact hstored e (Tables.mem_rowsOf.mp he).1
    · rw [hothers name fun r hr heq => hname ⟨r, hr, heq⟩]
      exact .kept _
  refine ⟨haccounts.results, haccounts.lease, fun name hname => ?_, fun r _ => htouched r.name,
    fun e he => ?_⟩
  · exact hothers name fun r hr => hname r (reached_sublist.mem hr)
  · obtain ⟨e', he', hsame, hnear⟩ :=
      (htouched e.jobName).exists_after (Tables.mem_rowsOf.mpr ⟨he, rfl⟩)
    refine ⟨e', (Tables.mem_rowsOf.mp he').1, hsame, ?_⟩
    rintro (hdue | ⟨hmargin, hdue⟩)
    · exact hnear hdue
    · exact hnear (hdue.advance hmargin)

/-- At five o'clock, with two entries hours away: one of them is moved at most. -/
theorem touches_far_entries_only_noon : Touched ⟨1325221200, 0⟩
    ((⟨1325221200, 0⟩ : Instant).advance defaultMargin) (twoNoons.tables.rowsOf "noon")
    (((atNoon.runOnce ⟨[noon]⟩ ⟨1325221200, 0⟩).run
      (.still twoNoons ⟨1325221200, 0⟩)).2.store.tables.rowsOf "noon") := by
  have hstored : ∀ e ∈ twoNoons.tables.queue, ∀ t, e.notBefore = some t → t.stored = t := by
    simp only [twoNoons, List.forall_mem_cons, Option.some.injEq, forall_eq']
    exact ⟨by decide +kernel, by decide +kernel, List.forall_mem_nil _⟩
  have htouches := touches_far_entries_only atNoon ⟨1325221200, 0⟩
    (s := .still twoNoons ⟨1325221200, 0⟩) enrolled_noon (by decide +kernel) rfl
    calm_twoNoons.keyed hstored rfl
  exact htouches.2.2.2.1 noon (List.mem_singleton_self _)

end Upkeep

end JobDispatch
