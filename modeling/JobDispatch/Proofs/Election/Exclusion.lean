import Mathlib.Logic.Relation
import JobDispatch.Proofs.Election.Attempt
import JobDispatch.Proofs.Time.Order

/-!
At most one candidate leads at a time.

Candidates share a store and a clock that never goes back. A check reads the lease first and the
clock later, and in between anything may happen to the lease. The age at which a candidate takes
the lease over is the age at which checks of its holder stop to succeed, on however old a row.

* `Contest` and `Contest.Step` are the candidates at work: attempts, the two halves of a check, and
  time that passes.
* `Contest.Guarded` says of a row that was read once why it cannot mislead anyone, and
  `Contest.Sound` is the invariant of all runs.
* `Contest.exclusion`: a check that succeeds agrees with the store, no check of another candidate
  succeeds at the same time, and the lease changes hands only when all checks of its holder fail.
-/

namespace JobDispatch

/-- Candidates that share a store and a clock. `checks` are all checks that have read the lease so
far, each with its candidate and with what is left of it. -/
structure Contest (ι : Type) where
  store : Store
  time : Instant
  checks : List (ι × Script (Except StoreError Bool))

namespace Contest

variable {ι : Type} {e : ι → Elector} {D : Span}

/-! ### Runs -/

/-- The contest after an attempt of the candidate `i`. -/
def elected (e : ι → Elector) (i : ι) (wasLeader : Bool) (c : Contest ι) : Contest ι :=
  { c with store := (((e i).electOnce wasLeader).runAt c.time c.store).2 }

/-- The contest after a check of the candidate `i` has read the lease. -/
def asked (e : ι → Elector) (i : ι) (c : Contest ι) : Contest ι :=
  let (rest, s) := (e i).checkLeader.run.upToClock (.still c.store c.time)
  { c with store := s.store, checks := c.checks ++ [(i, rest)] }

/-- What can happen in a contest. Attempts are atomic, as they hold the lock of the table. A check
stays in `checks`, where it may go on at any later time, or again. Other work may use the store in
between but leaves the lease alone. -/
inductive Step (e : ι → Elector) : Contest ι → Contest ι → Prop
  | wait (c : Contest ι) (later : Instant) (h : 0 ≤ later.since c.time) :
      Step e c { c with time := later }
  | elect (c : Contest ι) (i : ι) (wasLeader : Bool) : Step e c (c.elected e i wasLeader)
  | ask (c : Contest ι) (i : ι) : Step e c (c.asked e i)
  | work (c : Contest ι) (store : Store) (hsaved : store.saved = none)
      (hlease : store.tables.lease = c.store.tables.lease) : Step e c { c with store }

/-- Some number of steps, in any order. -/
abbrev Run (e : ι → Elector) : Contest ι → Contest ι → Prop := Relation.ReflTransGen (Step e)

/-- No transaction is open, no check has begun, and the lease, if there is one, was not renewed in
the future. -/
structure Starts (c : Contest ι) : Prop where
  closed : c.store.saved = none
  checks : c.checks = []
  renewed : ∀ l, c.store.tables.lease = some l → l.renewedAt.toNanos ≤ c.time.stored.toNanos

/-- The lease names the candidate `i`. -/
def Names (e : ι → Elector) (c : Contest ι) (i : ι) : Prop :=
  ∃ l, c.store.tables.lease = some l ∧ l.holder = (e i).instanceId

/-- A check of the candidate `i` succeeds if it goes on now. -/
def Confirms (c : Contest ι) (i : ι) : Prop :=
  ∃ rest, (i, rest) ∈ c.checks ∧ (rest.runAt c.time c.store).1 = .ok (.ok true)

/-! ### The invariant -/

/-- A row that was read once is not later than the lease of the same holder, or it is too old for
anyone to trust it. -/
def Guarded (D : Span) (c : Contest ι) (l : Lease) : Prop :=
  ∃ current, c.store.tables.lease = some current ∧
    (current.holder = l.holder ∧ l.renewedAt.toNanos ≤ current.renewedAt.toNanos ∨
      D ≤ l.age c.time)

/-- No transaction is open, the lease was not renewed in the future, and each check has failed or
goes on with a guarded row. -/
structure Sound (e : ι → Elector) (D : Span) (c : Contest ι) : Prop where
  closed : c.store.saved = none
  renewed : ∀ l, c.store.tables.lease = some l → l.renewedAt.toNanos ≤ c.time.stored.toNanos
  checks : ∀ i rest, (i, rest) ∈ c.checks →
    (∃ fault, rest = .done (.error fault)) ∨
      ∃ row, rest = (e i).judge row ∧ ∀ l, row = some l → c.Guarded D l

lemma Starts.sound {c : Contest ι} (h : c.Starts) : c.Sound e D :=
  ⟨h.closed, h.renewed, fun i rest hmem => by rw [h.checks] at hmem; cases hmem⟩

/-- What is left of a check that has read `row` looks at the clock only. -/
lemma runAt_judge (e : Elector) (row : Option Lease) (now : Instant) (store : Store) :
    ((e.judge row).runAt now store).1 = .ok (.ok (Lease.holdsFresh row e.instanceId now e.span)) :=
  rfl

/-- A check succeeds only on a row of its own candidate that is younger than `D`. -/
lemma Confirms.row {c : Contest ι} {i : ι} (hspan : ∀ i, (e i).span = D) (hc : c.Sound e D)
    (h : c.Confirms i) :
    ∃ l, c.Guarded D l ∧ l.holder = (e i).instanceId ∧ l.age c.time < D := by
  obtain ⟨rest, hmem, htrue⟩ := h
  obtain ⟨fault, rfl⟩ | ⟨row, rfl, hrow⟩ := hc.checks i rest hmem
  · cases htrue
  · rw [runAt_judge] at htrue
    obtain ⟨l, hl, hholder, hage⟩ := of_decide_eq_true (Except.ok.inj (Except.ok.inj htrue))
    exact ⟨l, hrow l hl, hholder, hspan i ▸ hage⟩

/-- A check that succeeds agrees with the store. -/
lemma Confirms.names {c : Contest ι} {i : ι} (hspan : ∀ i, (e i).span = D) (hc : c.Sound e D)
    (h : c.Confirms i) : c.Names e i := by
  obtain ⟨l, ⟨current, hcurrent, ⟨hsame, -⟩ | hold⟩, hholder, hage⟩ := h.row hspan hc
  · exact ⟨current, hcurrent, hsame.trans hholder⟩
  · exact absurd hage (Int.not_lt.mpr hold)

/-! ### Steps -/

/-- A lease is the older the later it is and the earlier it was renewed. -/
lemma age_le_age {l l' : Lease} {now now' : Instant} (hnow : now.toNanos ≤ now'.toNanos)
    (hrenewed : l'.renewedAt.toNanos ≤ l.renewedAt.toNanos) : l.age now ≤ l'.age now' :=
  Int.sub_le_sub hnow hrenewed

/-- An attempt that settles leaves the lease as it is, or gives its candidate a lease of that
instant: a first one, its own again, or that of another which has reached the age of the span. -/
lemma settled_lease (e : Elector) (now : Instant) (t : Tables) :
    (e.settled now t).2.lease = t.lease ∨
    (e.settled now t).2.lease = some ⟨e.instanceId, now.stored⟩ ∧
      ∀ l, t.lease = some l → l.holder = e.instanceId ∨ e.span ≤ l.age now := by
  rw [Elector.settled]
  cases hl : t.lease with
  | none => exact .inr ⟨rfl, fun l h => by cases h⟩
  | some l =>
      by_cases hown : l.holder = e.instanceId
      · rw [Lease.decide_own hown]
        exact .inr ⟨rfl, fun l' h => .inl (Option.some.inj h ▸ hown)⟩
      · by_cases hold : e.span ≤ l.age now
        · rw [Lease.decide_stale hown hold]
          exact .inr ⟨rfl, fun l' h => .inr (Option.some.inj h ▸ hold)⟩
        · rw [Lease.decide_fresh hown hold]
          exact .inl hl

/-- An attempt leaves no transaction open, and the lease is as before or as it settles. -/
lemma elected_store (e : ι → Elector) (i : ι) (wasLeader : Bool) {c : Contest ι}
    (hc : c.store.saved = none) :
    (c.elected e i wasLeader).store.saved = none ∧
    ((c.elected e i wasLeader).store.tables.lease = c.store.tables.lease ∨
      (c.elected e i wasLeader).store.tables.lease = some ⟨(e i).instanceId, c.time.stored⟩ ∧
        ∀ l, c.store.tables.lease = some l →
          l.holder = (e i).instanceId ∨ (e i).span ≤ l.age c.time) := by
  obtain ⟨outcome, s, hrun, hs⟩ := (Elector.electOnce_ends (e i) wasLeader
    (s := .still c.store c.time) hc).runAt
  have hstore : (c.elected e i wasLeader).store = s.store := by rw [elected, hrun]
  rw [hstore]
  obtain ⟨o, -, -, hleaves⟩ | ⟨fault, -, -, hleaves⟩ := hs
  · rw [hleaves.tables]
    exact ⟨hleaves.saved, settled_lease (e i) c.time c.store.tables⟩
  · rw [hleaves.tables]
    exact ⟨hleaves.saved, .inl rfl⟩

/-- A row stays guarded while the lease stays the same. -/
lemma Guarded.of_lease_eq {c c' : Contest ι} {l : Lease} (h : c.Guarded D l)
    (hlease : c'.store.tables.lease = c.store.tables.lease) (htime : 0 ≤ c'.time.since c.time) :
    c'.Guarded D l := by
  obtain ⟨current, hcurrent, hsame | hold⟩ := h
  · exact ⟨current, hlease.trans hcurrent, .inl hsame⟩
  · exact ⟨current, hlease.trans hcurrent,
      .inr (Int.le_trans hold (age_le_age (Int.sub_nonneg.mp htime) (Int.le_refl _)))⟩

/-- A row stays guarded when a candidate is given the lease: its holder renews, or the row has
reached the age at which nobody trusts it. -/
lemma Guarded.of_written {c c' : Contest ι} {l : Lease} {candidate : String} (h : c.Guarded D l)
    (hrenewed : ∀ l, c.store.tables.lease = some l →
      l.renewedAt.toNanos ≤ c.time.stored.toNanos)
    (hlease : c'.store.tables.lease = some ⟨candidate, c.time.stored⟩)
    (hmay : ∀ l, c.store.tables.lease = some l → l.holder = candidate ∨ D ≤ l.age c.time)
    (htime : c'.time = c.time) : c'.Guarded D l := by
  obtain ⟨current, hcurrent, ⟨hholder, hle⟩ | hold⟩ := h
  · refine ⟨_, hlease, (hmay current hcurrent).imp (fun hown => ?_) fun hold => ?_⟩
    · exact ⟨hown.symm.trans hholder, Int.le_trans hle (hrenewed current hcurrent)⟩
    · rw [htime]
      exact Int.le_trans hold (age_le_age (Int.le_refl _) hle)
  · exact ⟨_, hlease, .inr (htime ▸ hold)⟩

/-- Each step keeps the invariant. -/
lemma Sound.step {c c' : Contest ι} (hspan : ∀ i, (e i).span = D) (hc : c.Sound e D)
    (h : Step e c c') : c'.Sound e D := by
  have hchecks : (∀ l, c.Guarded D l → c'.Guarded D l) → ∀ i rest, (i, rest) ∈ c.checks →
      (∃ fault, rest = .done (.error fault)) ∨
        ∃ row, rest = (e i).judge row ∧ ∀ l, row = some l → c'.Guarded D l :=
    fun hguarded i rest hmem => (hc.checks i rest hmem).imp id
      fun ⟨row, hrest, hrow⟩ => ⟨row, hrest, fun l hl => hguarded l (hrow l hl)⟩
  cases h with
  | wait later htime =>
      refine ⟨hc.closed, fun l hl => ?_, hchecks fun l hl => hl.of_lease_eq rfl htime⟩
      have hstored : c.time.stored.toNanos ≤ later.stored.toNanos :=
        Instant.stored_le_stored (Int.sub_nonneg.mp htime)
      exact Int.le_trans (hc.renewed l hl) hstored
  | elect i wasLeader =>
      obtain ⟨hclosed, hlease | ⟨hlease, hmay⟩⟩ := elected_store e i wasLeader hc.closed
      · refine ⟨hclosed, fun l hl => hc.renewed l (hlease ▸ hl), hchecks fun l hl => ?_⟩
        exact hl.of_lease_eq hlease (by simp [elected, Instant.since])
      · refine ⟨hclosed, fun l hl => ?_, hchecks fun l hl => ?_⟩
        · obtain rfl := Option.some.inj (hlease.symm.trans hl)
          exact Int.le_refl _
        · exact hl.of_written hc.renewed hlease (hspan i ▸ hmay) rfl
  | ask i =>
      obtain ⟨hrest, hkeeps⟩ := (e i).checkLeader_upToClock (.still c.store c.time)
      have hlease : (c.asked e i).store.tables.lease = c.store.tables.lease := by
        rw [asked, hkeeps.tables]
        rfl
      refine ⟨hkeeps.saved.trans hc.closed, fun l hl => hc.renewed l (hlease ▸ hl),
        fun j rest hmem => ?_⟩
      rcases List.mem_append.mp hmem with hold | hnew
      · exact hchecks (fun l hl => hl.of_lease_eq hlease (by simp [asked, Instant.since])) j rest
          hold
      · obtain ⟨rfl, rfl⟩ := Prod.mk.inj (List.mem_singleton.mp hnew)
        refine hrest.imp id fun hjudge => ⟨_, hjudge, fun l hl => ?_⟩
        exact ⟨l, hlease.trans hl, .inl ⟨rfl, Int.le_refl _⟩⟩
  | work store hsaved hlease =>
      refine ⟨hsaved, fun l hl => hc.renewed l (hlease ▸ hl), hchecks fun l hl => ?_⟩
      exact hl.of_lease_eq hlease (by simp [Instant.since])

/-- Each run keeps the invariant. -/
lemma Sound.run {c c' : Contest ι} (hspan : ∀ i, (e i).span = D) (hc : c.Sound e D)
    (h : Run e c c') : c'.Sound e D := by
  induction h with
  | refl => exact hc
  | tail _ hstep ih => exact ih.step hspan hstep

/-- No check is forgotten. -/
lemma Step.checks_subset {c c' : Contest ι} (h : Step e c c') : c.checks ⊆ c'.checks := by
  cases h with
  | ask i => exact List.subset_append_left _ _
  | _ => exact List.Subset.refl _

lemma Run.checks_subset {c c' : Contest ι} (h : Run e c c') : c.checks ⊆ c'.checks := by
  induction h with
  | refl => exact List.Subset.refl _
  | tail _ hstep ih => exact List.Subset.trans ih hstep.checks_subset

/-- A check that succeeds now goes on succeeding for as long as the clock shows the same time,
whatever becomes of the lease. -/
lemma Confirms.run {c c' : Contest ι} {i : ι} (hc : c.Sound e D) (h : c.Confirms i)
    (hrun : Run e c c') (htime : c'.time = c.time) : c'.Confirms i := by
  obtain ⟨rest, hmem, htrue⟩ := h
  refine ⟨rest, hrun.checks_subset hmem, ?_⟩
  obtain ⟨fault, rfl⟩ | ⟨row, rfl, -⟩ := hc.checks i rest hmem
  · cases htrue
  · rw [runAt_judge] at htrue ⊢
    rw [htime]
    exact htrue

/-! ### Exclusion -/

/-- **Exclusion**.  If a check succeeds, the lease names its candidate, and no check of another
candidate succeeds while the clock shows the same time, on however old a row. The lease passes from
a candidate to another only at a time at which all checks of the former fail. -/
theorem exclusion {c₀ c : Contest ι} (hids : Function.Injective fun i => (e i).instanceId)
    (hspan : ∀ i, (e i).span = D) (hstart : c₀.Starts) (hrun : Run e c₀ c) :
    (∀ i, c.Confirms i → c.Names e i) ∧
    (∀ i j c', c.Confirms i → Run e c c' → c'.time = c.time → c'.Confirms j → j = i) ∧
    (∀ i c', Step e c c' → c.Names e i → ¬ c'.Names e i →
      c'.time = c.time ∧ ¬ c.Confirms i ∧ ¬ c'.Confirms i) := by
  have hc : c.Sound e D := hstart.sound.run hspan hrun
  refine ⟨fun i h => h.names hspan hc, fun i j c' hi hlater htime hj => ?_,
    fun i c' hstep hnames hlost => ?_⟩
  · have hc' : c'.Sound e D := hc.run hspan hlater
    obtain ⟨l, hl, hholder⟩ := (hi.run hc hlater htime).names hspan hc'
    obtain ⟨l', hl', hholder'⟩ := hj.names hspan hc'
    obtain rfl := Option.some.inj (hl.symm.trans hl')
    exact hids (hholder'.symm.trans hholder)
  · have htime : c'.time = c.time := by
      cases hstep with
      | wait later => exact absurd hnames hlost
      | _ => rfl
    have hafter : ¬ c'.Confirms i := fun h => hlost (h.names hspan (hc.step hspan hstep))
    exact ⟨htime, fun h => hafter (h.run hc (.single hstep) htime), hafter⟩

/-! ### Two candidates -/

/-- Two candidates that wait ten seconds for each other. -/
def pair (second : Bool) : Elector :=
  ⟨cond second "second" "first", 10 * nanosPerSec, .ofSecs 1⟩

/-- The first of two candidates leads, and has read its lease for a check. -/
def led : Contest Bool :=
  (elected pair false false { store := .new, time := .ofSecs 0, checks := [] }).asked pair false

/-- Ten seconds later the lease can be taken over. -/
def stale : Contest Bool := { led with time := .ofSecs 10 }

/-- A check of the first candidate succeeds while it leads. Once the second can take the lease
over, and after it has done so, the check that the first has begun fails. -/
theorem exclusion_of_pair :
    led.Confirms false ∧ led.Names pair false ∧ stale.Names pair false ∧
      ¬ (stale.elected pair true false).Names pair false ∧ ¬ stale.Confirms false ∧
      ¬ (stale.elected pair true false).Confirms false := by
  have hids : ∀ i j, (pair i).instanceId = (pair j).instanceId → i = j := by decide
  have hstart : Starts (ι := Bool) { store := .new, time := .ofSecs 0, checks := [] } :=
    ⟨rfl, rfl, fun l h => by cases h⟩
  have hled : Run pair { store := .new, time := .ofSecs 0, checks := [] } led :=
    .tail (.single (.elect _ false false)) (.ask _ false)
  have hstale : Step pair led stale := .wait _ _ (by decide)
  have hconfirms : led.Confirms false := ⟨_, List.mem_cons_self, rfl⟩
  have hnames : stale.Names pair false := ⟨_, rfl, rfl⟩
  have htaken : ¬ (stale.elected pair true false).Names pair false := by
    rintro ⟨l, hl, hholder⟩
    obtain rfl := Option.some.inj hl
    exact absurd hholder (by decide)
  obtain ⟨-, hfails⟩ := (exclusion hids (fun _ => rfl) hstart (hled.tail hstale)).2.2 false _
    (.elect _ true false) hnames htaken
  exact ⟨hconfirms, (exclusion hids (fun _ => rfl) hstart hled).1 false hconfirms, hnames, htaken,
    hfails⟩

end Contest

end JobDispatch
