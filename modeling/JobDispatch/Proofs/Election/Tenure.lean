import Mathlib.Data.List.Chain
import JobDispatch.Coordinator.Instance
import JobDispatch.Proofs.Config.Lease
import JobDispatch.Proofs.Election.Chronicle

/-!
A leader keeps the lease through one missed renewal.

A candidate that leads attempts to renew its lease at least once in each renewal interval, and of
two attempts in a row at most one fails. As the lease lasts for more than two intervals, nobody can
take it over.

* `Chronicle.Steady` is that habit, and `Chronicle.Precise` says that what a table cuts off the
  clock does not use up the margin that the settings leave.
* `Chronicle.Holds` is the invariant: the last attempt but for a missed one has led, and for two
  intervals after it the lease is the one that it wrote.
* `Chronicle.tenure`: all further attempts of the candidate renew, those of others follow it, and
  its checks succeed. `Chronicle.robbed_and_outwaited` is what happens without the margin, and when
  a check is slower than the lease.
-/

namespace JobDispatch

/-! ### Settings -/

/-- A table cuts less than a microsecond off an instant. -/
lemma Instant.since_stored_lt (t : Instant) : t.since t.stored < 1000 := by
  have hsum := Int.mul_tdiv_add_tmod (t.toNanos - tableOrigin) 1000
  have hrest := Int.tmod_lt_of_pos (t.toNanos - tableOrigin) (show (0 : Int) < 1000 by decide)
  show t.toNanos - t.stored.toNanos < (1000 : Int)
  rw [toNanos_stored]
  omega

/-- The lease of an instance lasts for the configured time. -/
lemma Instance.span_elector {i : Instance} {D : Span}
    (h : i.settings.leaseDuration.toSpan? = some D) : i.elector.span = D := by
  show leaseSpan i.settings.leaseDuration = D
  rw [leaseSpan, h]
  rfl

/-- The lease of an instance with valid settings lasts for more than two renewal intervals. -/
lemma Settings.twice_lt_span {s : Settings} {D : Span} (hvalid : s.validate = .ok ())
    (hD : s.leaseDuration.toSpan? = some D) : 2 * (s.renewalInterval.nanos : Int) < D := by
  have htwice := twice_lt_of_validate hvalid
  rw [Duration.toSpan?] at hD
  split at hD
  · obtain rfl := Option.some.inj hD
    show 2 * (s.renewalInterval.nanos : Int) < (_ : Nat)
    omega
  · cases hD

namespace Chronicle

variable {ι : Type} [DecidableEq ι] {e : ι → Elector} {a : ι} {D R : Int}

/-- The attempts of a candidate, the latest first. -/
def attempts (a : ι) (w : Chronicle ι) : List (Ballot ι) :=
  w.ballots.filter fun b => b.candidate = a

/-- The record begins with an attempt by which the candidate leads. -/
def Begins (e : ι → Elector) (a : ι) (w : Chronicle ι) : Prop :=
  ∃ (c : Contest ι) (wasLeader : Bool), c.store.saved = none ∧ (c.ballot e a wasLeader).leads ∧
    w = attempted e a wasLeader { toContest := c, ballots := [] }

/-- The candidate attempts again before the interval `R` is over, and of two attempts in a row at
most one fails. -/
def Steady (a : ι) (R : Span) (w : Chronicle ι) : Prop :=
  (w.attempts a).IsChain fun later earlier =>
    later.time.since earlier.time ≤ R ∧ ¬ (later.fails ∧ earlier.fails)

/-- What a table cuts off the clock at an attempt by which the candidate leads is nothing, or less
than `margin`. -/
def Precise (a : ι) (margin : Span) (w : Chronicle ι) : Prop :=
  ∀ b ∈ w.attempts a, b.leads → b.time.stored = b.time ∨ b.time.since b.time.stored < margin

/-- The time is not later than an interval `R` after the latest attempt of the candidate. -/
def Covers (a : ι) (R : Span) (w : Chronicle ι) (time : Instant) : Prop :=
  ∃ b, (w.attempts a).head? = some b ∧ time.since b.time ≤ R

/-- What is left of a check of the candidate `i` that has just read the lease. -/
def check (e : ι → Elector) (i : ι) (w : Chronicle ι) : Script (Except StoreError Bool) :=
  ((e i).checkLeader.run.upToClock (.still w.store w.time)).1

/-! ### Parts of a history -/

lemma attempts_attempted_own (wasLeader : Bool) (w : Chronicle ι) :
    (w.attempted e a wasLeader).attempts a = w.ballot e a wasLeader :: w.attempts a :=
  List.filter_cons_of_pos (by simp [Contest.ballot])

lemma attempts_attempted_other {i : ι} (hi : i ≠ a) (wasLeader : Bool) (w : Chronicle ι) :
    (w.attempted e i wasLeader).attempts a = w.attempts a :=
  List.filter_cons_of_neg (by simp [Contest.ballot, hi])

/-- Later attempts come on top of the earlier ones. -/
lemma Run.attempts {w w' : Chronicle ι} (h : Run e w w') :
    ∃ newer, w'.attempts a = newer ++ w.attempts a ∧
      ∀ b ∈ newer, w.time.toNanos ≤ b.time.toNanos := by
  obtain ⟨-, newer, hballots, hnewer⟩ := h.record
  refine ⟨newer.filter fun b => b.candidate = a, ?_, fun b hb => hnewer b (List.mem_filter.mp hb).1⟩
  rw [Chronicle.attempts, hballots, List.filter_append]
  rfl

lemma Steady.before {w w' : Chronicle ι} (h : w'.Steady a R) (hrun : Run e w w') :
    w.Steady a R := by
  obtain ⟨newer, hattempts, -⟩ := hrun.attempts (a := a)
  rw [Steady, hattempts] at h
  exact h.right_of_append

lemma Precise.before {w w' : Chronicle ι} (h : w'.Precise a D) (hrun : Run e w w') :
    w.Precise a D := by
  obtain ⟨newer, hattempts, -⟩ := hrun.attempts (a := a)
  intro b hb
  exact h b (hattempts ▸ List.mem_append_right newer hb)

/-- If an interval after the latest attempt covers a time, then an interval after the attempt that
was the latest at that time does. -/
lemma Covers.before {w w' : Chronicle ι} (h : w'.Covers a R w.time) (hsteady : w'.Steady a R)
    (hrun : Run e w w') {x : Ballot ι} {rest : List (Ballot ι)} (hx : w.attempts a = x :: rest) :
    w.time.since x.time ≤ R := by
  obtain ⟨newer, hattempts, hnewer⟩ := hrun.attempts (a := a)
  obtain ⟨y, hy, hcovers⟩ := h
  rw [hattempts, hx] at hy
  rw [Steady, hattempts, hx] at hsteady
  induction newer using List.reverseRecOn with
  | nil =>
      obtain rfl := Option.some.inj hy
      exact hcovers
  | append_singleton newer next _ =>
      rw [List.append_assoc] at hsteady
      have hgap : next.time.since x.time ≤ R :=
        (List.isChain_cons_cons.mp hsteady.right_of_append).1.1
      have hlater : w.time.toNanos ≤ next.time.toNanos := hnewer next (by simp)
      exact Int.le_trans (Int.sub_le_sub hlater (Int.le_refl _)) hgap

/-- A margin of a microsecond is enough. -/
lemma precise_of_le {margin : Int} (h : 1000 ≤ margin) (w : Chronicle ι) : w.Precise a margin :=
  fun b _ _ => .inr (Int.lt_of_lt_of_le b.time.since_stored_lt h)

lemma Covers.mono {w : Chronicle ι} {time earlier : Instant} (h : w.Covers a R time)
    (hearlier : earlier.toNanos ≤ time.toNanos) : w.Covers a R earlier := by
  obtain ⟨b, hb, hcovers⟩ := h
  exact ⟨b, hb, Int.le_trans (Int.sub_le_sub_right hearlier b.time.toNanos) hcovers⟩

/-! ### The invariant -/

/-- The attempt `b` is the last one of the candidate `a` that led, at most one attempt was missed
since then, and for two intervals after `b` the lease is the one that `b` has left. -/
structure Holds (e : ι → Elector) (a : ι) (R : Span) (b : Ballot ι) (w : Chronicle ι) : Prop where
  closed : w.store.saved = none
  leads : b.leads
  latest : (∃ rest, w.attempts a = b :: rest) ∨
    ∃ missed rest, w.attempts a = missed :: b :: rest ∧ missed.fails ∧ ¬ missed.leads
  lease : w.time.since b.time ≤ 2 * R →
    w.store.tables.lease = some ⟨(e a).instanceId, b.time.stored⟩

namespace Holds

variable {b : Ballot ι} {w w' : Chronicle ι}

/-- The attempt that has left the lease is the last one that led. -/
lemma find (h : w.Holds e a R b) : (w.attempts a).find? Ballot.leads = some b := by
  obtain ⟨rest, hattempts⟩ | ⟨missed, rest, hattempts, -, hmissed⟩ := h.latest
  · rw [hattempts]
    exact List.find?_cons_of_pos h.leads
  · rw [hattempts, List.find?_cons_of_neg hmissed]
    exact List.find?_cons_of_pos h.leads

/-- Within an interval after the latest attempt, the last one that led is at most two intervals
old. -/
lemma recent (h : w.Holds e a R b) (hR : 0 ≤ R) (hsteady : w.Steady a R) {time : Instant}
    (htime : ∀ x rest, w.attempts a = x :: rest → time.since x.time ≤ R) :
    time.since b.time ≤ 2 * R := by
  obtain ⟨rest, hattempts⟩ | ⟨missed, rest, hattempts, -, -⟩ := h.latest
  · have hlate : time.toNanos - b.time.toNanos ≤ R := htime b rest hattempts
    show time.toNanos - b.time.toNanos ≤ 2 * R
    omega
  · have hlate : time.toNanos - missed.time.toNanos ≤ R := htime missed _ hattempts
    rw [Steady, hattempts] at hsteady
    have hgap : missed.time.toNanos - b.time.toNanos ≤ R :=
      (List.isChain_cons_cons.mp hsteady).1.1
    show time.toNanos - b.time.toNanos ≤ 2 * R
    omega

/-- The next attempt of the candidate comes at most two intervals after the last one that led. -/
lemma due (h : w.Holds e a R b) (hR : 0 ≤ R) {wasLeader : Bool}
    (hsteady : (w.attempted e a wasLeader).Steady a R) : w.time.since b.time ≤ 2 * R := by
  refine h.recent hR (hsteady.before (.single (.attempt w a wasLeader))) fun x rest hx => ?_
  rw [Steady, attempts_attempted_own, hx] at hsteady
  exact (List.isChain_cons_cons.mp hsteady).1.1

/-- For two intervals the lease stays younger than its span. -/
lemma young (h : w.Holds e a R b) (hmargin : 2 * R < D) (hprecise : w.Precise a (D - 2 * R))
    {time : Instant} (htime : time.since b.time ≤ 2 * R) : time.since b.time.stored < D := by
  have hmem : b ∈ w.attempts a := List.mem_of_find?_eq_some h.find
  obtain hsame | hcut := hprecise b hmem h.leads
  · rw [hsame]
    exact Int.lt_of_le_of_lt htime hmargin
  · have hage : time.toNanos - b.time.toNanos ≤ 2 * R := htime
    have hcut : b.time.toNanos - b.time.stored.toNanos < D - 2 * R := hcut
    show time.toNanos - b.time.stored.toNanos < D
    omega

/-- For two intervals after it led, an attempt of the candidate fails or renews. -/
lemma own (h : w.Holds e a R b) (wasLeader : Bool) (htime : w.time.since b.time ≤ 2 * R) :
    (∃ fault, (w.ballot e a wasLeader).answer = .ok (.error fault) ∧
      (w.attempted e a wasLeader).store.tables.lease = w.store.tables.lease) ∨
    (w.ballot e a wasLeader).answer = .ok (.ok .renewed) ∧
      (w.attempted e a wasLeader).store.tables.lease =
        some ⟨(e a).instanceId, w.time.stored⟩ := by
  have hrenews : (e a).settled w.time w.store.tables =
      (.renewed, (w.store.tables.withLease (e a).instanceId w.time).2) := by
    rw [Elector.settled, h.lease htime, Lease.decide_own rfl]
  obtain ⟨-, ⟨fault, hanswer, -, hlease⟩ | ⟨hanswer, hlease⟩⟩ :=
    Contest.elected_cases e a wasLeader h.closed
  · exact .inl ⟨fault, hanswer, hlease⟩
  · rw [hrenews] at hanswer hlease
    exact .inr ⟨hanswer, hlease⟩

/-- For two intervals after the candidate led, an attempt of another fails or follows it. -/
lemma other (h : w.Holds e a R b) (hmargin : 2 * R < D) (hprecise : w.Precise a (D - 2 * R))
    {i : ι} (hspan : (e i).span = D) (hid : (e i).instanceId ≠ (e a).instanceId)
    (wasLeader : Bool) (htime : w.time.since b.time ≤ 2 * R) :
    ((w.ballot e i wasLeader).fails ∨
      (w.ballot e i wasLeader).answer = .ok (.ok (.follower (e a).instanceId))) ∧
    (w.attempted e i wasLeader).store.tables.lease = w.store.tables.lease := by
  have hyoung : ¬ (e i).span ≤ Lease.age ⟨(e a).instanceId, b.time.stored⟩ w.time := by
    rw [hspan]
    exact Int.not_le.mpr (h.young hmargin hprecise htime)
  have hfollows : (e i).settled w.time w.store.tables =
      (.follower (e a).instanceId, w.store.tables) := by
    rw [Elector.settled, h.lease htime, Lease.decide_fresh hid.symm hyoung]
  obtain ⟨-, ⟨fault, hanswer, -, hlease⟩ | ⟨hanswer, hlease⟩⟩ :=
    Contest.elected_cases e i wasLeader h.closed
  · exact ⟨.inl (Ballot.fails_of_answer hanswer), hlease⟩
  · rw [hfollows] at hanswer hlease
    exact ⟨.inr hanswer, hlease⟩

/-- The invariant outlasts whatever leaves the attempts of the candidate and the lease as they
are. -/
lemma mono (h : w.Holds e a R b) (hclosed : w'.store.saved = none)
    (hattempts : w'.attempts a = w.attempts a) (htime : w.time.toNanos ≤ w'.time.toNanos)
    (hlease : w.time.since b.time ≤ 2 * R → w'.store.tables.lease = w.store.tables.lease) :
    w'.Holds e a R b where
  closed := hclosed
  leads := h.leads
  latest := by rw [hattempts]; exact h.latest
  lease := by
    intro hlate
    have hearlier : w.time.since b.time ≤ 2 * R :=
      Int.le_trans (Int.sub_le_sub_right htime b.time.toNanos) hlate
    rw [hlease hearlier, h.lease hearlier]

/-- Each step of a steady history keeps the invariant. -/
lemma step (h : w.Holds e a R b) (hR : 0 ≤ R) (hmargin : 2 * R < D)
    (hspan : ∀ i, (e i).span = D) (hids : Function.Injective fun i => (e i).instanceId)
    (hstep : Step e w w') (hsteady : w'.Steady a R) (hprecise : w'.Precise a (D - 2 * R)) :
    ∃ b', w'.Holds e a R b' := by
  have hrun : Run e w w' := .single hstep
  have hclosed : w'.store.saved = none := hstep.saved h.closed
  cases hstep with
  | wait later htime =>
      exact ⟨b, h.mono hclosed rfl (Int.sub_nonneg.mp htime) fun _ => rfl⟩
  | ask i =>
      exact ⟨b, h.mono hclosed rfl (Int.le_refl _) fun _ => by rw [(consulted_store e i w).2]⟩
  | work store hsaved hlease => exact ⟨b, h.mono hclosed rfl (Int.le_refl _) fun _ => hlease⟩
  | attempt i wasLeader =>
      by_cases hi : i = a
      · subst hi
        obtain ⟨fault, hanswer, hlease⟩ | ⟨hanswer, hlease⟩ := h.own wasLeader (h.due hR hsteady)
        -- Of two attempts in a row at most one fails, so the last one has led.
        · obtain ⟨rest, hrest⟩ | ⟨missed, rest, hrest, hmissed, -⟩ := h.latest
          · refine ⟨b, hclosed, h.leads, .inr ⟨_, rest, ?_, Ballot.fails_of_answer hanswer, ?_⟩, ?_⟩
            · rw [attempts_attempted_own, hrest]
            · simp [Ballot.not_leads_of_answer hanswer]
            · intro hlate
              rw [hlease, h.lease hlate]
          · rw [Steady, attempts_attempted_own, hrest] at hsteady
            exact absurd ⟨Ballot.fails_of_answer hanswer, hmissed⟩
              (List.isChain_cons_cons.mp hsteady).1.2
        · refine ⟨w.ballot e i wasLeader, hclosed, ?_, .inl ⟨_, attempts_attempted_own _ _⟩, ?_⟩
          · exact Ballot.leads_of_answer hanswer
          · exact fun _ => hlease
      · have hattempts := attempts_attempted_other (e := e) hi wasLeader w
        refine ⟨b, h.mono hclosed hattempts (Int.le_refl _) fun hlate => ?_⟩
        exact (h.other hmargin (hprecise.before hrun) (hspan i) (fun hid => hi (hids hid)) wasLeader
          hlate).2

/-- The invariant holds throughout a steady history that begins with an attempt that leads. -/
lemma of_run {w₀ : Chronicle ι} (hbegins : w₀.Begins e a) (hR : 0 ≤ R) (hmargin : 2 * R < D)
    (hspan : ∀ i, (e i).span = D) (hids : Function.Injective fun i => (e i).instanceId)
    (hrun : Run e w₀ w) (hsteady : w.Steady a R) (hprecise : w.Precise a (D - 2 * R)) :
    ∃ b, w.Holds e a R b := by
  induction hrun with
  | refl =>
      obtain ⟨c, wasLeader, hclosed, hleads, rfl⟩ := hbegins
      obtain ⟨-, hlease⟩ | ⟨hnot, -⟩ := Contest.elected_lease e a wasLeader hclosed
      · exact ⟨c.ballot e a wasLeader, (Contest.elected_cases e a wasLeader hclosed).1, hleads,
          .inl ⟨[], attempts_attempted_own _ _⟩, fun _ => hlease⟩
      · rw [hnot] at hleads
        cases hleads
  | tail _ hstep ih =>
      obtain ⟨b, hb⟩ := ih (hsteady.before (.single hstep)) (hprecise.before (.single hstep))
      exact hb.step hR hmargin hspan hids hstep hsteady hprecise

/-- For two intervals after the candidate led, a check that reads the lease fails, or it goes by
how old the lease is that the candidate wrote then. -/
lemma check (h : w.Holds e a R b) (hspan : (e a).span = D) (htime : w.time.since b.time ≤ 2 * R) :
    (∃ fault, w.check e a = .done (.error fault)) ∨ ∀ later store,
      ((w.check e a).runAt later store).1 =
        .ok (.ok (decide (later.since b.time.stored < D))) := by
  obtain ⟨hread, -⟩ := (e a).checkLeader_upToClock (.still w.store w.time)
  refine hread.imp id fun hjudge later store => ?_
  rw [Chronicle.check, hjudge, Contest.runAt_judge, Session.still, h.lease htime, hspan]
  simp [Lease.holdsFresh, Lease.HoldsFresh, Lease.age]

end Holds

/-! ### Tenure -/

/-- **Tenure**.  From an attempt that makes it the leader, an instance with valid settings attempts
once in each renewal interval, and of two attempts in a row at most one fails. Then all its
attempts that do not fail renew the lease, and up to an interval after the latest of them the
attempts of others follow it. A check that reads the lease and goes on in that time fails, or it
succeeds as long as the lease written by the last attempt that had led is younger than its span:
at least for two intervals after that attempt, and up to the next attempt. -/
theorem tenure {inst : ι → Instance} {w₀ w : Chronicle ι} (he : ∀ i, e i = (inst i).elector)
    (hR : R = (inst a).settings.renewalInterval.nanos)
    (hvalid : (inst a).settings.validate = .ok ())
    (hspan : ∀ i, (inst i).settings.leaseDuration.toSpan? = some D)
    (hids : Function.Injective fun i => (inst i).settings.instanceId)
    (hbegins : w₀.Begins e a) (hsteady : w.Steady a R) (hprecise : w.Precise a (D - 2 * R)) :
    (∀ v wasLeader, Run e w₀ v → Run e (v.attempted e a wasLeader) w →
      (v.ballot e a wasLeader).fails ∨ (v.ballot e a wasLeader).answer = .ok (.ok .renewed)) ∧
    (∀ v i wasLeader, i ≠ a → Run e w₀ v → Run e (v.attempted e i wasLeader) w →
      w.Covers a R v.time → (v.ballot e i wasLeader).fails ∨
        (v.ballot e i wasLeader).answer =
          .ok (.ok (.follower (inst a).settings.instanceId))) ∧
    (∀ v u, Run e w₀ v → Run e (v.consulted e a) u → Run e u w → w.Covers a R u.time →
      (∃ fault, v.check e a = .done (.error fault)) ∨
      ∃ b, (v.attempts a).find? Ballot.leads = some b ∧
        ((v.check e a).runAt u.time u.store).1 =
          .ok (.ok (decide (u.time.since b.time.stored < D))) ∧
        (u.time.since b.time ≤ 2 * R ∨ u.attempts a = v.attempts a →
          ((v.check e a).runAt u.time u.store).1 = .ok (.ok true))) := by
  have hR₀ : 0 ≤ R := by
    rw [hR]
    exact Int.natCast_nonneg _
  have hmargin : 2 * R < D := by
    rw [hR]
    exact Settings.twice_lt_span hvalid (hspan a)
  have hspans : ∀ i, (e i).span = D := by
    intro i
    rw [he]
    exact Instance.span_elector (hspan i)
  have hnames : ∀ i, (e i).instanceId = (inst i).settings.instanceId := by
    intro i
    rw [he]
    rfl
  have hdistinct : Function.Injective fun i => (e i).instanceId := by
    intro i j hij
    exact hids ((hnames i).symm.trans (hij.trans (hnames j)))
  have hholds : ∀ v, Run e w₀ v → Run e v w → ∃ b, v.Holds e a R b := by
    intro v hv hlater
    exact Holds.of_run hbegins hR₀ hmargin hspans hdistinct hv (hsteady.before hlater)
      (hprecise.before hlater)
  refine ⟨?_, ?_, ?_⟩
  · intro v wasLeader hv hlater
    obtain ⟨b, hb⟩ := hholds v hv (.head (.attempt v a wasLeader) hlater)
    obtain ⟨fault, hanswer, -⟩ | ⟨hanswer, -⟩ :=
      hb.own wasLeader (hb.due hR₀ (hsteady.before hlater))
    · exact .inl (Ballot.fails_of_answer hanswer)
    · exact .inr hanswer
  · intro v i wasLeader hi hv hlater hcovers
    have hrest : Run e v w := .head (.attempt v i wasLeader) hlater
    obtain ⟨b, hb⟩ := hholds v hv hrest
    have hdue := hb.recent hR₀ (hsteady.before hrest) fun x rest => hcovers.before hsteady hrest
    rw [← hnames a]
    exact (hb.other hmargin (hprecise.before hrest) (hspans i) (fun hid => hi (hdistinct hid))
      wasLeader hdue).1
  · intro v u hv hread hlater hcovers
    have hstep : Run e v u := .head (.ask v a) hread
    have hrest : Run e v w := hstep.trans hlater
    obtain ⟨b, hb⟩ := hholds v hv hrest
    have hdue := hb.recent hR₀ (hsteady.before hrest) fun x rest =>
      (hcovers.mono hstep.record.1).before hsteady hrest
    refine (hb.check (hspans a) hdue).imp id fun hjudge => ⟨b, hb.find, hjudge _ _, fun hsoon => ?_⟩
    have hage : u.time.since b.time ≤ 2 * R := by
      obtain hsoon | hsame := hsoon
      · exact hsoon
      -- No attempt lies between the two halves of the check, so the one before them still counts.
      · obtain ⟨b', hb'⟩ := hholds u (hv.trans hstep) hlater
        obtain rfl : b' = b := by
          have hfind := hb'.find
          rw [hsame, hb.find] at hfind
          exact (Option.some.inj hfind).symm
        exact hb'.recent hR₀ (hsteady.before hlater) fun x rest => hcovers.before hsteady hlater
    rw [hjudge, decide_eq_true (hb.young hmargin (hprecise.before hrest) hage)]

/-! ### Two instances -/

/-- Two instances with standard settings, but for how long a lease lasts. -/
def duo (lease : Duration) (second : Bool) : Instance where
  settings := { Settings.standard (cond second "second" "first") with leaseDuration := lease }
  registry := .empty

/-- The two instances as candidates. -/
def rivals (lease : Duration) (second : Bool) : Elector := (duo lease second).elector

/-- The clock shows a number of seconds more than at the start. -/
def waited (w : Chronicle Bool) (start : Instant) (secs : Nat) : Chronicle Bool :=
  { w with time := start.advance (secs * nanosPerSec) }

/-- The next transaction cannot begin. -/
def cutOff (w : Chronicle Bool) : Chronicle Bool :=
  { w with store := { w.store with faults := [⟨.begin, "08006", "connection lost", 1, 0⟩] } }

/-- The first of two instances takes the lease. -/
def led (lease : Duration) (start : Instant) : Chronicle Bool :=
  attempted (rivals lease) false false { toContest := ⟨.new, start, []⟩, ballots := [] }

/-- The attempt of the first instance after ten seconds fails, and then twenty seconds are over. -/
def missed (lease : Duration) (start : Instant) : Chronicle Bool :=
  (attempted (rivals lease) false true ((led lease start).cutOff.waited start 10)).waited start 20

/-- The first instance begins a check then, the second attempts to lead, and after it the first. -/
def contested (lease : Duration) (start : Instant) : Chronicle Bool :=
  let asked := (missed lease start).consulted (rivals lease) false
  attempted (rivals lease) false true (attempted (rivals lease) true false asked)

/-- The first instance begins a check, and while the check waits it renews the lease every ten
seconds. -/
def outwaited (lease : Duration) (start : Instant) : Chronicle Bool :=
  let renewed (w : Chronicle Bool) (secs : Nat) :=
    attempted (rivals lease) false true (w.waited start secs)
  renewed (renewed (renewed ((led lease start).consulted (rivals lease) false) 10) 20) 30

section Two

variable (lease : Duration) (start : Instant)

lemma injective_duo : Function.Injective fun i => (duo lease i).settings.instanceId := by
  have hnames : Function.Injective fun i => cond i "second" "first" := by
    intro i j
    revert i j
    decide
  exact hnames

lemma saved_led : (led lease start).store.saved = none :=
  (Contest.elected_cases (rivals lease) false false rfl).1

lemma begins_led (h : (led lease start).ballots.head?.any Ballot.leads) :
    (led lease start).Begins (rivals lease) false :=
  ⟨⟨.new, start, []⟩, false, rfl, h, rfl⟩

/-- Time passes by whole seconds. -/
lemma step_waited {w : Chronicle Bool} {secs more : Nat} (hle : secs ≤ more)
    (htime : w.time = start.advance (secs * nanosPerSec)) :
    Step (rivals lease) w (w.waited start more) := by
  refine .wait w _ (Int.sub_nonneg.mpr ?_)
  rw [htime, Instant.advance, Instant.advance, Instant.toNanos_ofNanos, Instant.toNanos_ofNanos]
  show start.toNanos + secs * 1000000000 ≤ start.toNanos + more * 1000000000
  omega

lemma run_missed (hstart : start.advance 0 = start) :
    Run (rivals lease) (led lease start) (missed lease start) := by
  have hcut : Step (rivals lease) (led lease start) (led lease start).cutOff :=
    .work _ _ (saved_led lease start) rfl
  have hten := step_waited lease start (w := (led lease start).cutOff) (Nat.zero_le 10)
    (show start = start.advance ((0 : Nat) * nanosPerSec) by simpa using hstart.symm)
  have htwenty := step_waited lease start (w := attempted (rivals lease) false true
    ((led lease start).cutOff.waited start 10)) (show 10 ≤ 20 by decide) rfl
  exact .tail (.tail (.tail (.single hcut) hten) (.attempt _ false true)) htwenty

lemma run_outwaited (hstart : start.advance 0 = start) :
    Run (rivals lease) ((led lease start).consulted (rivals lease) false)
      (outwaited lease start) := by
  have hten := step_waited lease start (w := (led lease start).consulted (rivals lease) false)
    (Nat.zero_le 10)
    (show start = start.advance ((0 : Nat) * nanosPerSec) by simpa using hstart.symm)
  have hrenewed (w : Chronicle Bool) {secs more : Nat} (hle : secs ≤ more) :=
    step_waited lease start (w := attempted (rivals lease) false true (w.waited start secs)) hle rfl
  exact .tail (.tail (.tail (.tail (.tail (.single hten) (.attempt _ false true))
    (hrenewed _ (show 10 ≤ 20 by decide))) (.attempt _ false true))
    (hrenewed _ (show 20 ≤ 30 by decide))) (.attempt _ false true)

end Two

/-- The attempt of the first instance to renew has failed once. Ten seconds later a check of it
succeeds, the second instance follows it, and then it renews its lease. -/
theorem tenure_after_miss :
    let e := rivals (.ofSecs 30)
    let w := missed (.ofSecs 30) (.ofSecs 0)
    ((w.check e false).runAt w.time w.store).1 = .ok (.ok true) ∧
    ((w.consulted e false).ballot e true false).answer = .ok (.ok (.follower "first")) ∧
    (((w.consulted e false).attempted e true false).ballot e false true).answer =
      .ok (.ok .renewed) := by
  have hsteady : Steady false (10 * nanosPerSec) (contested (.ofSecs 30) (.ofSecs 0)) := by
    unfold Steady
    decide
  have hprecise : Precise false (30 * nanosPerSec - 2 * (10 * nanosPerSec))
      (contested (.ofSecs 30) (.ofSecs 0)) := precise_of_le (by decide) _
  have he : ∀ i, rivals (.ofSecs 30) i = (duo (.ofSecs 30) i).elector := fun _ => rfl
  have hrun := run_missed (.ofSecs 30) (.ofSecs 0) rfl
  obtain ⟨hown, hother, hcheck⟩ := tenure (D := 30 * nanosPerSec) he rfl rfl (fun _ => rfl)
    (injective_duo _) (begins_led (.ofSecs 30) (.ofSecs 0) (by decide)) hsteady hprecise
  have hasked := hrun.tail (.ask _ false)
  refine ⟨?_, ?_, ?_⟩
  · obtain ⟨fault, hfault⟩ | ⟨b, -, -, hsucceeds⟩ := hcheck _ _ hrun .refl
      (.tail (.single (.attempt _ true false)) (.attempt _ false true)) ⟨_, rfl, by decide⟩
    · cases hfault
    · exact hsucceeds (.inr rfl)
  · obtain hnever | hkept :=
      hother _ true false (by decide) hasked (.single (.attempt _ false true)) ⟨_, rfl, by decide⟩
    · exact absurd hnever (by decide)
    · exact hkept
  · exact (hown _ true (hasked.tail (.attempt _ true false)) .refl).resolve_left (by decide)

/-- Both bounds are needed. With a lease of twenty seconds and a nanosecond, valid beside renewals
every ten seconds, the second instance takes the lease over when the first has missed one renewal,
because a table keeps the renewal as 999 nanoseconds earlier than it was. And a check that goes on
after three renewals fails, because the lease that it has read is as old as the span by then. -/
theorem robbed_and_outwaited :
    (∀ lease, Function.Injective fun i => (duo lease i).settings.instanceId) ∧
    (let e := rivals ⟨20000000001⟩
     let w₀ := led ⟨20000000001⟩ ⟨1000000000, 999⟩
     let w := contested ⟨20000000001⟩ ⟨1000000000, 999⟩
     (∀ i, (duo ⟨20000000001⟩ i).settings.validate = .ok ()) ∧
     (∀ i, (duo ⟨20000000001⟩ i).settings.leaseDuration.toSpan? = some 20000000001) ∧
     w₀.Begins e false ∧ Run e w₀ w ∧ w.Steady false (10 * nanosPerSec) ∧
     w.ballots.map Ballot.answer =
       [.ok (.ok (.follower "second")), .ok (.ok (.stolen "first")),
        .ok (.error (.refused (some "08006") "connection lost")), .ok (.ok .acquired)]) ∧
    (let e := rivals (.ofSecs 30)
     let w₀ := led (.ofSecs 30) (.ofSecs 0)
     let w := outwaited (.ofSecs 30) (.ofSecs 0)
     (∀ i, (duo (.ofSecs 30) i).settings.validate = .ok ()) ∧
     (∀ i, (duo (.ofSecs 30) i).settings.leaseDuration.toSpan? = some (30 * nanosPerSec)) ∧
     w₀.Begins e false ∧ Run e (w₀.consulted e false) w ∧ w.Steady false (10 * nanosPerSec) ∧
     w.ballots.map Ballot.answer = [.ok (.ok .renewed), .ok (.ok .renewed), .ok (.ok .renewed),
       .ok (.ok .acquired)] ∧
     ((w₀.check e false).runAt w.time w.store).1 = .ok (.ok false)) := by
  refine ⟨injective_duo,
    ⟨fun i => by cases i <;> rfl, fun i => rfl, begins_led _ _ (by decide), ?_, ?_, rfl⟩,
    ⟨fun i => by cases i <;> rfl, fun i => rfl, begins_led _ _ (by decide), ?_, ?_, rfl, rfl⟩⟩
  · exact .tail (.tail (.tail (run_missed _ _ rfl) (.ask _ false)) (.attempt _ true false))
      (.attempt _ false true)
  · unfold Steady
    decide
  · exact run_outwaited _ _ rfl
  · unfold Steady
    decide

end Chronicle

end JobDispatch
