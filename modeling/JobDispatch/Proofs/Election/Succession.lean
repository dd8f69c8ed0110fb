import JobDispatch.Proofs.Election.Chronicle
import JobDispatch.Proofs.Store.Strikes

/-!
The lease and the record of the attempts.

The table of the lease begins empty. Whatever faults strike the attempts, and in whatever order the
candidates make them, the lease is what the record says.

* `Chronicle.Recorded` is the invariant: the lease is the one that the latest attempt that led has
  left, and there is none if no attempt has led.
* `Elector.electOnce_faultless`: an attempt that no fault strikes settles, or the store does not
  take the name of its candidate.
* `Chronicle.succession`: the lease follows the record, it never disappears or gets older, an
  attempt that does not lead leaves it alone, and an attempt that no fault strikes never finds it
  other than it has just read it.
-/

namespace JobDispatch

/-! ### Attempts that no fault strikes -/

/-- An attempt that no fault strikes settles, unless the store refuses the name of its candidate. -/
lemma Elector.electOnce_faultless (e : Elector) (wasLeader : Bool) {s : Session}
    (hs : s.store.saved = none)
    (hspared : ((e.electOnce wasLeader).run s).2.store.strikesLeft = s.store.strikesLeft) :
    (e.electOnce wasLeader).Ends s fun outcome _ =>
      outcome.1 = .ok (e.settled s.now s.store.tables).1 ∨
      ∃ fault, outcome.1 = .error fault ∧ textRefusal? e.instanceId = some fault := by
  obtain ⟨outcome, s', hrun, hends⟩ := electOnce_ends e wasLeader hs
  obtain ⟨outcome₀, s₀, hrun₀, hends₀⟩ :=
    electOnce_ends e wasLeader (s := { s with store := s.store.faultless }) hs
  obtain rfl : outcome₀ = outcome := by
    rw [Script.run_faultless _ s hspared, hrun] at hrun₀
    exact (Except.ok.inj (Prod.mk.inj hrun₀).1).symm
  refine ⟨_, s', hrun, ?_⟩
  obtain ⟨o, rfl, ho, -⟩ | ⟨fault, rfl, hfaults | hrefused, -⟩ := hends₀
  · exact .inl (congrArg Except.ok ho)
  · exact absurd rfl hfaults
  · exact .inr ⟨fault, rfl, hrefused⟩

namespace Chronicle

variable {ι : Type} {e : ι → Elector} {w w' : Chronicle ι}

/-- The lease that an attempt leaves by which its candidate leads. -/
def granted (e : ι → Elector) (b : Ballot ι) : Lease :=
  ⟨(e b.candidate).instanceId, b.time.stored⟩

/-- No transaction is open, no attempt is on record, and there is no lease. -/
structure Blank (w : Chronicle ι) : Prop where
  closed : w.store.saved = none
  lease : w.store.tables.lease = none
  ballots : w.ballots = []

/-! ### The invariant -/

/-- The lease is the one that the latest attempt that led has left, and no attempt on record was
made in the future. -/
structure Recorded (e : ι → Elector) (w : Chronicle ι) : Prop where
  closed : w.store.saved = none
  past : ∀ b ∈ w.ballots, b.time.toNanos ≤ w.time.toNanos
  lease : w.store.tables.lease = (w.ballots.find? Ballot.leads).map (granted e)

namespace Recorded

lemma of_blank (h : w.Blank) : w.Recorded e where
  closed := h.closed
  past := by simp [h.ballots]
  lease := by simp [h.lease, h.ballots]

/-- Each step keeps the invariant. -/
lemma step (h : w.Recorded e) (hstep : Step e w w') : w'.Recorded e := by
  have hpast : ∀ b ∈ w'.ballots, b.time.toNanos ≤ w'.time.toNanos := by
    obtain ⟨htime, hsame | ⟨b, hnew, hnow⟩⟩ := hstep.record
    · intro b hb
      rw [hsame] at hb
      exact Int.le_trans (h.past b hb) htime
    · intro x hx
      rw [hnew] at hx
      obtain rfl | hx := List.mem_cons.mp hx
      · rw [hnow]
        exact htime
      · exact Int.le_trans (h.past x hx) htime
  refine ⟨hstep.saved h.closed, hpast, ?_⟩
  obtain ⟨i, wasLeader, rfl⟩ | ⟨hlease, hballots⟩ := hstep.lease_cases
  · obtain ⟨hleads, hlease⟩ | ⟨hleads, hlease⟩ := Contest.elected_lease e i wasLeader h.closed
    · rw [attempted, List.find?_cons_of_pos hleads]
      exact hlease
    · rw [attempted, List.find?_cons_of_neg (by simp [hleads]), ← h.lease]
      exact hlease
  · rw [hlease, hballots, h.lease]

/-- Each run keeps the invariant. -/
lemma run (h : w.Recorded e) (hrun : Run e w w') : w'.Recorded e := by
  induction hrun with
  | refl => exact h
  | tail _ hstep ih => exact ih.step hstep

/-- A lease was renewed by an attempt that is not in the future. -/
lemma renewed_le (h : w.Recorded e) {l : Lease} (hl : w.store.tables.lease = some l) :
    ∃ b : Ballot ι, l = granted e b ∧ b.time.toNanos ≤ w.time.toNanos := by
  rw [h.lease, Option.map_eq_some_iff] at hl
  obtain ⟨b, hb, rfl⟩ := hl
  exact ⟨b, rfl, h.past b (List.mem_of_find?_eq_some hb)⟩

/-- A step never takes the lease away and never makes it older. -/
lemma lease_le (h : w.Recorded e) (hstep : Step e w w') {l : Lease}
    (hl : w.store.tables.lease = some l) :
    ∃ l', w'.store.tables.lease = some l' ∧ l.renewedAt ≤ l'.renewedAt := by
  obtain ⟨b, rfl, hpast⟩ := h.renewed_le hl
  obtain ⟨i, wasLeader, rfl⟩ | ⟨hlease, -⟩ := hstep.lease_cases
  · obtain ⟨-, hlease⟩ | ⟨-, hlease⟩ := Contest.elected_lease e i wasLeader h.closed
    · exact ⟨_, hlease, (Instant.stored_le_iff _ _).mpr (Instant.stored_le_stored hpast)⟩
    · exact ⟨_, hlease.trans hl, Instant.le_refl _⟩
  · exact ⟨_, hlease.trans hl, Instant.le_refl _⟩

lemma lease_le_of_run (h : w.Recorded e) (hrun : Run e w w') {l : Lease}
    (hl : w.store.tables.lease = some l) :
    ∃ l', w'.store.tables.lease = some l' ∧ l.renewedAt ≤ l'.renewedAt := by
  induction hrun with
  | refl => exact ⟨l, hl, Instant.le_refl _⟩
  | tail hrun hstep ih =>
      obtain ⟨l', hl', hle⟩ := ih
      obtain ⟨l'', hl'', hle'⟩ := (h.run hrun).lease_le hstep hl'
      exact ⟨l'', hl'', Instant.le_trans hle hle'⟩

end Recorded

/-! ### Succession -/

/-- An attempt that does not lead leaves the lease as it is. -/
lemma lease_attempted (hw : w.store.saved = none) (i : ι) (wasLeader : Bool)
    (hnot : (w.ballot e i wasLeader).leads = false) :
    (w.attempted e i wasLeader).store.tables.lease = w.store.tables.lease := by
  obtain ⟨hleads, -⟩ | ⟨-, hsame⟩ := Contest.elected_lease e i wasLeader hw
  · rw [hnot] at hleads
    cases hleads
  · exact hsame

/-- If an attempt fails that no fault strikes, then the store refuses the name of its candidate. -/
lemma refused_of_spared (hw : w.store.saved = none) {i : ι} {wasLeader : Bool} {fault : StoreError}
    (hspared : (w.attempted e i wasLeader).store.strikesLeft = w.store.strikesLeft)
    (hfails : (w.ballot e i wasLeader).answer = .ok (.error fault)) :
    textRefusal? (e i).instanceId = some fault := by
  obtain ⟨outcome, s, hrun, hends⟩ := ((e i).electOnce_faultless wasLeader
    (s := .still w.store w.time) hw hspared).runAt
  rw [Contest.ballot, hrun] at hfails
  have hfault : outcome.1 = .error fault := Except.ok.inj hfails
  obtain hsettles | ⟨refusal, hrefused, htext⟩ := hends
  · rw [hsettles] at hfault
    cases hfault
  · rw [hrefused] at hfault
    rw [htext, Except.error.inj hfault]

/-- **Succession**.  From an empty table, and whatever faults there are, the lease is the one that
the latest attempt that led has left: its holder is the candidate of that attempt, and it was
renewed when the attempt was made, as a table keeps it. There is none before an attempt has led.
Once there is a lease it never disappears and is never renewed earlier. Each attempt comes to an
end, and one that fails or follows leaves the lease exactly as it was. If no fault strikes an
attempt, then it does not fail on the key of the table or for want of a row: all that can be wrong
is a character in the name of its candidate that the store does not take. -/
theorem succession {w₀ : Chronicle ι} (hblank : w₀.Blank) (hrun : Run e w₀ w) :
    w.store.tables.lease = (w.ballots.find? Ballot.leads).map (granted e) ∧
    (∀ w' l, Run e w w' → w.store.tables.lease = some l →
      ∃ l', w'.store.tables.lease = some l' ∧ l.renewedAt ≤ l'.renewedAt) ∧
    (∀ i wasLeader, ∃ outcome, (w.ballot e i wasLeader).answer = .ok outcome ∧
      ((∃ fault, outcome = .error fault) ∨ (∃ holder, outcome = .ok (.follower holder)) →
        (w.attempted e i wasLeader).store.tables.lease = w.store.tables.lease) ∧
      ((w.attempted e i wasLeader).store.strikesLeft = w.store.strikesLeft →
        ∀ fault, outcome = .error fault → textRefusal? (e i).instanceId = some fault ∧
          fault ≠ .duplicateKey "scheduler_lease" ∧ fault ≠ .rowNotFound)) := by
  have h : w.Recorded e := (Recorded.of_blank hblank).run hrun
  refine ⟨h.lease, fun w' l hlater hl => h.lease_le_of_run hlater hl, ?_⟩
  intro i wasLeader
  obtain ⟨outcome, hanswer⟩ : ∃ outcome, (w.ballot e i wasLeader).answer = .ok outcome := by
    obtain ⟨-, ⟨fault, hanswer, -⟩ | ⟨hanswer, -⟩⟩ := Contest.elected_cases e i wasLeader h.closed
    · exact ⟨_, hanswer⟩
    · exact ⟨_, hanswer⟩
  refine ⟨outcome, hanswer, ?_, ?_⟩
  · rintro (⟨fault, rfl⟩ | ⟨holder, rfl⟩)
    · exact lease_attempted h.closed i wasLeader (Ballot.not_leads_of_answer hanswer)
    · exact lease_attempted h.closed i wasLeader (Ballot.leads_of_answer hanswer)
  · rintro hspared fault rfl
    have hrefused := refused_of_spared h.closed hspared hanswer
    refine ⟨hrefused, ?_, ?_⟩
    all_goals
      rw [textRefusal?] at hrefused
      split at hrefused
      · rw [← Option.some.inj hrefused]
        decide
      · cases hrefused

/-- The first of two candidates takes the lease, and an attempt of the second follows it. -/
theorem succession_of_pair :
    let start : Chronicle Bool := { toContest := ⟨.new, .ofSecs 0, []⟩, ballots := [] }
    let w := attempted Contest.pair false false start
    w.store.tables.lease = some ⟨"first", .ofSecs 0⟩ ∧
      (w.attempted Contest.pair true false).store.tables.lease = w.store.tables.lease := by
  intro start w
  have hblank : start.Blank := ⟨rfl, rfl, rfl⟩
  have hrun : Run Contest.pair start w := .single (.attempt _ false false)
  have hfollows : (w.ballot Contest.pair true false).answer = .ok (.ok (.follower "first")) := rfl
  obtain ⟨hlease, -, hattempt⟩ := succession hblank hrun
  obtain ⟨outcome, hanswer, hleaves, -⟩ := hattempt true false
  refine ⟨hlease.trans rfl, hleaves (.inr ⟨"first", ?_⟩)⟩
  exact Except.ok.inj (hanswer.symm.trans hfollows)

end Chronicle

end JobDispatch
