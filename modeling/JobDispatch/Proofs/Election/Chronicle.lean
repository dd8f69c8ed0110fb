import JobDispatch.Proofs.Election.Exclusion

/-!
Contests with a record of the attempts.

* `Ballot` is one attempt: whose it was, what the clock showed, and what came of it.
* `Chronicle` is a contest together with all ballots so far, the latest first, and
  `Chronicle.Step` is a step of the contest that is put on record.
* `Contest.elected_cases`: an attempt fails and leaves the lease as it is, or it settles.
* `Chronicle.Run.record`: the record only grows, and along with the clock.
-/

namespace JobDispatch

/-! ### Attempts -/

/-- One attempt to lead. -/
structure Ballot (ι : Type) where
  candidate : ι
  time : Instant
  answer : Except Halt (Except StoreError ElectionOutcome)

namespace Ballot

variable {ι : Type} (b : Ballot ι)

/-- The attempt has made its candidate the leader, or left it the leader. -/
def leads : Bool :=
  match b.answer with
  | .ok (.ok outcome) => outcome.isLeader
  | _ => false

/-- The attempt has ended with an error of the store. -/
def fails : Bool :=
  match b.answer with
  | .ok (.error _) => true
  | _ => false

variable {b}

lemma leads_of_answer {o : ElectionOutcome} (h : b.answer = .ok (.ok o)) :
    b.leads = o.isLeader := by
  rw [leads, h]

lemma fails_of_answer {fault : StoreError} (h : b.answer = .ok (.error fault)) : b.fails := by
  rw [fails, h]

lemma not_leads_of_answer {fault : StoreError} (h : b.answer = .ok (.error fault)) :
    b.leads = false := by
  rw [leads, h]

end Ballot

/-- An attempt that settles gives its candidate a lease of that instant, or it follows the holder
of the lease and changes nothing. -/
lemma Elector.settled_cases (e : Elector) (now : Instant) (t : Tables) :
    (e.settled now t).1.isLeader = true ∧
      (e.settled now t).2.lease = some ⟨e.instanceId, now.stored⟩ ∨
    ∃ l, t.lease = some l ∧ e.settled now t = (.follower l.holder, t) := by
  rw [settled]
  cases hl : t.lease with
  | none => exact .inl ⟨rfl, rfl⟩
  | some l =>
      by_cases hown : l.holder = e.instanceId
      · rw [Lease.decide_own hown]
        exact .inl ⟨rfl, rfl⟩
      · by_cases hold : e.span ≤ l.age now
        · rw [Lease.decide_stale hown hold]
          exact .inl ⟨rfl, rfl⟩
        · rw [Lease.decide_fresh hown hold]
          exact .inr ⟨l, rfl, rfl⟩

namespace Contest

variable {ι : Type} (e : ι → Elector) (i : ι) (wasLeader : Bool) (c : Contest ι)

/-- An attempt of the candidate `i`, as it is put on record. -/
def ballot : Ballot ι where
  candidate := i
  time := c.time
  answer := (((e i).electOnce wasLeader).runAt c.time c.store).1.map Prod.fst

variable {c}

/-- An attempt fails and leaves the lease as it is, or it settles. It leaves no transaction open. -/
lemma elected_cases (hc : c.store.saved = none) :
    (c.elected e i wasLeader).store.saved = none ∧
    ((∃ fault, (c.ballot e i wasLeader).answer = .ok (.error fault) ∧
        (e i).Blocks (.still c.store c.time) fault ∧
        (c.elected e i wasLeader).store.tables.lease = c.store.tables.lease) ∨
      (c.ballot e i wasLeader).answer = .ok (.ok ((e i).settled c.time c.store.tables).1) ∧
        (c.elected e i wasLeader).store.tables.lease =
          ((e i).settled c.time c.store.tables).2.lease) := by
  obtain ⟨outcome, s, hrun, hs⟩ := (Elector.electOnce_ends (e i) wasLeader
    (s := .still c.store c.time) hc).runAt
  have hstore : (c.elected e i wasLeader).store = s.store := by rw [elected, hrun]
  have hanswer : (c.ballot e i wasLeader).answer = .ok outcome.1 := by rw [ballot, hrun]; rfl
  rw [hstore, hanswer]
  obtain ⟨o, rfl, rfl, hleaves⟩ | ⟨fault, rfl, hblocks, hleaves⟩ := hs
  · exact ⟨hleaves.saved, .inr ⟨rfl, by rw [hleaves.tables]; rfl⟩⟩
  · exact ⟨hleaves.saved, .inl ⟨fault, rfl, hblocks, by rw [hleaves.tables]; rfl⟩⟩

/-- An attempt that leads writes the lease, and any other leaves it as it is. -/
lemma elected_lease (hc : c.store.saved = none) :
    (c.ballot e i wasLeader).leads = true ∧
      (c.elected e i wasLeader).store.tables.lease = some ⟨(e i).instanceId, c.time.stored⟩ ∨
    (c.ballot e i wasLeader).leads = false ∧
      (c.elected e i wasLeader).store.tables.lease = c.store.tables.lease := by
  obtain ⟨-, ⟨fault, hanswer, -, hlease⟩ | ⟨hanswer, hlease⟩⟩ := elected_cases e i wasLeader hc
  · exact .inr ⟨Ballot.not_leads_of_answer hanswer, hlease⟩
  · rw [Ballot.leads_of_answer hanswer, hlease]
    obtain hwins | ⟨l, -, hfollows⟩ := (e i).settled_cases c.time c.store.tables
    · exact .inl hwins
    · rw [hfollows]
      exact .inr ⟨rfl, rfl⟩

end Contest

/-! ### Records -/

/-- A contest and its ballots so far, the latest first. -/
structure Chronicle (ι : Type) extends Contest ι where
  ballots : List (Ballot ι)

namespace Chronicle

variable {ι : Type} {e : ι → Elector}

/-- The chronicle after an attempt of the candidate `i`. -/
def attempted (e : ι → Elector) (i : ι) (wasLeader : Bool) (w : Chronicle ι) : Chronicle ι where
  toContest := w.elected e i wasLeader
  ballots := w.ballot e i wasLeader :: w.ballots

/-- The chronicle after a check of the candidate `i` has read the lease. -/
def consulted (e : ι → Elector) (i : ι) (w : Chronicle ι) : Chronicle ι :=
  { w with toContest := w.asked e i }

/-- What can happen in a contest that is put on record. As `Contest.Step` says it, attempts are
atomic, checks may go on at any later time, and other work, to which new faults of the store belong,
leaves the lease alone. -/
inductive Step (e : ι → Elector) : Chronicle ι → Chronicle ι → Prop
  | wait (w : Chronicle ι) (later : Instant) (h : 0 ≤ later.since w.time) :
      Step e w { w with time := later }
  | attempt (w : Chronicle ι) (i : ι) (wasLeader : Bool) : Step e w (w.attempted e i wasLeader)
  | ask (w : Chronicle ι) (i : ι) : Step e w (w.consulted e i)
  | work (w : Chronicle ι) (store : Store) (hsaved : store.saved = none)
      (hlease : store.tables.lease = w.store.tables.lease) : Step e w { w with store }

/-- Some number of steps, in any order. -/
abbrev Run (e : ι → Elector) : Chronicle ι → Chronicle ι → Prop :=
  Relation.ReflTransGen (Step e)

/-- A check leaves the lease as it is and no transaction open. -/
lemma consulted_store (e : ι → Elector) (i : ι) (w : Chronicle ι) :
    (w.consulted e i).store.saved = w.store.saved ∧
      (w.consulted e i).store.tables = w.store.tables := by
  obtain ⟨-, hkeeps⟩ := (e i).checkLeader_upToClock (.still w.store w.time)
  exact ⟨hkeeps.saved, hkeeps.tables⟩

/-- A step adds at most one ballot, which shows the time of the clock. -/
lemma Step.record {w w' : Chronicle ι} (h : Step e w w') :
    w.time.toNanos ≤ w'.time.toNanos ∧ (w'.ballots = w.ballots ∨
      ∃ b, w'.ballots = b :: w.ballots ∧ b.time = w.time) := by
  cases h with
  | wait later htime => exact ⟨Int.sub_nonneg.mp htime, .inl rfl⟩
  | attempt i wasLeader => exact ⟨Int.le_refl _, .inr ⟨_, rfl, rfl⟩⟩
  | ask i => exact ⟨Int.le_refl _, .inl rfl⟩
  | work store hsaved hlease => exact ⟨Int.le_refl _, .inl rfl⟩

/-- The record only grows, and along with the clock. -/
lemma Run.record {w w' : Chronicle ι} (h : Run e w w') :
    w.time.toNanos ≤ w'.time.toNanos ∧
      ∃ newer, w'.ballots = newer ++ w.ballots ∧
        ∀ b ∈ newer, w.time.toNanos ≤ b.time.toNanos := by
  induction h with
  | refl => exact ⟨Int.le_refl _, [], rfl, fun b hb => nomatch hb⟩
  | tail _ hstep ih =>
      obtain ⟨htime, newer, hballots, hnewer⟩ := ih
      obtain ⟨hlater, hsame | ⟨b, hb, hnow⟩⟩ := hstep.record
      · exact ⟨Int.le_trans htime hlater, newer, hsame.trans hballots, hnewer⟩
      · refine ⟨Int.le_trans htime hlater, b :: newer, by rw [hb, hballots]; rfl, fun x hx => ?_⟩
        obtain rfl | hx := List.mem_cons.mp hx
        · rw [hnow]
          exact htime
        · exact hnewer x hx

/-- No transaction is open between the steps. -/
lemma Step.saved {w w' : Chronicle ι} (h : Step e w w') (hw : w.store.saved = none) :
    w'.store.saved = none := by
  cases h with
  | wait later htime => exact hw
  | attempt i wasLeader => exact (Contest.elected_cases e i wasLeader hw).1
  | ask i => exact (consulted_store e i w).1.trans hw
  | work store hsaved hlease => exact hsaved

/-- Only attempts change the lease. -/
lemma Step.lease_cases {w w' : Chronicle ι} (h : Step e w w') :
    (∃ i wasLeader, w' = w.attempted e i wasLeader) ∨
      w'.store.tables.lease = w.store.tables.lease ∧ w'.ballots = w.ballots := by
  cases h with
  | wait later htime => exact .inr ⟨rfl, rfl⟩
  | attempt i wasLeader => exact .inl ⟨i, wasLeader, rfl⟩
  | ask i => exact .inr ⟨by rw [(consulted_store e i w).2], rfl⟩
  | work store hsaved hlease => exact .inr ⟨hlease, rfl⟩

end Chronicle

end JobDispatch
