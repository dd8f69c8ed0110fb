import JobDispatch.Proofs.Store.Transaction
import Mathlib.Algebra.GroupWithZero.Nat

/-!
Faults that do not strike.

A fault that waits for other statements, or lets these pass, makes no difference to a script. How
many strikes the faults of a store have left tells whether one of them has struck.

* `Store.strikesLeft` counts them; no statement adds any (`Script.strikesLeft_run_le`).
* `Script.run_faultless`: a script that ends with as many strikes left as it began with comes to
  the same end over the store without faults.
-/

namespace JobDispatch

/-! ### Lists of faults -/

namespace Fault

/-- How many statements the faults are still to strike. -/
def strikes (faults : List Fault) : Nat := (faults.map times).sum

@[simp] lemma strikes_cons (f : Fault) (rest : List Fault) :
    strikes (f :: rest) = f.times + strikes rest := by simp [strikes]

@[simp] lemma strikes_letPass (point : Point) (faults : List Fault) :
    strikes (letPass point faults) = strikes faults := by
  induction faults with
  | nil => rfl
  | cons f rest ih => rw [letPass]; split <;> simp [ih]

/-- A statement that passes takes no strike, and one that is struck takes one. -/
lemma strike_spends (point : Point) (faults : List Fault) :
    (strike point faults).1 = none ∧ strikes (strike point faults).2 = strikes faults ∨
    (∃ fault, (strike point faults).1 = some fault) ∧
      strikes (strike point faults).2 < strikes faults := by
  induction faults with
  | nil => exact .inl ⟨rfl, rfl⟩
  | cons f rest ih =>
      rw [strike]
      split
      · next hf =>
          split
          · exact .inl ⟨rfl, by simp⟩
          · exact .inr ⟨⟨_, rfl⟩, by have := hf.2; simp only [strikes_cons]; omega⟩
      · simpa using ih

/-- What the faults make of a statement: its error if one of them strikes, and the faults after
it. -/
def meet (faults : List Fault) (q : Statement) : Option StoreError × List Fault :=
  match q, q.point with
  | .control .abandon, _ => (none, letPass .rollback faults)
  | _, some point => strike point faults
  | _, none => (none, faults)

@[simp] lemma meet_nil (q : Statement) : meet [] q = (none, []) := by
  rw [meet.eq_def]
  split <;> rfl

/-- A statement takes a strike exactly if it fails for it. -/
lemma meet_spends (faults : List Fault) (q : Statement) :
    (meet faults q).1 = none ∧ strikes (meet faults q).2 = strikes faults ∨
    (∃ fault, (meet faults q).1 = some fault) ∧ strikes (meet faults q).2 < strikes faults := by
  rw [meet.eq_def]
  split
  · exact .inl ⟨rfl, strikes_letPass _ _⟩
  · exact strike_spends _ _
  · exact .inl ⟨rfl, rfl⟩

end Fault

/-! ### Statements -/

namespace Store

variable (st : Store)

/-- How many statements the faults of the store are still to strike. -/
def strikesLeft : Nat := Fault.strikes st.faults

/-- The store without its faults. -/
def faultless : Store := { st with faults := [] }

lemma perform_of_passes {q : Statement} (h : (Fault.meet st.faults q).1 = none) :
    st.perform q = (st.counted (Fault.meet st.faults q).2).execute q := by
  unfold perform
  split
  next error faults hq =>
    have hmeet : Fault.meet st.faults q = (error, faults) := hq
    rw [hmeet] at h ⊢
    obtain rfl : error = none := h
    rfl

lemma perform_of_struck {q : Statement} {fault : StoreError}
    (h : (Fault.meet st.faults q).1 = some fault) :
    st.perform q = (.error fault, (st.counted (Fault.meet st.faults q).2).struck q) := by
  unfold perform
  split
  next error faults hq =>
    have hmeet : Fault.meet st.faults q = (error, faults) := hq
    rw [hmeet] at h ⊢
    obtain rfl : error = some fault := h
    rfl

/-- Without faults every statement is executed. -/
lemma perform_of_faultless {st : Store} (h : st.faults = []) (q : Statement) :
    st.perform q = (st.counted []).execute q := by
  have hpasses : (Fault.meet st.faults q).1 = none := by rw [h, Fault.meet_nil]
  rw [st.perform_of_passes hpasses, h, Fault.meet_nil]

lemma strikesLeft_struck (q : Statement) : (st.struck q).strikesLeft = st.strikesLeft := by
  rw [struck.eq_def]
  split <;> rfl

lemma execute_faultless (q : Statement) :
    st.faultless.execute q = ((st.execute q).1, (st.execute q).2.faultless) ∧
      (st.execute q).2.strikesLeft = st.strikesLeft := by
  cases q with
  | control c => cases c <;> exact ⟨rfl, rfl⟩
  | query q =>
      have hsame : st.faultless.tables.apply st.faultless.draw q = st.tables.apply st.draw q := rfl
      rw [execute, execute, hsame]
      cases st.tables.apply st.draw q <;> exact ⟨rfl, rfl⟩

/-- A statement takes a strike, or it does what it would do without faults. -/
lemma perform_faultless (q : Statement) :
    (st.perform q).2.strikesLeft < st.strikesLeft ∨
    (st.perform q).2.strikesLeft = st.strikesLeft ∧
      st.faultless.perform q = ((st.perform q).1, (st.perform q).2.faultless) := by
  obtain ⟨hpasses, hleft⟩ | ⟨⟨fault, hstruck⟩, hless⟩ := Fault.meet_spends st.faults q
  · obtain ⟨hsame, hkeeps⟩ := (st.counted (Fault.meet st.faults q).2).execute_faultless q
    have hnone : st.faultless.perform q = (st.counted []).execute q := by
      rw [st.faultless.perform_of_passes] <;> simp [faultless, counted]
    rw [st.perform_of_passes hpasses]
    exact .inr ⟨hkeeps.trans hleft, hnone.trans hsame⟩
  · rw [st.perform_of_struck hstruck]
    exact .inl (Nat.lt_of_le_of_lt (Nat.le_of_eq (strikesLeft_struck _ q)) hless)

end Store

/-! ### Scripts -/

namespace Script

variable {α : Type}

/-- No script adds strikes. -/
lemma strikesLeft_run_le (p : Script α) (s : Session) :
    (p.run s).2.store.strikesLeft ≤ s.store.strikesLeft := by
  induction p generalizing s with
  | done v => exact Nat.le_refl _
  | halt h => exact Nat.le_refl _
  | exec q next ih =>
      refine Nat.le_trans (ih _ _) ?_
      obtain hless | ⟨hsame, -⟩ := s.store.perform_faultless q
      · exact Nat.le_of_lt hless
      · exact Nat.le_of_eq hsame
  | clock next ih => exact ih _ _
  | note n next ih => exact ih _
  | measure m next ih => exact ih _

/-- A script that no fault strikes comes to the end to which it comes without faults. -/
lemma run_faultless (p : Script α) (s : Session)
    (h : (p.run s).2.store.strikesLeft = s.store.strikesLeft) :
    p.run { s with store := s.store.faultless } =
      ((p.run s).1, { (p.run s).2 with store := (p.run s).2.store.faultless }) := by
  induction p generalizing s with
  | done v => rfl
  | halt h => rfl
  | exec q next ih =>
      have hle := strikesLeft_run_le (next (s.store.perform q).1)
        { s with store := (s.store.perform q).2 }
      obtain hless | ⟨hsame, hreply⟩ := s.store.perform_faultless q
      · exact absurd h (Nat.ne_of_lt (Nat.lt_of_le_of_lt hle hless))
      · rw [run, hreply]
        exact ih _ { s with store := (s.store.perform q).2 } (h.trans hsame.symm)
  | clock next ih => exact ih _ _ h
  | note n next ih => exact ih (s.logged n) h
  | measure m next ih => exact ih (s.measured m) h

end Script

end JobDispatch
