import JobDispatch.Proofs.Zone.Order

/-!
What local clocks never show.

When a clock is set forward it jumps over a gap. A day of which neither the first nor the last
second is shown lies in one gap as a whole, as long as a clock runs for a day at least between two
changes. Among the zones of the table only one has skipped a day since 2005; what came before the
table does not say.

* `Zone.jumpsFrom`: the local minutes from which and to which a clock is set at each change.
* `Zone.Lawful.exists_gap`: a local time that is never shown lies in a gap.
* `Zone.Unhurried`: from one change to the next, on the local clock, it is a day at least.
* `Zone.RunsLike`: from 2005 on, two clocks show the same.
* `Zone.hasDay_eq_false_iff`: the day that clocks like one of the table skip, and no others.
-/

namespace JobDispatch.Zone

variable {z : Zone}

/-! ### Gaps -/

/-- The local minutes from which and to which a clock is set at each change. -/
def jumpsFrom (offset : Int) : List (Int × Int) → List (Int × Int)
  | [] => []
  | (start, next) :: later => (start + offset, start + next) :: jumpsFrom next later

/-- What is not shown from `since` on, though a clock has not come so far by then, lies in a gap. -/
lemma exists_gap_from {changes : List (Int × Int)} (hasc : Ascending changes)
    {since offset shown : Int} (hlow : ∀ c ∈ changes, since ≤ c.1)
    (hsince : (since + offset) * secsPerMinute ≤ shown)
    (hnever : ∀ t, since * secsPerMinute ≤ t →
      t + offsetFrom offset changes t * secsPerMinute ≠ shown) :
    ∃ j ∈ jumpsFrom offset changes, j.1 * secsPerMinute ≤ shown ∧
      shown < j.2 * secsPerMinute := by
  induction changes generalizing since offset with
  | nil =>
      have hne := hnever (shown - offset * secsPerMinute) (by simp only [secsPerMinute] at *; omega)
      rw [offsetFrom] at hne
      omega
  | cons change later ih =>
      obtain ⟨start, next⟩ := change
      obtain ⟨hfirst, hlater⟩ := List.pairwise_cons.mp hasc
      have hstart : since ≤ start := hlow _ List.mem_cons_self
      by_cases hreached : (start + offset) * secsPerMinute ≤ shown
      · by_cases hover : (start + next) * secsPerMinute ≤ shown
        · obtain ⟨j, hj, hgap⟩ := ih hlater (fun c hc => Int.le_of_lt (hfirst c hc).1) hover
            fun t ht => by
              have hne := hnever t (by simp only [secsPerMinute] at *; omega)
              rwa [offsetFrom, if_pos ht] at hne
          exact ⟨j, List.mem_cons_of_mem _ hj, hgap⟩
        · exact ⟨_, List.mem_cons_self, hreached, Int.not_le.mp hover⟩
      · -- before the change the clock comes to the time
        have hne := hnever (shown - offset * secsPerMinute)
          (by simp only [secsPerMinute] at *; omega)
        rw [offsetFrom, if_neg (by simp only [secsPerMinute] at *; omega)] at hne
        omega

/-- A local time that is never shown lies in a gap. -/
lemma Lawful.exists_gap (h : z.Lawful) {shown : Int} (hnever : z.instantsOf shown = []) :
    ∃ j ∈ jumpsFrom z.oldest z.changes, j.1 * secsPerMinute ≤ shown ∧
      shown < j.2 * secsPerMinute := by
  have hne (t : Int) : t + offsetFrom z.oldest z.changes t * secsPerMinute ≠ shown := by
    intro heq
    have hmem : t ∈ z.instantsOf shown := (mem_instantsOf h.ordered).mpr heq
    rw [hnever] at hmem
    cases hmem
  -- from early enough on: before all changes, and before the first clock comes to the time
  obtain ⟨since, hearly, hbefore⟩ := h.ascending.exists_before z.oldest (shown / 60 - z.oldest)
  refine exists_gap_from h.ascending (fun c hc => Int.le_of_lt (hbefore c hc).1) ?_ fun t _ => hne t
  simp only [secsPerMinute]
  omega

/-! ### Days that are skipped -/

/-- From one change to the next, on the local clock, it is a day at least. -/
def Unhurried (z : Zone) : Prop :=
  (jumpsFrom z.oldest z.changes).Pairwise fun j k => max j.1 j.2 + 1440 ≤ min k.1 k.2

/-- One of the two jumps is a day at least before the other. -/
def Apart (j k : Int × Int) : Prop :=
  max j.1 j.2 + 1440 ≤ min k.1 k.2 ∨ max k.1 k.2 + 1440 ≤ min j.1 j.2

instance : Std.Symm Apart := ⟨fun _ _ h => h.symm⟩

/-- Of a day that is not there a clock skips all. -/
lemma Lawful.exists_long_gap (h : z.Lawful) (hfar : z.Unhurried) {day : Int}
    (hday : z.hasDay day = false) :
    ∃ j ∈ jumpsFrom z.oldest z.changes, j.1 ≤ day * 1440 ∧ (day + 1) * 1440 ≤ j.2 := by
  rw [hasDay, Bool.or_eq_false_iff, Bool.not_eq_false', Bool.not_eq_false', List.isEmpty_iff,
    List.isEmpty_iff] at hday
  obtain ⟨j, hj, hjlow, hjhigh⟩ := h.exists_gap hday.1
  obtain ⟨k, hk, hklow, hkhigh⟩ := h.exists_gap hday.2
  have hsame : j = k := by
    by_contra hne
    have hpairs : (jumpsFrom z.oldest z.changes).Pairwise Apart := List.Pairwise.imp Or.inl hfar
    obtain hapart | hapart := hpairs.forall hj hk hne
    all_goals
      simp only [secsPerMinute, secsPerDay] at *
      omega
  subst hsame
  simp only [secsPerMinute, secsPerDay] at *
  exact ⟨j, hj, by omega, by omega⟩

/-- The clocks of the table do not change twice within a day. -/
lemma unhurried_of_mem_known (hz : z ∈ known) : z.Unhurried := by
  have hall : ∀ z ∈ known, (jumpsFrom z.oldest z.changes).IsChain
      fun j k => max j.1 j.2 + 1440 ≤ min k.1 k.2 := by
    decide +kernel
  have : IsTrans (Int × Int) fun j k => max j.1 j.2 + 1440 ≤ min k.1 k.2 := ⟨fun j k l hjk hkl => by
    omega⟩
  exact List.isChain_iff_pairwise.mp (hall z hz)

/-- 30 December 2011, counted in days from 1970-01-01. -/
abbrev skippedDay : Int := 15338

/-- In the table only one zone lacks a day, and only one day. -/
lemma hasDay_eq_false_iff_of_mem_known (hz : z ∈ known) {day : Int} :
    z.hasDay day = false ↔ z = pacificApia ∧ day = skippedDay := by
  constructor
  · intro hday
    have hall : ∀ z ∈ known, ∀ j ∈ jumpsFrom z.oldest z.changes, j.2 < j.1 + 1440 ∨
        z = pacificApia ∧ j = (skippedDay * 1440, (skippedDay + 1) * 1440) := by
      decide +kernel
    obtain ⟨j, hj, hlow, hhigh⟩ :=
      (lawful_of_mem_known hz).exists_long_gap (unhurried_of_mem_known hz) hday
    obtain hshort | ⟨rfl, rfl⟩ := hall z hz j hj
    · omega
    · exact ⟨rfl, by simp only [skippedDay] at *; omega⟩
  · rintro ⟨rfl, rfl⟩
    decide +kernel

/-! ### Since 2005 -/

/-- The first second of 2005 in UTC, from which on the table holds. -/
abbrev firstSec : Int := 1104537600

/-- 2 January 2005, counted in days from 1970-01-01: wherever it is, 2005 has begun in UTC. -/
abbrev firstDay : Int := 12785

/-- From 2005 on the clocks of the two zones show the same. -/
def RunsLike (z z₀ : Zone) : Prop := ∀ t, firstSec ≤ t → z.localAt t = z₀.localAt t

lemma RunsLike.refl (z : Zone) : z.RunsLike z := fun _ _ => rfl

lemma Lawful.hasDay_iff (h : z.Lawful) {day : Int} :
    z.hasDay day = true ↔ ∃ t, z.localAt t = day * secsPerDay ∨
      z.localAt t = day * secsPerDay + (secsPerDay - 1) := by
  rw [hasDay, Bool.or_eq_true, Bool.not_eq_true', Bool.not_eq_true',
    List.isEmpty_eq_false_iff_exists_mem, List.isEmpty_eq_false_iff_exists_mem, ← exists_or]
  exact exists_congr fun t => or_congr (mem_instantsOf h.ordered) (mem_instantsOf h.ordered)

/-- Two clocks that run alike have the same days. -/
lemma RunsLike.hasDay_eq {z₀ : Zone} (hlike : z.RunsLike z₀) (h : z.Lawful) (h₀ : z₀.Lawful)
    {day : Int} (hday : firstDay ≤ day) : z.hasDay day = z₀.hasDay day := by
  rw [Bool.eq_iff_iff, h.hasDay_iff, h₀.hasDay_iff]
  refine exists_congr fun t => ?_
  by_cases hrecent : firstSec ≤ t
  · rw [hlike t hrecent]
  · -- before 2005 neither of them has come to that day
    have hbound := (h.localAt_bounds t).2
    have hbound₀ := (h₀.localAt_bounds t).2
    simp only [firstSec, firstDay, secsPerDay] at *
    exact iff_of_false (by omega) (by omega)

/-- **The skipped day**. Of the zones whose clocks run like one of the table, only those like one of
them have lacked a day of the calendar since 2005, and only one day. -/
theorem hasDay_eq_false_iff {z₀ : Zone} (hz : z.Lawful) (hknown : z₀ ∈ known)
    (hlike : z.RunsLike z₀) {day : Int} (hday : firstDay ≤ day) :
    z.hasDay day = false ↔ z₀ = pacificApia ∧ day = skippedDay := by
  rw [hlike.hasDay_eq hz (lawful_of_mem_known hknown) hday]
  exact hasDay_eq_false_iff_of_mem_known hknown

end JobDispatch.Zone
