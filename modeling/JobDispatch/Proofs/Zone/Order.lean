import JobDispatch.Zone.Table
import Mathlib.Data.List.Chain
import Mathlib.Data.List.Nodup
import Mathlib.Tactic.Lemma

/-!
How local clocks run.

Local clocks jump at the changes of a zone, forwards or backwards. As long as they never jump back
behind an earlier change, a local time that a clock shows at one instant only is later than all
that it showed before; and as long as each change finds them as far as those before, it is earlier
than all that they show afterwards.

* `Zone.Ascending`: changes come in ascending order, both in UTC and on the local clock.
* `Zone.Lawful`: the changes of a zone come in this order, each finds the clock as far as those
  before, and the clock is always less than a day off UTC.
* `Zone.Lawful.localAt_lt`: a local time that is shown once is later than all before it.
* `Zone.Lawful.le_of_localAt_le`: a clock that shows no later time than one that occurs once has
  not gone past that one.
* `Zone.Lawful.instantsOf_eq` and `Zone.Lawful.of_instantsOf_eq`: exactly for such a local time
  one instant is found.
* `Zone.lawful_of_mem_known`: the zones of the table are lawful.
-/

namespace JobDispatch.Zone

/-! ### Changes -/

/-- Changes come in ascending order, both in UTC and on the local clock that they set. -/
def Ascending (changes : List (Int × Int)) : Prop :=
  changes.Pairwise fun c d => c.1 < d.1 ∧ c.1 + c.2 ≤ d.1 + d.2

/-- After a change a clock does not go back behind the time at which the change took effect. -/
lemma le_local {start next : Int} {later : List (Int × Int)}
    (hasc : Ascending ((start, next) :: later)) {t : Int} (ht : start * secsPerMinute ≤ t) :
    (start + next) * secsPerMinute ≤ t + offsetFrom next later t * secsPerMinute := by
  induction later generalizing start next with
  | nil =>
      rw [offsetFrom]
      simp only [secsPerMinute] at *
      omega
  | cons change rest ih =>
      obtain ⟨hfirst, hrest⟩ := List.pairwise_cons.mp hasc
      rw [offsetFrom]
      by_cases hchange : change.1 * secsPerMinute ≤ t
      · rw [if_pos hchange]
        have hle := (hfirst change List.mem_cons_self).2
        have hshown := ih hrest hchange
        simp only [secsPerMinute] at *
        omega
      · rw [if_neg hchange]
        simp only [secsPerMinute] at *
        omega

/-- There is a time before all changes, as early as one likes. -/
lemma Ascending.exists_before {changes : List (Int × Int)} (hasc : Ascending changes)
    (offset bound : Int) :
    ∃ since ≤ bound, ∀ c ∈ changes, since < c.1 ∧ since + offset ≤ c.1 + c.2 := by
  cases changes with
  | nil => exact ⟨bound, Int.le_refl _, nofun⟩
  | cons change rest =>
      obtain ⟨hfirst, -⟩ := List.pairwise_cons.mp hasc
      refine ⟨min bound (min (change.1 - 1) (change.1 + change.2 - offset)), by omega, ?_⟩
      intro c hc
      rcases List.mem_cons.mp hc with rfl | hc
      · omega
      · have hlater := hfirst c hc
        omega

/-- What a clock shows after it has shown a later time, it has shown before. -/
lemma exists_earlier {changes : List (Int × Int)} (hasc : Ascending changes) {since offset : Int}
    (hsince : ∀ c ∈ changes, since < c.1 ∧ since + offset ≤ c.1 + c.2) {s u : Int}
    (hs : since * secsPerMinute ≤ s) (hlt : s < u)
    (hle : u + offsetFrom offset changes u * secsPerMinute ≤
      s + offsetFrom offset changes s * secsPerMinute) :
    ∃ v, v < u ∧ since * secsPerMinute ≤ v ∧
      v + offsetFrom offset changes v * secsPerMinute =
        u + offsetFrom offset changes u * secsPerMinute := by
  induction changes generalizing since offset with
  | nil =>
      rw [offsetFrom] at hle
      rw [offsetFrom] at hle
      omega
  | cons change rest ih =>
      obtain ⟨start, next⟩ := change
      obtain ⟨hfirst, hrest⟩ := List.pairwise_cons.mp hasc
      have hstart := hsince _ List.mem_cons_self
      by_cases hbefore : start * secsPerMinute ≤ s
      · have hafter : start * secsPerMinute ≤ u := by omega
        simp only [offsetFrom, if_pos hbefore, if_pos hafter] at hle ⊢
        obtain ⟨v, hv, hlow, heq⟩ := ih hrest hfirst hbefore hle
        refine ⟨v, hv, ?_, ?_⟩
        · simp only [secsPerMinute] at *
          omega
        · rw [if_pos hlow, heq]
      · by_cases hafter : start * secsPerMinute ≤ u
        · simp only [offsetFrom, if_neg hbefore, if_pos hafter] at hle ⊢
          have hshown := le_local hasc hafter
          simp only [secsPerMinute] at *
          -- the change set the clock back, so the offset before it shows the same time earlier
          refine ⟨u + offsetFrom next rest u * 60 - offset * 60, by omega, by omega, ?_⟩
          rw [if_neg (by omega)]
          omega
        · simp only [offsetFrom, if_neg hbefore, if_neg hafter] at hle
          omega

/-- From one second to the next a clock goes on or comes to a change. -/
lemma offsetFrom_succ {changes : List (Int × Int)} (hasc : Ascending changes) (offset t : Int) :
    offsetFrom offset changes (t + 1) = offsetFrom offset changes t ∨
      ∃ c ∈ changes, (c.1 + c.2) * secsPerMinute ≤
        t + 1 + offsetFrom offset changes (t + 1) * secsPerMinute := by
  induction changes generalizing offset with
  | nil => exact .inl rfl
  | cons change rest ih =>
      obtain ⟨start, next⟩ := change
      by_cases hbefore : start * secsPerMinute ≤ t
      · have hafter : start * secsPerMinute ≤ t + 1 := by omega
        simp only [offsetFrom, if_pos hbefore, if_pos hafter]
        obtain hsame | ⟨c, hc, hle⟩ := ih (List.pairwise_cons.mp hasc).2 next
        · exact .inl hsame
        · exact .inr ⟨c, List.mem_cons_of_mem _ hc, hle⟩
      · by_cases hafter : start * secsPerMinute ≤ t + 1
        · simp only [offsetFrom, if_pos hafter]
          exact .inr ⟨(start, next), List.mem_cons_self, le_local hasc hafter⟩
        · simp only [offsetFrom, if_neg hbefore, if_neg hafter]
          exact .inl trivial

/-! ### Zones -/

/-- The local minutes at which a clock comes to each change. -/
def arrivalsFrom (offset : Int) : List (Int × Int) → List Int
  | [] => []
  | (start, next) :: later => (start + offset) :: arrivalsFrom next later

/-- The changes of the zone come in ascending order, both in UTC and on the local clock. Each finds
the clock at least as far as those before it. The clock is always less than a day off UTC. -/
structure Lawful (z : Zone) : Prop where
  ascending : Ascending z.changes
  arrivals : (arrivalsFrom z.oldest z.changes).Pairwise (· ≤ ·)
  oldest : -1440 < z.oldest ∧ z.oldest < 1440
  offsets : ∀ c ∈ z.changes, -1440 < c.2 ∧ c.2 < 1440

/-- The local time occurs once. -/
def Once (z : Zone) (u : Int) : Prop := ∀ v, z.localAt v = z.localAt u → v = u

variable {z : Zone}

lemma Lawful.ordered (h : z.Lawful) : z.Ordered :=
  List.pairwise_map.mpr (h.ascending.imp And.left)

/-- A local time that occurs once is later than all before it. -/
lemma Lawful.localAt_lt (h : z.Lawful) {s u : Int} (hlt : s < u) (hu : z.Once u) :
    z.localAt s < z.localAt u := by
  by_cases hle : z.localAt u ≤ z.localAt s
  · obtain ⟨since, hs, hsince⟩ := h.ascending.exists_before z.oldest (s / 60)
    have hbefore : since * secsPerMinute ≤ s := by
      simp only [secsPerMinute]
      omega
    obtain ⟨v, hv, -, heq⟩ := exists_earlier h.ascending hsince hbefore hlt hle
    exact absurd (hu v heq) (by omega)
  · omega

lemma Lawful.localAt_le (h : z.Lawful) {s u : Int} (hle : s ≤ u) (hu : z.Once u) :
    z.localAt s ≤ z.localAt u := by
  by_cases heq : s = u
  · exact Int.le_of_eq (congrArg z.localAt heq)
  · exact Int.le_of_lt (h.localAt_lt (by omega) hu)

/-- No instant is found twice. -/
lemma nodup_instantsFrom {changes : List (Int × Int)} (hasc : Ascending changes)
    (since : Option Int) (offset shown : Int) :
    (instantsFrom since offset shown changes).Nodup := by
  induction changes generalizing since offset with
  | nil =>
      rw [instantsFrom]
      split
      · exact List.nodup_singleton _
      · exact List.nodup_nil
  | cons change rest ih =>
      obtain ⟨start, next⟩ := change
      obtain ⟨hfirst, hrest⟩ := List.pairwise_cons.mp hasc
      have hnodup := ih hrest (some (start * secsPerMinute)) next
      have hlater {t : Int}
          (ht : t ∈ instantsFrom (some (start * secsPerMinute)) next shown rest) :
          start * secsPerMinute ≤ t := by
        have hordered : (rest.map Prod.fst).Pairwise (· < ·) :=
          List.pairwise_map.mpr (hrest.imp And.left)
        refine ((mem_instantsFrom hordered _ _ ?_).mp ht).1 _ rfl
        intro s hs c hc
        have hlt := (hfirst c hc).1
        cases hs
        simp only [secsPerMinute] at *
        omega
      rw [instantsFrom]
      split
      · next hfound =>
          refine List.nodup_cons.mpr ⟨fun hmem => ?_, hnodup⟩
          have hbefore := of_decide_eq_true (Bool.and_eq_true_iff.mp hfound).2
          exact absurd (hlater hmem) (Int.not_le.mpr hbefore)
      · exact hnodup

/-- For a local time that occurs once its instant is found, and nothing else. -/
lemma Lawful.instantsOf_eq (h : z.Lawful) {u : Int} (hu : z.Once u) :
    z.instantsOf (z.localAt u) = [u] := by
  have hnodup : (z.instantsOf (z.localAt u)).Nodup := nodup_instantsFrom h.ascending _ _ _
  have hmem : u ∈ z.instantsOf (z.localAt u) := (mem_instantsOf h.ordered).mpr rfl
  have hall : ∀ v ∈ z.instantsOf (z.localAt u), v = u := fun v hv =>
    hu v ((mem_instantsOf h.ordered).mp hv)
  exact List.perm_singleton.mp ((List.perm_ext_iff_of_nodup hnodup (List.nodup_singleton u)).mpr
    fun v => ⟨fun hv => List.mem_singleton.mpr (hall v hv),
      fun hv => List.mem_singleton.mp hv ▸ hmem⟩)

/-- If one instant is found for a local time, it shows that time, and it alone. -/
lemma Lawful.of_instantsOf_eq (h : z.Lawful) {shown u : Int} (hu : z.instantsOf shown = [u]) :
    z.localAt u = shown ∧ z.Once u := by
  have hshown : z.localAt u = shown :=
    (mem_instantsOf h.ordered).mp (hu ▸ List.mem_singleton_self u)
  refine ⟨hshown, fun v hv => ?_⟩
  have hmem := (mem_instantsOf h.ordered).mpr (hv.trans hshown)
  rw [hu] at hmem
  exact List.mem_singleton.mp hmem

/-- The offset in force is the first one or that of a change. -/
lemma offsetFrom_mem (offset t : Int) (changes : List (Int × Int)) :
    offsetFrom offset changes t = offset ∨ ∃ c ∈ changes, offsetFrom offset changes t = c.2 := by
  induction changes generalizing offset with
  | nil => exact .inl rfl
  | cons change later ih =>
      obtain ⟨start, next⟩ := change
      rw [offsetFrom]
      split
      · obtain hsame | ⟨c, hc, heq⟩ := ih next
        · exact .inr ⟨_, List.mem_cons_self, hsame⟩
        · exact .inr ⟨c, List.mem_cons_of_mem _ hc, heq⟩
      · exact .inl rfl

/-- A clock is less than a day off UTC. -/
lemma Lawful.localAt_bounds (h : z.Lawful) (t : Int) :
    t - secsPerDay < z.localAt t ∧ z.localAt t < t + secsPerDay := by
  have hoffset : -1440 < z.offsetAt t ∧ z.offsetAt t < 1440 := by
    rw [offsetAt]
    obtain hsame | ⟨c, hc, heq⟩ := offsetFrom_mem z.oldest t z.changes
    · rw [hsame]
      exact h.oldest
    · rw [heq]
      exact h.offsets c hc
  rw [localAt]
  simp only [secsPerMinute, secsPerDay]
  omega

/-! ### What a clock shows again -/

/-- Before the next change comes, a clock shows all that lies between what it shows and its next
arrival. -/
lemma exists_from {changes : List (Int × Int)} {offset s shown : Int}
    (hle : s + offsetFrom offset changes s * secsPerMinute ≤ shown)
    (hlt : ∀ a ∈ arrivalsFrom offset changes, shown < a * secsPerMinute) :
    ∃ v, s ≤ v ∧ v + offsetFrom offset changes v * secsPerMinute = shown := by
  induction changes generalizing offset with
  | nil =>
      rw [offsetFrom] at hle
      refine ⟨shown - offset * secsPerMinute, by omega, ?_⟩
      rw [offsetFrom]
      omega
  | cons change rest ih =>
      obtain ⟨start, next⟩ := change
      obtain ⟨hfirst, hrest⟩ := List.forall_mem_cons.mp hlt
      by_cases hafter : start * secsPerMinute ≤ s
      · rw [offsetFrom, if_pos hafter] at hle
        obtain ⟨v, hv, heq⟩ := ih hle hrest
        refine ⟨v, hv, ?_⟩
        rw [offsetFrom, if_pos (by omega), heq]
      · rw [offsetFrom, if_neg hafter] at hle
        have hbefore : shown - offset * secsPerMinute < start * secsPerMinute := by
          simp only [secsPerMinute] at *
          omega
        refine ⟨shown - offset * secsPerMinute, by omega, ?_⟩
        rw [offsetFrom, if_neg (Int.not_le.mpr hbefore)]
        omega

/-- What a clock has shown before it shows an earlier time, it shows again. -/
lemma exists_again {changes : List (Int × Int)} {offset t s : Int}
    (harrive : (arrivalsFrom offset changes).Pairwise (· ≤ ·)) (hlt : t < s)
    (hle : s + offsetFrom offset changes s * secsPerMinute ≤
      t + offsetFrom offset changes t * secsPerMinute) :
    ∃ v, t < v ∧ v + offsetFrom offset changes v * secsPerMinute =
      t + offsetFrom offset changes t * secsPerMinute := by
  induction changes generalizing offset with
  | nil =>
      rw [offsetFrom, offsetFrom] at hle
      omega
  | cons change rest ih =>
      obtain ⟨start, next⟩ := change
      obtain ⟨hfirst, hrest⟩ := List.pairwise_cons.mp harrive
      by_cases hbefore : start * secsPerMinute ≤ t
      · have hafter : start * secsPerMinute ≤ s := by omega
        simp only [offsetFrom, if_pos hbefore, if_pos hafter] at hle ⊢
        obtain ⟨v, hv, heq⟩ := ih hrest hle
        refine ⟨v, hv, ?_⟩
        rw [if_pos (by omega), heq]
      · by_cases hafter : start * secsPerMinute ≤ s
        · simp only [offsetFrom, if_neg hbefore, if_pos hafter] at hle ⊢
          -- before the change the clock has not gone past any later arrival
          obtain ⟨v, hv, heq⟩ := exists_from hle fun a ha => by
            have hcome := hfirst a ha
            simp only [secsPerMinute] at *
            omega
          refine ⟨v, by omega, ?_⟩
          rw [if_pos (by omega), heq]
        · simp only [offsetFrom, if_neg hbefore, if_neg hafter] at hle
          omega

/-- Where a clock shows no later time than one that occurs once, it has not gone past that one. -/
lemma Lawful.le_of_localAt_le (h : z.Lawful) {s t : Int} (ht : z.Once t)
    (hle : z.localAt s ≤ z.localAt t) : s ≤ t := by
  by_cases hlt : t < s
  · obtain ⟨v, hv, heq⟩ := exists_again h.arrivals hlt hle
    exact absurd (ht v heq) (by omega)
  · omega

/-! ### The table -/

/-- The zones of the table are lawful. -/
theorem lawful_of_mem_known (hz : z ∈ known) : z.Lawful := by
  have hall : ∀ z ∈ known, (z.changes.map Prod.fst).IsChain (· < ·) ∧
      (z.changes.map fun c => c.1 + c.2).IsChain (· ≤ ·) ∧
      (arrivalsFrom z.oldest z.changes).IsChain (· ≤ ·) ∧
      (-1440 < z.oldest ∧ z.oldest < 1440) ∧ ∀ c ∈ z.changes, -1440 < c.2 ∧ c.2 < 1440 := by
    decide +kernel
  obtain ⟨hordered, hascending, harrivals, holdest, hoffsets⟩ := hall z hz
  refine ⟨List.Pairwise.and ?_ ?_, List.isChain_iff_pairwise.mp harrivals, holdest, hoffsets⟩
  · exact List.pairwise_map.mp (List.isChain_iff_pairwise.mp hordered)
  · exact List.pairwise_map.mp (List.isChain_iff_pairwise.mp hascending)

/-- In the zones of the table a clock that has come to 1970 stays after that. -/
lemma localAt_succ_nonneg_of_mem_known (hz : z ∈ known) {t : Int} (ht : 0 ≤ z.localAt t) :
    0 ≤ z.localAt (t + 1) := by
  have hall : ∀ z ∈ known, ∀ c ∈ z.changes, 0 ≤ c.1 + c.2 := by decide +kernel
  rw [localAt, offsetAt] at ht ⊢
  obtain hsame | ⟨c, hc, hle⟩ := offsetFrom_succ (lawful_of_mem_known hz).ascending z.oldest t
  · rw [hsame]
    omega
  · have hlate := hall z hz c hc
    simp only [secsPerMinute] at *
    omega

end JobDispatch.Zone
