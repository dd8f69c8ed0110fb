import JobDispatch.Time.Instant
import Mathlib.Tactic.Lemma

/-!
How the order of instants, their plain count and what a table keeps of them go together.

* `Instant.stored_le_stored`: what a table keeps of a later instant is not earlier.
* `Instant.stored_ofSecs`: a table keeps a whole second as it is.
-/

namespace JobDispatch.Instant

lemma le_refl (a : Instant) : a ≤ a := .inr ⟨rfl, Nat.le_refl _⟩

lemma le_trans {a b c : Instant} (hab : a ≤ b) (hbc : b ≤ c) : a ≤ c := by
  rw [le_def] at *
  omega

lemma le_of_not_lt {a b : Instant} (h : ¬ a < b) : b ≤ a := by
  rw [lt_def] at h
  rw [le_def]
  omega

lemma le_total (a b : Instant) : a ≤ b ∨ b ≤ a := by
  rw [le_def, le_def]
  omega

lemma le_of_lt {a b : Instant} (h : a < b) : a ≤ b := by
  rw [lt_def] at h
  rw [le_def]
  omega

lemma not_lt_of_le {a b : Instant} (h : a ≤ b) : ¬ b < a := by
  rw [le_def] at h
  rw [lt_def]
  omega

lemma le_antisymm {a b : Instant} (h : a ≤ b) (h' : b ≤ a) : a = b := by
  obtain ⟨secs, nanos⟩ := a
  obtain ⟨secs', nanos'⟩ := b
  rw [le_def] at h h'
  rw [Instant.mk.injEq]
  dsimp only at h h'
  omega

/-- Whole seconds are ordered as they are counted. -/
lemma ofSecs_lt_ofSecs {a b : Int} : ofSecs a < ofSecs b ↔ a < b := by
  show a < b ∨ a = b ∧ 0 < 0 ↔ a < b
  omega

lemma ofSecs_le_ofSecs {a b : Int} : ofSecs a ≤ ofSecs b ↔ a ≤ b := by
  show a < b ∨ a = b ∧ 0 ≤ 0 ↔ a ≤ b
  omega

/-- The whole seconds after an instant are those from the next one on. -/
lemma succ_le_of_lt_ofSecs (t : Instant) {u : Int} (h : t < ofSecs u) : t.secs + 1 ≤ u := by
  have hlt : t.secs < u ∨ t.secs = u ∧ t.nanos < 0 := h
  omega

/-- A table keeps the order of instants. -/
lemma stored_le_stored {a b : Instant} (h : a.toNanos ≤ b.toNanos) :
    a.stored.toNanos ≤ b.stored.toNanos := by
  rw [toNanos_stored, toNanos_stored]
  have hquot : (a.toNanos - tableOrigin).tdiv 1000 ≤ (b.toNanos - tableOrigin).tdiv 1000 :=
    Int.tdiv_le_tdiv (by decide) (by omega)
  omega

/-- A table keeps a whole second as it is. -/
@[simp] lemma stored_ofSecs (secs : Int) : (ofSecs secs).stored = ofSecs secs := by
  have hcount : (ofSecs secs).toNanos - tableOrigin =
      (secs * 1000000 - 946684800000000) * 1000 := by
    simp only [ofSecs, toNanos, tableOrigin, nanosPerSec]
    omega
  rw [stored, hcount, Int.mul_tdiv_cancel _ (by decide)]
  simp only [ofSecs, ofNanos, tableOrigin, nanosPerSec, Instant.mk.injEq]
  omega

/-- Instants that a table has kept are ordered as their plain counts are. -/
lemma stored_le_iff (a b : Instant) : a.stored ≤ b.stored ↔ a.stored.toNanos ≤ b.stored.toNanos :=
  le_iff_toNanos _ _ (nanos_ofNanos_lt _) (nanos_ofNanos_lt _)

lemma stored_lt_iff (a b : Instant) : a.stored < b.stored ↔ a.stored.toNanos < b.stored.toNanos :=
  lt_iff_toNanos _ _ (nanos_ofNanos_lt _) (nanos_ofNanos_lt _)

/-- From 2000 on, and outside a leap second, a table keeps no more of an instant than there is: the
instants that it has kept come before what it keeps of one exactly if they come before that one. -/
lemma le_stored_iff {t now : Instant} (ht : t.stored = t) (hnow : tableOrigin ≤ now.toNanos)
    (hplain : now.nanos < nanosPerSec) : t ≤ now.stored ↔ t ≤ now := by
  have hwhole : t.nanos < nanosPerSec := ht ▸ nanos_ofNanos_lt _
  have hcut : now.stored.toNanos ≤ now.toNanos := by
    rw [toNanos_stored, Int.tdiv_eq_ediv_of_nonneg (by omega)]
    omega
  rw [le_iff_toNanos t now.stored hwhole (nanos_ofNanos_lt _), le_iff_toNanos t now hwhole hplain]
  constructor
  · exact fun h => Int.le_trans h hcut
  · exact fun h => Int.le_trans (Int.le_of_eq (congrArg toNanos ht.symm)) (stored_le_stored h)

/-- What is no further away than some length of time comes no later than after that time. -/
lemma le_advance_of_since_le {t now : Instant} {span : Span} (h : t.since now ≤ span) :
    t ≤ now.advance span := by
  have hlater : (now.advance span).nanos < nanosPerSec := nanos_ofNanos_lt _
  have hcount : (now.advance span).toNanos = now.toNanos + span := toNanos_ofNanos _
  have hspan : t.toNanos - now.toNanos ≤ span := h
  have hle : t.toNanos ≤ (now.advance span).toNanos := by omega
  rw [le_def]
  simp only [toNanos, nanosPerSec] at hle hlater
  omega

/-- Outside a leap second, what is further away comes later. -/
lemma advance_lt_of_lt_since {t now : Instant} {span : Span} (hplain : t.nanos < nanosPerSec)
    (h : span < t.since now) : now.advance span < t := by
  have hlater : (now.advance span).nanos < nanosPerSec := nanos_ofNanos_lt _
  have hcount : (now.advance span).toNanos = now.toNanos + span := toNanos_ofNanos _
  have hspan : ¬ t.toNanos - now.toNanos ≤ span := Int.not_le.mpr h
  rw [lt_iff_toNanos _ _ hlater hplain, hcount]
  omega

end JobDispatch.Instant
