import JobDispatch.Store.Tables
import Mathlib.Data.List.Nodup
import Mathlib.Tactic.Lemma

/-!
Queries about the queue.

* `leastBy_eq_none` and `mem_of_leastBy`: a query that picks one of some rows finds one of them
  unless there is none.
* `least_of_leastBy`: no row comes before the one that is picked.
* `perm_cons_others`: an entry and all others.
* `Tables.claim_cases` and `Tables.pendingOf_cases`: what a claim and a look at a job's next entry
  come to.
-/

namespace JobDispatch

/-! ### Picks -/

section Picks

variable {α : Type} {before : α → α → Bool}

lemma leastBy_eq_none {rows : List α} : leastBy before rows = none ↔ rows = [] := by
  cases rows with
  | nil => exact iff_of_true rfl rfl
  | cons a rest =>
      refine iff_of_false (fun h => ?_) (List.cons_ne_nil a rest)
      rw [leastBy] at h
      split at h
      · cases h
      · split at h <;> cases h

lemma mem_of_leastBy {rows : List α} {a : α} (h : leastBy before rows = some a) : a ∈ rows := by
  induction rows with
  | nil => cases h
  | cons b rest ih =>
      rw [leastBy] at h
      cases hrest : leastBy before rest with
      | none =>
          rw [hrest] at h
          exact Option.some.inj h ▸ List.mem_cons_self
      | some c =>
          rw [hrest] at h
          dsimp only at h
          by_cases hbefore : before c b = true
          · rw [if_pos hbefore] at h
            exact List.mem_cons_of_mem b (ih (hrest.trans h))
          · rw [if_neg hbefore] at h
            exact Option.some.inj h ▸ List.mem_cons_self

/-- No row comes before the one that is picked, in an order that tells which of two rows comes
before the other. -/
lemma least_of_leastBy {least : α → α → Prop} (hrefl : ∀ a, least a a)
    (htrans : ∀ {a b c}, least a b → least b c → least a c)
    (hbefore : ∀ {a b}, before a b = true → least a b)
    (hafter : ∀ {a b}, before a b = false → least b a) {rows : List α} {m : α}
    (h : leastBy before rows = some m) : ∀ a ∈ rows, least m a := by
  induction rows generalizing m with
  | nil => cases h
  | cons b rest ih =>
      rw [leastBy] at h
      cases hrest : leastBy before rest with
      | none =>
          rw [hrest] at h
          obtain rfl : b = m := Option.some.inj h
          rw [leastBy_eq_none.mp hrest]
          intro a ha
          rw [List.mem_singleton.mp ha]
          exact hrefl b
      | some c =>
          rw [hrest] at h
          dsimp only at h
          have hothers := ih hrest
          cases hfirst : before c b with
          | true =>
              rw [hfirst] at h
              obtain rfl : c = m := Option.some.inj h
              exact List.forall_mem_cons.mpr ⟨hbefore hfirst, hothers⟩
          | false =>
              rw [hfirst] at h
              obtain rfl : b = m := Option.some.inj h
              exact List.forall_mem_cons.mpr ⟨hrefl b, fun a ha =>
                htrans (hafter hfirst) (hothers a ha)⟩

end Picks

/-- One entry and the others, among entries with keys of their own. -/
lemma perm_cons_others {rows : List Entry} (hdistinct : (rows.map Entry.id).Nodup) {e : Entry}
    (he : e ∈ rows) : (e :: rows.filter fun b => b.id ≠ e.id).Perm rows := by
  have hnodup : rows.Nodup := .of_map _ hdistinct
  have hnew : e ∉ rows.filter fun b => b.id ≠ e.id := by simp
  refine (List.perm_ext_iff_of_nodup (List.nodup_cons.mpr ⟨hnew, hnodup.filter _⟩) hnodup).mpr ?_
  intro b
  rw [List.mem_cons, List.mem_filter, decide_eq_true_iff]
  constructor
  · rintro (rfl | ⟨hb, -⟩)
    · exact he
    · exact hb
  · intro hb
    by_cases hid : b.id = e.id
    · exact .inl (List.inj_on_of_nodup_map hdistinct hb he hid)
    · exact .inr ⟨hb, hid⟩

/-! ### Claims and pending entries -/

namespace Tables

variable (t : Tables) (d : Draw)

/-- The tables without the entry that has the given identifier. -/
def without (id : EntryId) : Tables := { t with queue := t.queue.filter fun e => e.id ≠ id }

lemma mem_due {now : Instant} {e : Entry} : e ∈ t.due now ↔ e ∈ t.queue ∧ e.Due now.stored := by
  rw [due, List.mem_filter, decide_eq_true_iff]

/-- A claim takes one of the due entries, unless there is none. -/
lemma claim_cases (now : Instant) :
    (t.claim d now = (none, t) ∧ t.due now = []) ∨
      ∃ e ∈ t.queue, e.Due now.stored ∧ t.claim d now = (some e, t.without e.id) := by
  rw [claim]
  cases h : leastBy (fun a b => decide (d.lot a.id < d.lot b.id)) (t.due now) with
  | none => exact .inl ⟨rfl, leastBy_eq_none.mp h⟩
  | some e =>
      obtain ⟨hmem, hdue⟩ := t.mem_due.mp (mem_of_leastBy h)
      exact .inr ⟨e, hmem, hdue, rfl⟩

/-- The next entry of a job is one of its entries, and it is found if there is one. -/
lemma pendingOf_cases (jobName : String) :
    (t.pendingOf jobName = none ∧ ∀ e ∈ t.queue, e.jobName ≠ jobName) ∨
      ∃ e ∈ t.queue, e.jobName = jobName ∧ t.pendingOf jobName = some e := by
  cases h : t.pendingOf jobName with
  | none =>
      refine .inl ⟨rfl, fun e he hname => ?_⟩
      have hmem : e ∈ t.queue.filter fun e => e.jobName == jobName :=
        List.mem_filter.mpr ⟨he, by rw [hname]; exact beq_self_eq_true jobName⟩
      rw [leastBy_eq_none.mp h] at hmem
      cases hmem
  | some e =>
      obtain ⟨hmem, hname⟩ := List.mem_filter.mp (mem_of_leastBy h)
      exact .inr ⟨e, hmem, eq_of_beq hname, rfl⟩

end Tables

end JobDispatch
