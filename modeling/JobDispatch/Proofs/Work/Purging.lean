import JobDispatch.Proofs.Script.Sent
import JobDispatch.Proofs.Work.Results
import JobDispatch.Work.Purge

/-!
What deleting in batches comes to.

Each statement takes as many old results as a batch holds, whichever these are. The rows from the
cutoff on are never touched, and the number of old rows that are left tells how far the loop is.

* `Tables.Purged`: some old rows are gone, and nothing else has changed.
* `Tables.purged_deleteResults`: what one statement does.
* `Purge.Purges`: all old rows are deleted by one statement more than there are full batches, or a
  statement fails and leaves the rest of them.
* `Purge.purges_old_results`: this is what a run comes to, of the loop and of the job.
-/

namespace JobDispatch

namespace Tables

variable {t t' t'' : Tables} {cutoff : Instant} {m n : ℕ}

/-- The results from the cutoff on. -/
def young (t : Tables) (cutoff : Instant) : List ResultRow :=
  t.results.filter fun r => ¬ r.executedAt < cutoff.stored

/-- The tables without the results from before the cutoff. -/
def withoutOlder (t : Tables) (cutoff : Instant) : Tables := { t with results := t.young cutoff }

/-- So many results from before the cutoff are gone, and nothing else has changed. -/
structure Purged (cutoff : Instant) (n : ℕ) (t t' : Tables) : Prop where
  queue : t'.queue = t.queue
  lease : t'.lease = t.lease
  rows : t'.results.Sublist t.results
  young : t'.young cutoff = t.young cutoff
  older : (t'.older cutoff).length + n = (t.older cutoff).length

namespace Purged

lemma refl (cutoff : Instant) (t : Tables) : Purged cutoff 0 t t :=
  ⟨rfl, rfl, .refl _, rfl, rfl⟩

lemma trans (h : Purged cutoff m t t') (h' : Purged cutoff n t' t'') :
    Purged cutoff (m + n) t t'' where
  queue := h'.queue.trans h.queue
  lease := h'.lease.trans h.lease
  rows := h'.rows.trans h.rows
  young := h'.young.trans h.young
  older := by
    have h₁ := h.older
    have h₂ := h'.older
    omega

lemma distinct (h : Purged cutoff n t t') (hdistinct : t.kept.Nodup) : t'.kept.Nodup :=
  hdistinct.sublist (h.rows.map _)

/-- Once all old rows are gone, the young ones are what is left. -/
lemma eq_withoutOlder (h : Purged cutoff n t t') (hall : (t.older cutoff).length ≤ n) :
    t' = t.withoutOlder cutoff := by
  have hnone : t'.older cutoff = [] := by
    have hcount := h.older
    exact List.eq_nil_of_length_eq_zero (by omega)
  have hyoung : t'.results = t'.young cutoff := by
    rw [Tables.older, List.filter_eq_nil_iff] at hnone
    exact (List.filter_eq_self.mpr fun r hr => by simpa using hnone r hr).symm
  obtain ⟨queue, results, lease⟩ := t'
  rw [withoutOlder, Tables.mk.injEq]
  exact ⟨h.queue, hyoung.trans h.young, h.lease⟩

end Purged

/-! ### One statement -/

/-- Of rows with keys of their own, those whose key is not among the first ones are the others. -/
lemma filter_id_not_mem {front back : List ResultRow}
    (hdistinct : ((front ++ back).map ResultRow.id).Nodup) :
    ((front ++ back).filter fun r => r.id ∉ front.map ResultRow.id) = back := by
  rw [List.map_append, List.nodup_append] at hdistinct
  obtain ⟨-, -, hdisjoint⟩ := hdistinct
  have hfront : (front.filter fun r => r.id ∉ front.map ResultRow.id) = [] := by
    rw [List.filter_eq_nil_iff]
    intro r hr
    simpa using List.mem_map_of_mem (f := ResultRow.id) hr
  have hback : (back.filter fun r => r.id ∉ front.map ResultRow.id) = back := by
    rw [List.filter_eq_self]
    intro r hr
    exact decide_eq_true fun hmem => hdisjoint _ hmem _ (List.mem_map_of_mem hr) rfl
  rw [List.filter_append, hfront, hback, List.nil_append]

/-- The rows that a deletion takes. -/
def chosen (t : Tables) (d : Draw) (cutoff : Instant) (b : ℕ) : List ResultRow :=
  (sortedByLot (fun r : ResultRow => d.lot r.id) (t.older cutoff)).take b

lemma results_of_deleteResults (d : Draw) (cutoff : Instant) (b : ℕ) :
    (t.deleteResults d cutoff b).2.results =
      t.results.filter fun r => r.id ∉ (t.chosen d cutoff b).map ResultRow.id := rfl

lemma young_deleteResults (hdistinct : t.kept.Nodup) (d : Draw) (cutoff : Instant) (b : ℕ) :
    (t.deleteResults d cutoff b).2.young cutoff = t.young cutoff := by
  rw [young, young, results_of_deleteResults, List.filter_filter]
  refine List.filter_congr fun r hr => ?_
  rw [Bool.and_eq_left_iff_imp]
  intro hyoung
  refine decide_eq_true fun hmem => ?_
  obtain ⟨old, hchosen, hid⟩ := List.mem_map.mp hmem
  obtain ⟨hin, hold⟩ := List.mem_filter.mp (List.mem_mergeSort.mp (List.mem_of_mem_take hchosen))
  rw [eq_of_kept hdistinct hin hr hid] at hold
  exact of_decide_eq_true hyoung (of_decide_eq_true hold)

lemma length_older_deleteResults (hdistinct : t.kept.Nodup) (d : Draw) (cutoff : Instant) (b : ℕ) :
    ((t.deleteResults d cutoff b).2.older cutoff).length = (t.older cutoff).length - b := by
  set sorted := sortedByLot (fun r : ResultRow => d.lot r.id) (t.older cutoff)
  have hperm : (sorted.take b ++ sorted.drop b).Perm (t.older cutoff) := by
    rw [List.take_append_drop]
    exact List.mergeSort_perm _ _
  have hkeys : ((sorted.take b ++ sorted.drop b).map ResultRow.id).Nodup := by
    rw [(hperm.map _).nodup_iff]
    exact hdistinct.sublist (List.filter_sublist.map _)
  have holder : (t.deleteResults d cutoff b).2.older cutoff =
      (t.older cutoff).filter fun r => r.id ∉ (sorted.take b).map ResultRow.id := by
    rw [older, results_of_deleteResults, List.filter_filter, older, List.filter_filter]
    exact List.filter_congr fun r _ => Bool.and_comm _ _
  rw [holder, (hperm.symm.filter _).length_eq, filter_id_not_mem hkeys, List.length_drop,
    ← hperm.length_eq, List.take_append_drop]

/-- A deletion takes a full batch of old rows, or all of them if there are fewer. -/
lemma purged_deleteResults (hdistinct : t.kept.Nodup) (d : Draw) (cutoff : Instant) (b : ℕ) :
    (t.deleteResults d cutoff b).1 = min b (t.older cutoff).length ∧
      Purged cutoff (min b (t.older cutoff).length) t (t.deleteResults d cutoff b).2 := by
  have htaken : (t.deleteResults d cutoff b).1 = min b (t.older cutoff).length := by
    rw [deleteResults, sortedByLot, List.length_map, List.length_take, List.length_mergeSort]
    rfl
  refine ⟨htaken, rfl, rfl, List.filter_sublist, young_deleteResults hdistinct d cutoff b, ?_⟩
  rw [length_older_deleteResults hdistinct]
  omega

lemma apply_deleteResults (t : Tables) (d : Draw) (cutoff : Instant) (b : ℕ) :
    t.apply d (.deleteResults cutoff b) = .ok (t.deleteResults d cutoff b) := by
  rw [apply, Query.refusal?, limitRefusal?, if_neg (Int.not_lt.mpr (Int.natCast_nonneg b))]
  rfl

end Tables

/-! ### The loop -/

namespace Purge

variable {cutoff : Instant} {b : ℕ}

/-- The statement that deletes a batch. -/
def deletion (cutoff : Instant) (b : ℕ) : Statement := .query (.deleteResults cutoff b)

/-- All old rows are deleted, by one statement more than there are full batches of them. -/
structure Completes (cutoff : Instant) (b : ℕ) (st st' : Store) (sent : List Statement) : Prop where
  tables : st'.tables = st.tables.withoutOlder cutoff
  sent : sent = List.replicate ((st.tables.older cutoff).length / b + 1) (deletion cutoff b)

/-- A statement fails with the error `fault`, after some full batches have been deleted. -/
structure Breaks (cutoff : Instant) (b : ℕ) (fault : StoreError) (st st' : Store)
    (sent : List Statement) : Prop where
  faults : st.faults ≠ []
  fails : ∃ before : Store, before.perform (deletion cutoff b) = (.error fault, st')
  batches : ∃ full ≤ (st.tables.older cutoff).length / b,
    st.tables.Purged cutoff (full * b) st'.tables ∧
      sent = List.replicate (full + 1) (deletion cutoff b)

/-- What deleting in batches comes to: the number of old rows, all of which are deleted, or the
error of a statement that fails. -/
def Purges (cutoff : Instant) (b : ℕ) (st : Store) (outcome : Except StoreError ℕ) (st' : Store)
    (sent : List Statement) : Prop :=
  (outcome = .ok (st.tables.older cutoff).length ∧ Completes cutoff b st st' sent) ∨
    ∃ fault, outcome = .error fault ∧ Breaks cutoff b fault st st' sent

/-- A statement fails, struck by a fault, or it deletes a batch. -/
lemma perform_deletion (st : Store) (cutoff : Instant) (b : ℕ) :
    (∃ fault faults, st.faults ≠ [] ∧
      st.perform (deletion cutoff b) = (.error fault, st.counted faults)) ∨
    ∃ faults d, (st.faults = [] → faults = []) ∧ st.perform (deletion cutoff b) =
      (.ok (st.tables.deleteResults d cutoff b).1,
        { st.counted faults with tables := (st.tables.deleteResults d cutoff b).2 }) := by
  obtain ⟨faults, hfaults, h | ⟨hne, -, fault, h⟩⟩ := st.perform_cases (deletion cutoff b)
  · refine .inr ⟨faults, (st.counted faults).draw, hfaults, ?_⟩
    rw [h]
    show (st.counted faults).execute (.query (.deleteResults cutoff b)) = _
    rw [Store.execute, Tables.apply_deleteResults]
    rfl
  · exact .inl ⟨fault, faults, hne, h⟩

variable {st st₁ st' : Store} {sent : List Statement}

/-- Fewer old rows than a batch holds are gone after one statement. -/
lemma completes_short (hshort : (st.tables.older cutoff).length < b)
    (hpurged : st.tables.Purged cutoff (st.tables.older cutoff).length st'.tables) :
    Completes cutoff b st st' [deletion cutoff b] where
  tables := hpurged.eq_withoutOlder (Nat.le_refl _)
  sent := by rw [Nat.div_eq_of_lt hshort]; rfl

/-- The first statement fails. -/
lemma breaks_at_once {fault : StoreError} {faults : List Fault} (hne : st.faults ≠ [])
    (hperform : st.perform (deletion cutoff b) = (.error fault, st.counted faults)) :
    Breaks cutoff b fault st (st.counted faults) [deletion cutoff b] where
  faults := hne
  fails := ⟨st, hperform⟩
  batches := ⟨0, Nat.zero_le _, by rw [Nat.zero_mul]; exact .refl _ _, rfl⟩

/-- A full batch is deleted, before what the rest of the loop comes to. -/
lemma Completes.after (h : Completes cutoff b st₁ st' sent) (hb : 1 ≤ b)
    (hbatch : st.tables.Purged cutoff b st₁.tables) :
    Completes cutoff b st st' (deletion cutoff b :: sent) where
  tables := by
    rw [h.tables, Tables.withoutOlder, Tables.withoutOlder, hbatch.young, Tables.mk.injEq]
    exact ⟨hbatch.queue, rfl, hbatch.lease⟩
  sent := by rw [h.sent, ← hbatch.older, Nat.add_div_right _ hb]; rfl

lemma Breaks.after {fault : StoreError} (h : Breaks cutoff b fault st₁ st' sent) (hb : 1 ≤ b)
    (hfaults : st.faults = [] → st₁.faults = [])
    (hbatch : st.tables.Purged cutoff b st₁.tables) :
    Breaks cutoff b fault st st' (deletion cutoff b :: sent) := by
  obtain ⟨full, hfull, hpurged, rfl⟩ := h.batches
  refine ⟨mt hfaults h.faults, h.fails, full + 1, ?_, ?_, rfl⟩
  · rw [← hbatch.older, Nat.add_div_right _ hb]
    exact Nat.succ_le_succ hfull
  · rw [Nat.succ_mul, Nat.add_comm]
    exact hbatch.trans hpurged

lemma Purges.after {outcome : Except StoreError ℕ} (h : Purges cutoff b st₁ outcome st' sent)
    (hb : 1 ≤ b) (hfaults : st.faults = [] → st₁.faults = [])
    (hbatch : st.tables.Purged cutoff b st₁.tables) :
    Purges cutoff b st (outcome.map (b + ·)) st' (deletion cutoff b :: sent) := by
  obtain ⟨rfl, hall⟩ | ⟨fault, rfl, hsome⟩ := h
  · refine .inl ⟨?_, hall.after hb hbatch⟩
    rw [Except.map, ← hbatch.older, Nat.add_comm]
  · exact .inr ⟨fault, rfl, hsome.after hb hfaults hbatch⟩

/-- One round of the loop: a statement, and then its error, the end or the next round. -/
lemma deleteBatches_succ (cutoff : Instant) (b room deleted : ℕ) :
    (deleteBatches cutoff b (room + 1) deleted).run = .exec (deletion cutoff b) fun reply =>
      match reply with
      | .error fault => pure (.error fault)
      | .ok (count : ℕ) =>
        (if (count : Int) < b then pure (deleted + count)
          else deleteBatches cutoff b room (deleted + count) : Attempt ℕ).run := by
  refine congrArg (Script.exec _) (funext fun reply => ?_)
  cases reply <;> rfl

/-- The loop ends if there is room for one statement more than there are full batches. -/
lemma deleteBatches_tells (hb : 1 ≤ b) (room : ℕ) {deleted : ℕ} {s : Session}
    (hdistinct : s.store.tables.kept.Nodup)
    (hroom : (s.store.tables.older cutoff).length / b < room) :
    (deleteBatches cutoff b room deleted).run.Tells s fun outcome s' sent =>
      ∃ counted, outcome = counted.map (deleted + ·) ∧
        Purges cutoff b s.store counted s'.store sent := by
  induction room generalizing s deleted with
  | zero => exact absurd hroom (Nat.not_lt_zero _)
  | succ room ih =>
      rw [deleteBatches_succ]
      obtain ⟨fault, faults, hne, hperform⟩ | ⟨faults, d, hfaults, hperform⟩ :=
        perform_deletion s.store cutoff b
      · exact Script.tells_exec hperform (Script.tells_pure _
          ⟨.error fault, rfl, .inr ⟨fault, rfl, breaks_at_once hne hperform⟩⟩)
      · refine Script.tells_exec hperform ?_
        obtain ⟨hcount, hpurged⟩ := s.store.tables.purged_deleteResults hdistinct d cutoff b
        dsimp only
        split
        · -- The batch is not full, so that no old row is left.
          have hshort : (s.store.tables.older cutoff).length < b := by omega
          rw [Nat.min_eq_right (Nat.le_of_lt hshort)] at hcount hpurged
          refine Script.tells_pure _ ⟨.ok _, ?_, .inl ⟨rfl, completes_short hshort hpurged⟩⟩
          rw [hcount]
          rfl
        · have hfull : b ≤ (s.store.tables.older cutoff).length := by omega
          rw [Nat.min_eq_left hfull] at hcount hpurged
          have hleft := hpurged.older
          refine (ih (hpurged.distinct hdistinct) ?_).mono ?_
          · rw [← hleft, Nat.add_div_right _ hb] at hroom
            exact Nat.lt_of_succ_lt_succ hroom
          · rintro _ s' sent ⟨counted, rfl, hrest⟩
            refine ⟨_, ?_, hrest.after hb hfaults hpurged⟩
            rw [hcount]
            cases counted with
            | error fault => rfl
            | ok k => exact congrArg Except.ok (Nat.add_assoc _ _ _)

/-! ### The job -/

variable {s : Session}

/-- The deletion runs to its end, as there are fewer rows than a count of 64 bits can number. -/
lemma deleteOlder_tells (hdistinct : s.store.tables.kept.Nodup)
    (hrows : s.store.tables.results.length < UInt64.size) (hb : 1 ≤ b) :
    (deleteOlder cutoff b).run.Tells s fun outcome s' sent =>
      Purges cutoff b s.store outcome s'.store sent := by
  have hroom : (s.store.tables.older cutoff).length / b < batchBound :=
    Nat.lt_of_le_of_lt (Nat.div_le_self _ _)
      (Nat.lt_of_le_of_lt (List.length_filter_le _ _) hrows)
  refine (deleteBatches_tells hb batchBound hdistinct hroom).mono ?_
  rintro _ s' sent ⟨counted, rfl, h⟩
  cases counted with
  | error fault => exact h
  | ok k => rw [Except.map, Nat.zero_add]; exact h

/-- How the job ends when this has come of the deletion. -/
def endingOf (retentionDays : ℕ) : Except StoreError ℕ → Ending
  | .ok deleted => .returned (value deleted retentionDays)
  | .error fault => .failed ⟨"Failed to delete old job results: " ++ fault.message, []⟩

/-- **What the job deletes.** The rows have keys of their own, and a count of 64 bits can number
them. Each statement may pick whichever old rows it likes. Deleting what is from before a cutoff
comes to an end: after one statement more than there are full batches of old rows it has deleted all
of them, and nothing else, and gives their number; or a statement fails, its error is given, and
only old rows are missing. The job does this for the cutoff that goes back by the retention from the
clock, whatever the size of its batches, and fails without a statement if that is not representable.
-/
theorem purges_old_results (hdistinct : s.store.tables.kept.Nodup)
    (hrows : s.store.tables.results.length < UInt64.size) (hb : 1 ≤ b) :
    (∀ cutoff, (deleteOlder cutoff b).run.Tells s fun outcome s' sent =>
      Purges cutoff b s.store outcome s'.store sent) ∧
    (∀ (retentionDays : ℕ) (c : Context), c.hasStore = true →
      let cutoff := Instant.ofNanos (s.now.toNanos - days retentionDays)
      (cutoff.Representable → (bodyInBatches b retentionDays c).Tells s fun ending s' sent =>
        ∃ outcome, ending = endingOf retentionDays outcome ∧
          Purges cutoff b s.store outcome s'.store sent) ∧
      (¬ cutoff.Representable → (bodyInBatches b retentionDays c).Tells s fun ending s' sent =>
        ending = .failed ⟨s!"retention_days {retentionDays} is out of range", []⟩ ∧
          s'.store = s.store ∧ sent = [])) ∧
    body = bodyInBatches (10000 : ℕ) := by
  refine ⟨fun cutoff => deleteOlder_tells hdistinct hrows hb, fun retentionDays c hstore => ?_, rfl⟩
  rw [bodyInBatches, Context.store, if_pos hstore, Body.granted]
  refine ⟨fun hrange => Script.tells_now _ ?_, fun hrange => Script.tells_now _ ?_⟩
  · rw [cutoff?, Instant.back?, if_pos hrange]
    refine .bind (Script.Tells.mono (deleteOlder_tells
      (s := { s with readings := s.readings + 1 }) hdistinct hrows hb) fun outcome s' sent h => ?_)
    cases outcome with
    | error fault => exact Script.tells_pure _ ⟨.error fault, rfl, by rwa [List.append_nil]⟩
    | ok deleted =>
        exact Script.tells_log _ _
          (Script.tells_pure _ ⟨.ok deleted, rfl, by rwa [List.append_nil]⟩)
  · rw [cutoff?, Instant.back?, if_neg hrange]
    exact Script.tells_pure _ ⟨rfl, rfl, rfl⟩

/-- A result of the given second. -/
def dated (n : ℕ) (second : Int) : ResultRow :=
  .success (.drawn n) "idle" (.ofSecs second) Json.emptyObject .null

/-- A day after ten seconds past the year 2000, with two results from before these ten seconds and
one from their end. -/
def datedSession : Session :=
  { Session.new fun _ => .ofSecs 946771210 with
    store := { Store.new with tables := { Tables.empty with
      results := [dated 0 946684800, dated 1 946684810, dated 2 946684809] } } }

/-- The context in which the job runs. -/
def granting : Context := ⟨.drawn 3, jobName, true, none⟩

theorem purges_old_results_dated :
    ((deleteOlder (.ofSecs 946684810) (2 : ℕ)).run.Tells datedSession fun outcome s' sent =>
      Purges (.ofSecs 946684810) 2 datedSession.store outcome s'.store sent) ∧
    ((bodyInBatches (2 : ℕ) 1 granting).Tells datedSession fun ending s' sent =>
      ∃ outcome, ending = endingOf 1 outcome ∧
        Purges (.ofSecs 946684810) 2 datedSession.store outcome s'.store sent) ∧
    ((bodyInBatches (2 : ℕ) 1000000000 granting).Tells datedSession fun ending s' sent =>
      ending = .failed ⟨"retention_days 1000000000 is out of range", []⟩ ∧
        s'.store = datedSession.store ∧ sent = []) ∧
    (datedSession.store.tables.older (.ofSecs 946684810)).length = 2 ∧
    (datedSession.store.tables.withoutOlder (.ofSecs 946684810)).results = [dated 1 946684810] := by
  obtain ⟨hloop, hjob, -⟩ := purges_old_results (s := datedSession) (by decide) (by decide)
    (b := 2) (by decide)
  refine ⟨hloop _, (hjob 1 granting rfl).1 ?_, (hjob 1000000000 granting rfl).2 ?_, ?_, ?_⟩
  all_goals decide +kernel

end Purge

end JobDispatch
