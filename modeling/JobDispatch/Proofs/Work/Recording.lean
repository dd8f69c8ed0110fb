import JobDispatch.Proofs.Store.Transaction
import JobDispatch.Work.Worker

/-!
How results get into the store.

* `ResultRow.refusal?_success` and `ResultRow.refusal?_failure`: of the rows that a worker builds,
  the store refuses only successes, and these only for their value.
* `Worker.record_ends`: on a store without faults each result is recorded, a success that the store
  refuses as a failure that says why.
-/

namespace JobDispatch

/-! ### Refusals -/

/-- The name and the parameters of the entry are such that the store takes them. -/
structure Entry.Accepted (entry : Entry) : Prop where
  name : nameRefusal? entry.jobName = none
  parameters : jsonRefusal? entry.parameters = none

lemma jsonRefusal?_eq_none {v : Json} : jsonRefusal? v = none ↔ v.mentions '\x00' = false := by
  rw [jsonRefusal?]
  by_cases h : v.mentions '\x00' = true <;> simp [h]

lemma jsonRefusal?_eq_some {v : Json} {fault : StoreError} :
    jsonRefusal? v = some fault ↔ v.mentions '\x00' = true ∧ fault = .nulInJson := by
  rw [jsonRefusal?]
  by_cases h : v.mentions '\x00' = true <;> simp [h, eq_comm]

/-- A text without NUL characters is not refused. -/
lemma textRefusal?_withoutNul (text : String) :
    textRefusal? (ResultRow.withoutNul text) = none := by
  rw [textRefusal?, ResultRow.withoutNul, String.toList_ofList, if_neg]
  simp

namespace ResultRow

variable {id : EntryId} {jobName : String} {executedAt : Instant} {parameters : Json}

/-- A success can be refused for its value. -/
lemma refusal?_success (hname : nameRefusal? jobName = none)
    (hparameters : jsonRefusal? parameters = none) (v : Json) :
    (success id jobName executedAt parameters v).refusal? = jsonRefusal? v := by
  have hlog : textRefusal? "" = none := rfl
  rw [refusal?, success, hname, hparameters, hlog]
  cases h : jsonRefusal? v <;> simp [h]

/-- A failure is never refused. -/
lemma refusal?_failure (hname : nameRefusal? jobName = none)
    (hparameters : jsonRefusal? parameters = none) (errorLog : String) :
    (failure id jobName executedAt parameters errorLog).refusal? = none := by
  rw [refusal?, failure, hname, hparameters, textRefusal?_withoutNul]
  rfl

end ResultRow

namespace Tables

variable {t t' : Tables} {d : Draw} {row : ResultRow}

/-- The tables with one more result. -/
def recording (t : Tables) (row : ResultRow) : Tables :=
  { t with results := t.results ++ [storedResult row] }

/-- A result whose key is free is taken unless its values are refused. -/
lemma apply_insertResult (hfresh : ∀ r ∈ t.results, r.id ≠ row.id) :
    t.apply d (.insertResult row) = match row.refusal? with
      | some fault => .error fault
      | none => .ok (storedResult row, t.recording row) := by
  have hfree : (t.results.any fun r => r.id = row.id) = false := by
    rw [List.any_eq_false]
    exact fun r hr => by simpa using hfresh r hr
  rw [apply, Query.refusal?]
  cases row.refusal? with
  | some fault => rfl
  | none => rw [answer, if_neg (by rw [hfree]; decide), recording]

end Tables

/-! ### Records -/

namespace Worker

variable {lockTimeout : Duration} {s : Session} {row : ResultRow}

/-- A result is written, or refused for its values. -/
lemma tryWrite_ends (hsaved : s.store.saved = none) (hfaults : s.store.faults = [])
    (hfresh : ∀ r ∈ s.store.tables.results, r.id ≠ row.id) :
    (tryWrite lockTimeout row).Ends s
      (fun _ s' => row.refusal? = none ∧ s.Leaves s' (s.store.tables.recording row))
      fun fault s' => row.refusal? = some fault ∧ s.Leaves s' s.store.tables := by
  refine Attempt.ends_committed hsaved (fun s' hopen => ?_) fun _ _ hne => absurd hfaults hne
  have happly (d : Tables.Draw) : s'.store.tables.apply d (.insertResult row) =
      match row.refusal? with
      | some fault => .error fault
      | none => .ok (Tables.storedResult row, s.store.tables.recording row) := by
    rw [hopen.tables]
    exact Tables.apply_insertResult hfresh
  refine (Attempt.ends_bind _ _).mpr ((Attempt.ends_timed _ _).mpr (Attempt.ends_query
    (fun d reply s'' hanswer hs'' => ?_) fun fault s'' herror hkeeps => ?_))
  · have hrestores := hopen.restores_of_answers (hs''.measured (.queryTimed "insert_job_result"))
    refine (Attempt.ends_pure _).mpr ⟨hrestores, fun s₃ hcommit => ?_⟩
    have hleaves := hcommit.trans hrestores
    rw [happly] at hanswer
    cases hrow : row.refusal? with
    | some fault => rw [hrow] at hanswer; cases hanswer
    | none =>
        rw [hrow] at hanswer
        rw [Session.store_measured, ← (Prod.mk.inj (Except.ok.inj hanswer)).2] at hleaves
        exact ⟨rfl, hleaves⟩
  · refine ⟨(hopen.trans (hkeeps.measured _)).restores, fun s₃ hleaves => ⟨?_, hleaves⟩⟩
    obtain hne | ⟨d, hrefused⟩ := herror
    · exact absurd (hopen.faults hfaults) hne
    · rw [happly] at hrefused
      cases hrow : row.refusal? with
      | some fault => rw [hrow] at hrefused; rw [Except.error.inj hrefused]
      | none => rw [hrow] at hrefused; cases hrefused

/-- A refusal is final: writing the same result again is no use. -/
lemma not_transient_of_refusal {fault : StoreError} (h : row.refusal? = some fault) :
    fault.isTransient = false := by
  have htext {text : String} (h : textRefusal? text = some fault) :
      fault.isTransient = false := by
    rw [textRefusal?] at h
    split at h
    · exact Option.some.inj h ▸ rfl
    · cases h
  have hjson {v : Json} (h : jsonRefusal? v = some fault) : fault.isTransient = false :=
    (jsonRefusal?_eq_some.mp h).2 ▸ rfl
  simp only [ResultRow.refusal?, nameRefusal?, Option.orElse_eq_orElse, Option.orElse_eq_or,
    Option.or_eq_some_iff, Option.bind_eq_some_iff] at h
  obtain (h | ⟨-, h⟩) | ⟨-, h | ⟨-, ⟨v, -, h⟩ | ⟨-, h⟩⟩⟩ := h
  · exact htext h
  · split at h
    · exact Option.some.inj h ▸ rfl
    · cases h
  · exact hjson h
  · exact hjson h
  · exact htext h

/-- A result is written, or refused, however many attempts are left. -/
lemma writeWithin_ends (hsaved : s.store.saved = none) (hfaults : s.store.faults = [])
    (hfresh : ∀ r ∈ s.store.tables.results, r.id ≠ row.id) (attempts : Nat) :
    (writeWithin lockTimeout row attempts).Ends s fun outcome s' =>
      match row.refusal? with
      | none => outcome = .ok () ∧ s.Leaves s' (s.store.tables.recording row)
      | some fault => outcome = .error fault ∧ s.Leaves s' s.store.tables := by
  have hgiveUp {fault : StoreError} {s' : Session} (hrow : row.refusal? = some fault)
      (hleaves : s.Leaves s' s.store.tables) : (giveUp fault).Ends s' fun outcome s' =>
      match row.refusal? with
      | none => outcome = .ok () ∧ s.Leaves s' (s.store.tables.recording row)
      | some fault => outcome = .error fault ∧ s.Leaves s' s.store.tables := by
    refine (Script.ends_bind _ _).mpr ((Script.ends_log _).mpr ((Script.ends_pure _).mpr ?_))
    rw [hrow]
    exact ⟨rfl, hleaves.logged _⟩
  cases attempts with
  | zero =>
      refine (Script.ends_bind _ _).mpr (Script.Ends.mono (tryWrite_ends hsaved hfaults hfresh)
        fun outcome s' h => ?_)
      cases outcome with
      | ok v => exact (Script.ends_pure _).mpr (by rw [h.1]; exact ⟨rfl, h.2⟩)
      | error fault => exact hgiveUp h.1 h.2
  | succ n =>
      refine (Script.ends_bind _ _).mpr (Script.Ends.mono (tryWrite_ends hsaved hfaults hfresh)
        fun outcome s' h => ?_)
      cases outcome with
      | ok v => exact (Script.ends_pure _).mpr (by rw [h.1]; exact ⟨rfl, h.2⟩)
      | error fault =>
          dsimp only
          rw [if_neg (by rw [not_transient_of_refusal h.1]; decide)]
          exact hgiveUp h.1 h.2

/-- The row that is recorded for a result: the result itself, or the failure that says why the
store refuses it. -/
def recorded (row : ResultRow) : ResultRow :=
  match row.refusal? with
  | none => row
  | some fault => unstorable row fault

/-- Every result is recorded once, as `recorded` says. -/
lemma record_ends (hsaved : s.store.saved = none) (hfaults : s.store.faults = [])
    (hfresh : ∀ r ∈ s.store.tables.results, r.id ≠ row.id)
    (hname : nameRefusal? row.jobName = none) (hparameters : jsonRefusal? row.parameters = none)
    (hfailure : row.isError = true → row.refusal? = none) :
    (record lockTimeout row).Ends s
      (fun kept s' => kept = recorded row ∧ s.Leaves s' (s.store.tables.recording kept))
      fun _ _ => False := by
  refine (Script.ends_bind _ _).mpr ((writeWithin_ends hsaved hfaults hfresh _).mono
    fun outcome s' h => ?_)
  cases hrow : row.refusal? with
  | none =>
      rw [hrow] at h
      obtain ⟨rfl, hleaves⟩ := h
      exact (Script.ends_pure _).mpr ⟨by rw [recorded, hrow], hleaves⟩
  | some fault =>
      rw [hrow] at h
      obtain ⟨rfl, hleaves⟩ := h
      have hsuccess : ¬ (row.isError = true ∨ fault.isTransient = true) := by
        rintro (h | h)
        · rw [hfailure h] at hrow; cases hrow
        · rw [not_transient_of_refusal hrow] at h; cases h
      dsimp only
      rw [if_neg hsuccess]
      have hfresh' : ∀ r ∈ s'.store.tables.results, r.id ≠ (unstorable row fault).id := by
        rw [hleaves.tables]
        exact hfresh
      refine (Script.ends_bind _ _).mpr ((writeWithin_ends hleaves.saved
        (hleaves.faults hfaults) hfresh' _).mono fun outcome s'' h => ?_)
      rw [unstorable, ResultRow.refusal?_failure hname hparameters, ← unstorable] at h
      obtain ⟨rfl, hleaves'⟩ := h
      refine (Script.ends_pure _).mpr ⟨by rw [recorded, hrow], ?_⟩
      rw [hleaves.tables] at hleaves'
      exact hleaves'.trans hleaves.unchanged

end Worker

end JobDispatch
