import JobDispatch.Proofs.Time.Order
import JobDispatch.Proofs.Upkeep.Locking
import JobDispatch.Proofs.Work.Results

/-!
Which rows a round writes, and which rows the job that deletes old results takes.

* `ResultRow.Consistent`: a row has either a value or an error log, and no NUL characters in it.
* `Worker.Reports`: a row about an entry, and consistent. `Worker.execute_abides` and
  `Worker.record_only_reports`: a round builds and writes no others, and deletes none.
* `Purge.body_abides`: the job deletes up to cutoffs that go back from a reading of the clock that
  it has made. `Purge.days_lt_since`: what is from before them is older than the retention.
-/

namespace JobDispatch

/-! ### Rows -/

/-- The row has a value exactly if it is no error, an empty error log if it is none, and no NUL
characters in its error log. -/
structure ResultRow.Consistent (row : ResultRow) : Prop where
  result : row.result = none ↔ row.isError = true
  errorLog : row.isError = false → row.errorLog = ""
  clean : '\x00' ∉ row.errorLog.toList

namespace ResultRow

variable (id : EntryId) (jobName : String) (executedAt : Instant) (parameters : Json)

lemma consistent_success (value : Json) :
    (success id jobName executedAt parameters value).Consistent :=
  ⟨by simp [success], fun _ => rfl, by simp [success]⟩

lemma consistent_failure (errorLog : String) :
    (failure id jobName executedAt parameters errorLog).Consistent :=
  ⟨by simp [failure], nofun, by simp [failure, withoutNul]⟩

end ResultRow

namespace Worker

/-- The row bears what the entry bears. -/
structure Carries (entry : Entry) (row : ResultRow) : Prop where
  id : row.id = entry.id
  jobName : row.jobName = entry.jobName
  parameters : row.parameters = entry.parameters

/-- The row bears what the entry bears, and is consistent. -/
structure Reports (entry : Entry) (row : ResultRow) : Prop extends Carries entry row where
  consistent : row.Consistent

lemma reports_resultOf (entry : Entry) (executedAt : Instant) (ending : Ending) :
    Reports entry (resultOf entry executedAt ending).2 := by
  cases ending with
  | returned value => exact ⟨⟨rfl, rfl, rfl⟩, ResultRow.consistent_success _ _ _ _ _⟩
  | _ => exact ⟨⟨rfl, rfl, rfl⟩, ResultRow.consistent_failure _ _ _ _ _⟩

lemma Reports.unstorable {entry : Entry} {row : ResultRow} (h : Reports entry row)
    (fault : StoreError) : Reports entry (unstorable row fault) :=
  ⟨⟨h.id, h.jobName, h.parameters⟩, ResultRow.consistent_failure _ _ _ _ _⟩

/-- A round writes rows about its entry only, and deletes none. -/
lemma record_only_reports {entry : Entry} {row : ResultRow} (h : Reports entry row)
    (lockTimeout : Duration) :
    (record lockTimeout row).Only (Statement.Permitted (Reports entry) fun _ => False) :=
  record_only (fun _ => trivial) h h.unstorable

/-- The body of an entry ends with a row about it. -/
lemma execute_abides {r : Registration Body} {entry : Entry} {readings : List Instant}
    {allows : List Instant → Statement → Prop}
    (hbody : ∀ later, (r.body (contextOf r entry)).Abides allows (readings ++ later)
      fun _ => True) : (execute r entry).Abides allows readings (Reports entry) := by
  refine (Script.abides_now_bind _).mpr fun executedAt => (Script.abides_log_bind _ _).mpr ?_
  refine Script.Abides.bind (hbody [executedAt]) fun ending _ _ => ?_
  exact reports_resultOf entry executedAt ending

end Worker

/-! ### Deletions -/

namespace Purge

variable {retentionDays : Nat}

/-- The cutoff goes back by the retention from one of the readings. -/
def Reaches (retentionDays : Nat) (readings : List Instant) (cutoff : Instant) : Prop :=
  ∃ now ∈ readings, cutoff? now retentionDays = some cutoff

lemma Reaches.append {readings : List Instant} {cutoff : Instant}
    (h : Reaches retentionDays readings cutoff) (later : List Instant) :
    Reaches retentionDays (readings ++ later) cutoff := by
  obtain ⟨now, hnow, hcutoff⟩ := h
  exact ⟨now, List.mem_append_left _ hnow, hcutoff⟩

/-- The job deletes up to cutoffs that go back from a reading that it has made. -/
lemma body_abides {allows : List Instant → Statement → Prop}
    (hallows : ∀ readings cutoff limit, Reaches retentionDays readings cutoff →
      allows readings (.query (.deleteResults cutoff limit)))
    (c : Context) (readings : List Instant) :
    (body retentionDays c).Abides allows readings fun _ => True := by
  rw [body, bodyInBatches]
  cases c.store with
  | error refusal => trivial
  | ok _ =>
      refine (Script.abides_now_bind _).mpr fun now => ?_
      cases hcutoff : cutoff? now retentionDays with
      | none => trivial
      | some cutoff =>
          have hreaches : Reaches retentionDays (readings ++ [now]) cutoff :=
            ⟨now, List.mem_append_right _ (List.mem_singleton_self now), hcutoff⟩
          have honly : (deleteOlder cutoff batchSize).Only fun q =>
              q = .query (.deleteResults cutoff batchSize) := deleteOlder_only rfl
          refine Script.Abides.bind (honly.abides fun later q hq => ?_) fun outcome _ _ => ?_
          · rw [hq]
            exact hallows _ _ _ (hreaches.append later)
          · cases outcome <;> trivial

/-- What a table has kept of an instant from before a cutoff is older than the retention. -/
lemma days_lt_since {t now cutoff : Instant} (hcutoff : cutoff? now retentionDays = some cutoff)
    (hkept : t.stored = t) (hold : t < cutoff.stored) : days retentionDays < now.since t := by
  have hback : cutoff = .ofNanos (now.toNanos - days retentionDays) := by
    rw [cutoff?, Instant.back?] at hcutoff
    split at hcutoff
    · exact (Option.some.inj hcutoff).symm
    · cases hcutoff
  rw [← hkept, Instant.stored_lt_iff] at hold
  have hlt : t.toNanos < cutoff.toNanos := by
    by_contra hle
    exact absurd (Instant.stored_le_stored (Int.not_lt.mp hle)) (Int.not_le.mpr hold)
  rw [hback, Instant.toNanos_ofNanos] at hlt
  exact Int.lt_sub_left_of_add_lt (Int.add_lt_of_lt_sub_right hlt)

end Purge

/-- Of the bodies of the jobs, only that of the job that deletes old results may touch the
results. -/
def Registry.OnlyPurges (retentionDays : Nat) (g : Registry Body) : Prop :=
  ∀ r ∈ g.jobs, r.body = Purge.body retentionDays ∨ ∀ c, (r.body c).Only Statement.LeavesResults

end JobDispatch
