import JobDispatch.Proofs.Work.Claim
import JobDispatch.Proofs.Work.Recording

/-!
Every claimed entry leaves a result.

* `Body.Harmless` are the bodies that come to an end and leave the store alone.
* `Worker.Recorded` says which row stands for the ending of a body, and with which outcome.
* `Worker.runOnce_records`: on a store without faults a round with a due entry claims one of them,
  and it is discarded if its job is unknown and leaves exactly one row otherwise.
-/

namespace JobDispatch

/-! ### Endings -/

/-- The body comes to an end, and it does not write to the store or leave a transaction open. -/
def Body.Harmless (b : Body) : Prop :=
  ∀ (c : Context) (s : Session), s.store.saved = none → s.store.faults = [] →
    (b c).Ends s fun _ s' => s.Leaves s' s.store.tables

/-- Every ending is that of a harmless body. -/
lemma Body.harmless_ending (e : Ending) : (Body.ending e).Harmless := fun _ s hsaved _ =>
  (Script.ends_pure e).mpr ((Session.Keeps.refl s).leaves hsaved)

/-- What is written about an ending that is recorded as a failure. -/
def Ending.failureText : Ending → String
  | .returned _ => "Failed to store job result: " ++ StoreError.nulInJson.message
  | .failed report => report.text
  | .panicked message => Ending.abortText message
  | .cancelled => "job task was cancelled"

namespace Worker

variable {lockTimeout : Duration} {s s' : Session} {entry : Entry} {ending : Ending}

/-- The row stands for the ending of a body that ran for `entry`, and the outcome agrees with it:
a success for a value without NUL characters, a failure otherwise. -/
structure Recorded (entry : Entry) (ending : Ending) (outcome : WorkOutcome) (row : ResultRow) :
    Prop where
  id : row.id = entry.id
  jobName : row.jobName = entry.jobName
  parameters : row.parameters = entry.parameters
  succeeded : ∀ v, ending = .returned v → v.mentions '\x00' = false →
    outcome = .succeeded entry.id entry.jobName ∧ row.result = some v ∧ row.errorLog = "" ∧
      row.isError = false
  failed : (∀ v, ending = .returned v → v.mentions '\x00' = true) →
    outcome = .failed entry.id entry.jobName ∧ row.result = none ∧
      row.errorLog = ResultRow.withoutNul ending.failureText ∧ row.isError = true

/-- The row that is recorded for an ending stands for it. -/
lemma recorded_resultOf (h : entry.Accepted) (executedAt : Instant) (ending : Ending) :
    Recorded entry ending (.ofResult entry (recorded (resultOf entry executedAt ending).2))
      (Tables.storedResult (recorded (resultOf entry executedAt ending).2)) := by
  have hfailure (errorLog : String) : recorded (.failure entry.id entry.jobName executedAt
      entry.parameters errorLog) = .failure entry.id entry.jobName executedAt entry.parameters
        errorLog := by
    rw [recorded, ResultRow.refusal?_failure h.name h.parameters]
  cases ending with
  | returned v =>
      rw [resultOf, recorded, ResultRow.refusal?_success h.name h.parameters]
      cases hv : v.mentions '\x00' with
      | false =>
          rw [jsonRefusal?_eq_none.mpr hv]
          refine ⟨rfl, rfl, rfl, fun w hw _ => ?_, fun hall => ?_⟩
          · obtain rfl := Ending.returned.inj hw
            exact ⟨rfl, rfl, rfl, rfl⟩
          · rw [hall v rfl] at hv
            cases hv
      | true =>
          rw [jsonRefusal?_eq_some.mpr ⟨hv, rfl⟩]
          refine ⟨rfl, rfl, rfl, fun w hw hclean => ?_, fun _ => ⟨rfl, rfl, rfl, rfl⟩⟩
          obtain rfl := Ending.returned.inj hw
          rw [hv] at hclean
          cases hclean
  | _ =>
      rw [resultOf, hfailure]
      refine ⟨rfl, rfl, rfl, fun w hw => ?_, fun _ => ⟨rfl, rfl, rfl, rfl⟩⟩
      cases hw

/-- Of the rows that endings give, only successes can be refused. -/
lemma resultOf_accepted (h : entry.Accepted) (executedAt : Instant) (ending : Ending) :
    nameRefusal? (resultOf entry executedAt ending).2.jobName = none ∧
    jsonRefusal? (resultOf entry executedAt ending).2.parameters = none ∧
    (resultOf entry executedAt ending).2.id = entry.id ∧
    ((resultOf entry executedAt ending).2.isError = true →
      (resultOf entry executedAt ending).2.refusal? = none) := by
  have hfailure (errorLog : String) : (ResultRow.failure entry.id entry.jobName executedAt
      entry.parameters errorLog).refusal? = none :=
    ResultRow.refusal?_failure h.name h.parameters errorLog
  cases ending with
  | returned v => exact ⟨h.name, h.parameters, rfl, fun herror => by cases herror⟩
  | _ => exact ⟨h.name, h.parameters, rfl, fun _ => hfailure _⟩

/-! ### Rounds -/

/-- The session in which the body of a claimed entry starts. -/
def begun (s : Session) : Session :=
  { s with readings := s.readings + 1 }.logged .jobStarting

/-- A body that runs for an entry gives the row of its ending. -/
lemma execute_ends {r : Registration Body}
    (hbody : (r.body (contextOf r entry)).run (begun s) = (.ok ending, s')) :
    (execute r entry).Ends s fun row s'' =>
      row = (resultOf entry s.now ending).2 ∧ s'.Keeps s'' := by
  refine (Script.ends_bind _ _).mpr (Script.ends_now.mpr ((Script.ends_bind _ _).mpr
    ((Script.ends_log _).mpr ((Script.ends_bind _ _).mpr ⟨ending, s', hbody, ?_⟩))))
  refine (Script.ends_bind _ _).mpr ((Script.ends_record _).mpr ((Script.ends_bind _ _).mpr
    ((Script.ends_log _).mpr ((Script.ends_pure _).mpr ⟨rfl, ?_⟩))))
  exact ⟨rfl, rfl, rfl, rfl, Nat.le_refl _, id⟩

/-- What a claimed entry comes to in a session that starts in `s`. -/
def Handles (g : Registry Body) (entry : Entry) (s : Session) (outcome : WorkOutcome)
    (s' : Session) : Prop :=
  match g.find? entry.jobName with
  | none => outcome = .discarded entry.id entry.jobName ∧
      s'.store.tables.results = s.store.tables.results
  | some r => ∃ ending s₁ row, (r.body (contextOf r entry)).run (begun s) = (.ok ending, s₁) ∧
      s'.store.tables.results = s.store.tables.results ++ [row] ∧
      Recorded entry ending outcome row

/-- The outcome is that of the claimed entry. -/
lemma Handles.entry_eq {g : Registry Body} {outcome : WorkOutcome}
    (h : Handles g entry s outcome s') :
    outcome.id = entry.id ∧ outcome.jobName = entry.jobName := by
  rw [Handles] at h
  split at h
  · rw [h.1]
    exact ⟨rfl, rfl⟩
  · obtain ⟨ending, s₁, row, -, -, hrecorded⟩ := h
    by_cases hclean : ∃ v, ending = .returned v ∧ v.mentions '\x00' = false
    · obtain ⟨v, hv, hnul⟩ := hclean
      rw [(hrecorded.succeeded v hv hnul).1]
      exact ⟨rfl, rfl⟩
    · have hall : ∀ v, ending = .returned v → v.mentions '\x00' = true := fun v hv => by
        rw [← Bool.not_eq_false]
        exact fun hnul => hclean ⟨v, hv, hnul⟩
      rw [(hrecorded.failed hall).1]
      exact ⟨rfl, rfl⟩

/-- An entry of an unknown job is discarded. -/
lemma handle_unknown {g : Registry Body} (hg : g.find? entry.jobName = none) :
    (handle g lockTimeout entry).Ends s
      (fun outcome s' => outcome = .discarded entry.id entry.jobName ∧ s.Keeps s')
      fun _ _ => False := by
  rw [handle, hg]
  refine (Attempt.ends_bind _ _).mpr ((Attempt.ends_lift _).mpr ((Script.ends_log _).mpr
    ((Attempt.ends_bind _ _).mpr ((Attempt.ends_lift _).mpr ((Script.ends_record _).mpr
      ((Attempt.ends_pure _).mpr ⟨rfl, ?_⟩))))))
  exact ⟨rfl, rfl, rfl, rfl, Nat.le_refl _, id⟩

/-- The ending of a body that leaves the store alone is recorded. -/
lemma handle_known {g : Registry Body} {r : Registration Body}
    (hg : g.find? entry.jobName = some r) (hfaults : s.store.faults = [])
    (haccepted : entry.Accepted)
    (hfresh : ∀ row ∈ s.store.tables.results, row.id ≠ entry.id)
    (hrun : (r.body (contextOf r entry)).run (begun s) = (.ok ending, s'))
    (hleaves : s.Leaves s' s.store.tables) :
    (handle g lockTimeout entry).Ends s
      (fun outcome s'' =>
        outcome = .ofResult entry (recorded (resultOf entry s.now ending).2) ∧
        s.Leaves s'' (s.store.tables.recording (recorded (resultOf entry s.now ending).2)))
      fun _ _ => False := by
  obtain ⟨hname, hparameters, hid, hfailure⟩ := resultOf_accepted haccepted s.now ending
  rw [handle, hg]
  refine (Attempt.ends_bind _ _).mpr ((Attempt.ends_lift _).mpr ((execute_ends hrun).mono
    fun row s₂ h => ?_))
  obtain ⟨rfl, hkeeps⟩ := h
  have ht : s₂.store.tables = s.store.tables := hkeeps.tables.trans hleaves.tables
  have hfaults' : s₂.store.faults = [] := hkeeps.faults (hleaves.faults hfaults)
  have hfresh' : ∀ row ∈ s₂.store.tables.results,
      row.id ≠ (resultOf entry s.now ending).2.id := by
    rw [ht, hid]
    exact hfresh
  refine (Attempt.ends_bind _ _).mpr ((record_ends (hkeeps.saved.trans hleaves.saved) hfaults'
    hfresh' hname hparameters hfailure).mono (fun kept s₃ h => ?_) fun _ _ h => h)
  obtain ⟨rfl, hrecorded⟩ := h
  refine (Attempt.ends_bind _ _).mpr ((Attempt.ends_lift _).mpr ((Script.ends_record _).mpr
    ((Attempt.ends_pure _).mpr ⟨rfl, ?_⟩)))
  rw [ht] at hrecorded
  exact (hrecorded.trans (hleaves.unchanged.keeps hkeeps)).measured _

/-- A claimed entry is discarded if its job is unknown and leaves exactly one row otherwise. -/
lemma handle_ends {g : Registry Body} (hsaved : s.store.saved = none)
    (hfaults : s.store.faults = []) (haccepted : entry.Accepted)
    (hbodies : ∀ r ∈ g.jobs, r.body.Harmless)
    (hfresh : ∀ row ∈ s.store.tables.results, row.id ≠ entry.id) :
    (handle g lockTimeout entry).Ends s (Handles g entry s) fun _ _ => False := by
  cases hg : g.find? entry.jobName with
  | none =>
      refine (handle_unknown hg).mono (fun outcome s' h => ?_) fun _ _ h => h
      rw [Handles, hg]
      exact ⟨h.1, congrArg Tables.results h.2.tables⟩
  | some r =>
      have hharmless : r.body.Harmless := hbodies r (List.mem_of_find?_eq_some hg)
      obtain ⟨ending, s₁, hrun, hleaves⟩ :=
        hharmless (contextOf r entry) (begun s) hsaved hfaults
      refine (handle_known hg hfaults haccepted hfresh hrun
        (hleaves.of_same rfl rfl)).mono (fun outcome s' h => ?_) fun _ _ h => h
      obtain ⟨rfl, hrecorded⟩ := h
      rw [Handles, hg]
      refine ⟨ending, s₁, _, hrun, ?_, recorded_resultOf haccepted s.now ending⟩
      rw [hrecorded.tables, Tables.recording]

/-- **Completeness of results**.  On a store without faults a round takes a due entry, if there is
one. Unless its key is taken, the round tells of that entry: it is discarded if its job is unknown,
and otherwise the results grow by exactly the row that stands for the ending of its body. -/
theorem runOnce_records (g : Registry Body) (lockTimeout : Duration) {s : Session}
    (hsaved : s.store.saved = none) (hfaults : s.store.faults = [])
    (haccepted : ∀ entry ∈ s.store.tables.queue, entry.Accepted)
    (hbodies : ∀ r ∈ g.jobs, r.body.Harmless)
    (hdue : ∃ entry ∈ s.store.tables.queue, entry.Due s.now.stored) :
    ∃ entry ∈ s.store.tables.queue, entry.Due s.now.stored ∧
      ∃ s₁, (claim lockTimeout).run.run s = (.ok (.ok (some entry)), s₁) ∧
        s₁.store.tables.results = s.store.tables.results ∧
        ((∀ row ∈ s.store.tables.results, row.id ≠ entry.id) →
          (runOnce g lockTimeout).Ends s fun answer s' =>
            ∃ outcome, answer = .ok (some outcome) ∧ outcome.id = entry.id ∧
              outcome.jobName = entry.jobName ∧ Handles g entry s₁ outcome s') := by
  obtain ⟨taken, s₁, hrun, htaken⟩ := claim_ends lockTimeout hsaved
  cases taken with
  | error fault => exact absurd hfaults htaken.1
  | ok taken =>
      obtain ⟨rfl, hnone, -⟩ | ⟨entry, hmem, hentry, rfl, hleaves⟩ := htaken
      · obtain ⟨entry, hmem, hentry⟩ := hdue
        rw [List.eq_nil_iff_forall_not_mem] at hnone
        exact absurd (Tables.mem_due _ |>.mpr ⟨hmem, hentry⟩) (hnone entry)
      · have hresults : s₁.store.tables.results = s.store.tables.results := by
          rw [hleaves.tables]
          rfl
        refine ⟨entry, hmem, hentry, s₁, hrun, hresults, fun hfresh => ?_⟩
        have hhandle : (handle g lockTimeout entry).Ends s₁ (Handles g entry s₁)
            fun _ _ => False :=
          handle_ends hleaves.saved (hleaves.faults hfaults) (haccepted entry hmem) hbodies
            (hresults ▸ hfresh)
        refine (Script.ends_bind _ _).mpr (Attempt.ends_iff.mp ((Attempt.ends_bind _ _).mpr
          ⟨_, _, hrun, (Attempt.ends_map _ _).mpr (hhandle.mono (fun outcome s' h => ?_)
            fun _ _ h => h.elim)⟩))
        exact (Script.ends_pure _).mpr ⟨outcome, rfl, h.entry_eq.1, h.entry_eq.2, h⟩

/-! ### A value that is refused -/

/-- The entry of a job whose value has a NUL character in a key. -/
def nulEntry : Entry :=
  ⟨.drawn 0, "dump", none, Json.emptyObject, none, none, 0⟩

/-- The job. -/
def nulJob : Registration Body :=
  ⟨"dump", none, ⟨false, false⟩, Body.ending (.returned (.array [.object [("\x00", .null)]]))⟩

/-- A store in which the entry waits. -/
def nulSession : Session :=
  .still { Store.new with tables := { Tables.empty with queue := [nulEntry] } } (.ofSecs 0)

/-- A job that returns a value with a NUL character leaves a failure that says so. -/
theorem runOnce_records_nul :
    (runOnce ⟨[nulJob]⟩ (.ofSecs 1)).Ends nulSession fun answer s' =>
      answer = .ok (some (.failed (.drawn 0) "dump")) ∧ ∃ row,
        s'.store.tables.results = [row] ∧ row.id = .drawn 0 ∧ row.result = none ∧
        row.errorLog = "Failed to store job result: error returned from database: " ++
          "unsupported Unicode escape sequence" := by
  obtain ⟨entry, hmem, -, s₁, -, hresults, hround⟩ :=
    runOnce_records ⟨[nulJob]⟩ (.ofSecs 1) (s := nulSession) rfl rfl
      (fun entry hmem => List.mem_singleton.mp hmem ▸ ⟨rfl, rfl⟩)
      (fun r hr => List.mem_singleton.mp hr ▸ Body.harmless_ending _)
      ⟨nulEntry, List.mem_singleton_self _, trivial⟩
  obtain rfl := List.mem_singleton.mp hmem
  refine (hround fun row hrow => nomatch hrow).mono fun answer s' h => ?_
  obtain ⟨outcome, rfl, -, -, ending, s₂, row, hbody, hgrown, hrecorded⟩ := h
  obtain rfl := Except.ok.inj (Prod.mk.inj hbody).1
  obtain ⟨rfl, hresult, hlog, -⟩ := hrecorded.failed fun v hv => Ending.returned.inj hv ▸ rfl
  exact ⟨rfl, row, hgrown.trans (by rw [hresults]; rfl), hrecorded.id, hresult,
    hlog.trans (by decide +kernel)⟩

end Worker

end JobDispatch
