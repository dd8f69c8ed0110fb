import JobDispatch.Proofs.Upkeep.Locking
import JobDispatch.Proofs.Work.Completeness
import JobDispatch.Proofs.Work.Floor

/-!
How a claimed entry gets lost.

Once a worker has claimed an entry, nothing of it is left but the row that is to be recorded. If
the record is given up, so is the entry.

* `Worker.record_leaves`: whatever faults strike, a result is recorded or the tables stay as the
  body has left them.
* `Worker.GivesUp`: the record of a result is given up after the body has ended.
* `Worker.losesNothing_iff`: a round that ends with an error has lost nothing exactly if the body
  made up for every record that is given up.
* `Script.Only.run_facing`: a fault at one point does not matter to scripts that do not get there.
* `Worker.loses_iff_gives_up`: a body that leaves the store alone makes up for nothing, and three
  transient faults are enough for its record to be given up.
-/

namespace JobDispatch

namespace Tables

variable {t t' : Tables} {d : Draw} {row reply : ResultRow}

/-- A result that is taken is a new row. -/
lemma recording_of_apply (h : t.apply d (.insertResult row) = .ok (reply, t')) :
    t' = t.recording row := by
  have hanswer := (apply_eq_ok.mp h).2
  rw [answer] at hanswer
  split at hanswer
  · cases hanswer
  · exact (Prod.mk.inj (Except.ok.inj hanswer)).2.symm

end Tables

namespace Worker

variable {lockTimeout : Duration} {s s' : Session} {row : ResultRow} {g : Registry Body}

/-! ### Records among faults -/

/-- What the tables are after a result has been written, or could not be. -/
def Written (s : Session) (row : ResultRow) (outcome : Except StoreError Unit) (s' : Session) :
    Prop :=
  match outcome with
  | .ok _ => s.Leaves s' (s.store.tables.recording row)
  | .error _ => s.Leaves s' s.store.tables

/-- What could not be written can be written later. -/
lemma Written.after {outcome : Except StoreError Unit} {s'' : Session}
    (h : Written s' row outcome s'') (hleaves : s.Leaves s' s.store.tables) :
    Written s row outcome s'' := by
  cases outcome with
  | ok _ =>
      have hrecords : s'.Leaves s'' (s'.store.tables.recording row) := h
      rw [hleaves.tables] at hrecords
      exact hrecords.trans hleaves.unchanged
  | error fault =>
      have hstays : s'.Leaves s'' s'.store.tables := h
      rw [hleaves.tables] at hstays
      exact hstays.trans hleaves.unchanged

lemma tryWrite_leaves (hsaved : s.store.saved = none) :
    (tryWrite lockTimeout row).run.Ends s (Written s row) := by
  refine Attempt.ends_iff.mp (Attempt.ends_committed hsaved (fun s' hopen => ?_)
    fun _ _ _ hleaves => hleaves)
  refine (Attempt.ends_bind _ _).mpr ((Attempt.ends_timed _ _).mpr (Attempt.ends_query
    (fun d reply s'' hanswer hs'' => ?_) fun fault s'' _ hkeeps => ?_))
  · have hrestores := hopen.restores_of_answers (hs''.measured (.queryTimed "insert_job_result"))
    refine (Attempt.ends_pure _).mpr ⟨hrestores, fun s₃ hcommit => ?_⟩
    have hleaves := hcommit.trans hrestores
    rw [Session.store_measured, Tables.recording_of_apply hanswer, hopen.tables] at hleaves
    exact hleaves
  · exact ⟨(hopen.trans (hkeeps.measured _)).restores, fun _ hleaves => hleaves⟩

lemma writeWithin_leaves (hsaved : s.store.saved = none) (attempts : Nat) :
    (writeWithin lockTimeout row attempts).Ends s (Written s row) := by
  have hgiveUp {s s' : Session} (fault : StoreError) (hleaves : s.Leaves s' s.store.tables) :
      (giveUp fault).Ends s' (Written s row) :=
    (Script.ends_bind _ _).mpr ((Script.ends_log _).mpr ((Script.ends_pure _).mpr
      (hleaves.logged _)))
  induction attempts generalizing s with
  | zero =>
      refine (Script.ends_bind _ _).mpr ((tryWrite_leaves hsaved).mono fun outcome s' h => ?_)
      cases outcome with
      | ok _ => exact (Script.ends_pure _).mpr h
      | error fault => exact hgiveUp fault h
  | succ attempts ih =>
      refine (Script.ends_bind _ _).mpr ((tryWrite_leaves hsaved).mono fun outcome s' h => ?_)
      cases outcome with
      | ok _ => exact (Script.ends_pure _).mpr h
      | error fault =>
          have hleaves : s.Leaves s' s.store.tables := h
          dsimp only
          by_cases htransient : fault.isTransient = true
          · rw [if_pos htransient]
            refine (Script.ends_bind _ _).mpr ((Script.ends_log _).mpr ?_)
            have hwrites := ih (s := s'.logged .resultRetried) hleaves.saved
            exact hwrites.mono fun _ _ hwritten => hwritten.after (hleaves.logged _)
          · rw [if_neg htransient]
            exact hgiveUp fault hleaves

/-- The row is recorded for the result: it is the result itself or the failure in its place. -/
def Stands (row kept : ResultRow) : Prop := kept = row ∨ ∃ fault, kept = unstorable row fault

/-- A result is recorded, itself or as a failure, or the tables are left alone. -/
lemma record_leaves (hsaved : s.store.saved = none) :
    (record lockTimeout row).Ends s
      (fun kept s' => Stands row kept ∧ s.Leaves s' (s.store.tables.recording kept))
      fun _ s' => s.Leaves s' s.store.tables := by
  refine (Script.ends_bind _ _).mpr ((writeWithin_leaves hsaved _).mono fun outcome s' h => ?_)
  cases outcome with
  | ok _ => exact (Script.ends_pure _).mpr ⟨.inl rfl, h⟩
  | error fault =>
      have hleaves : s.Leaves s' s.store.tables := h
      dsimp only
      by_cases hfinal : row.isError = true ∨ fault.isTransient = true
      · rw [if_pos hfinal]
        exact (Script.ends_pure _).mpr hleaves
      · rw [if_neg hfinal]
        refine (Script.ends_bind _ _).mpr ((writeWithin_leaves hleaves.saved _).mono
          fun outcome s'' h => ?_)
        have hwritten := h.after hleaves
        cases outcome with
        | ok _ => exact (Script.ends_pure _).mpr ⟨.inr ⟨fault, rfl⟩, hwritten⟩
        | error fault => exact (Script.ends_pure _).mpr hwritten

/-! ### Rounds that end with an error -/

/-- The round that starts in `s` claims an entry, its body comes to its end, and the session `s₁` is
left with the row to be recorded. -/
def Executes (g : Registry Body) (lockTimeout : Duration) (s : Session) (entry : Entry)
    (row : ResultRow) (s₁ : Session) : Prop :=
  ∃ s₀ r, (claim lockTimeout).run.run s = (.ok (.ok (some entry)), s₀) ∧
    g.find? entry.jobName = some r ∧ (execute r entry).run s₀ = (.ok row, s₁)

/-- The record of the entry's result is given up in the session `s₁`, which the body has left. -/
def GivesUp (g : Registry Body) (lockTimeout : Duration) (s : Session) (entry : Entry)
    (s₁ : Session) : Prop :=
  ∃ row fault s', Executes g lockTimeout s entry row s₁ ∧
    (record lockTimeout row).run.run s₁ = (.ok (.error fault), s')

/-- A round whose claim fails. -/
lemma run_of_claim_error {fault : StoreError}
    (hclaim : (claim lockTimeout).run.run s = (.ok (.error fault), s')) :
    (runOnce g lockTimeout).run s = (.ok (.error (.store fault)), s') := by
  rw [Task.runOnce_eq_left, Script.run_bind, Task.left, ExceptT.run_bind, Script.run_bind, hclaim]
  rfl

/-- What a round does once the body of its entry has ended. -/
def concluding (lockTimeout : Duration) (entry : Entry) (row : ResultRow) :
    Script (Except OperationError (Option WorkOutcome)) := do
  let outcome ← ExceptT.run (record lockTimeout row >>= Task.closing entry)
  pure (outcome.mapError .store)

/-- A round that has claimed an entry of a known job runs its body. -/
lemma run_of_claim {entry : Entry} {r : Registration Body}
    (hclaim : (claim lockTimeout).run.run s = (.ok (.ok (some entry)), s'))
    (hr : g.find? entry.jobName = some r) :
    (runOnce g lockTimeout).run s =
      (execute r entry >>= concluding lockTimeout entry).run s' := by
  have hstart : Task.start g lockTimeout entry =
      .running lockTimeout entry (execute r entry) := by rw [Task.start, hr]
  rw [Task.runOnce_eq_left, Script.run_bind, Task.run_left_claim hclaim, Task.left_start hr, hstart,
    Task.left_running, ← Script.run_bind, bind_assoc]
  rfl

lemma run_of_executes {entry : Entry} {s₁ : Session}
    (h : Executes g lockTimeout s entry row s₁) :
    (runOnce g lockTimeout).run s = (concluding lockTimeout entry row).run s₁ := by
  obtain ⟨s₀, r, hclaim, hr, hexecute⟩ := h
  rw [run_of_claim hclaim hr, Script.run_bind, hexecute]

lemma run_of_record_error {entry : Entry} {s₁ : Session} {fault : StoreError}
    (h : Executes g lockTimeout s entry row s₁)
    (hrecord : (record lockTimeout row).run.run s₁ = (.ok (.error fault), s')) :
    (runOnce g lockTimeout).run s = (.ok (.error (.store fault)), s') := by
  rw [run_of_executes h, concluding, Script.run_bind, ExceptT.run_bind, Script.run_bind, hrecord]
  rfl

/-- A round fails in its claim, or because the record of a result is given up. -/
lemma runOnce_error {fault : OperationError} (hsaved : s.store.saved = none)
    (hrun : (runOnce g lockTimeout).run s = (.ok (.error fault), s')) :
    (∃ fault, (claim lockTimeout).run.run s = (.ok (.error fault), s')) ∨
      ∃ entry row s₁ fault, Executes g lockTimeout s entry row s₁ ∧
        (record lockTimeout row).run.run s₁ = (.ok (.error fault), s') := by
  obtain ⟨taken, s₀, hclaim, -⟩ := claim_ends lockTimeout hsaved
  cases taken with
  | error fault =>
      rw [run_of_claim_error hclaim, Prod.mk.injEq] at hrun
      exact .inl ⟨fault, hrun.2 ▸ hclaim⟩
  | ok taken =>
      cases taken with
      | none =>
          rw [Task.runOnce_eq_left, Script.run_bind, Task.left, ExceptT.run_bind, Script.run_bind,
            hclaim] at hrun
          cases hrun
      | some entry =>
          cases hr : g.find? entry.jobName with
          | none =>
              rw [Task.runOnce_eq_left, Script.run_bind, Task.run_left_claim hclaim, Task.left,
                handle, hr] at hrun
              cases hrun
          | some r =>
              rcases hexecute : (execute r entry).run s₀ with ⟨halt | row, s₁⟩
              · rw [run_of_claim hclaim hr, Script.run_bind, hexecute] at hrun
                cases hrun
              · have hexecutes : Executes g lockTimeout s entry row s₁ :=
                  ⟨s₀, r, hclaim, hr, hexecute⟩
                rw [run_of_executes hexecutes, concluding, Script.run_bind, ExceptT.run_bind,
                  Script.run_bind] at hrun
                rcases hrecord : (record lockTimeout row).run.run s₁ with ⟨halt | recorded, s₂⟩
                · rw [hrecord] at hrun
                  cases hrun
                · cases recorded with
                  | ok kept => rw [hrecord] at hrun; cases hrun
                  | error fault =>
                      rw [hrecord] at hrun
                      obtain ⟨-, rfl⟩ := Prod.mk.inj hrun
                      exact .inr ⟨entry, row, s₁, fault, hexecutes, hrecord⟩

end Worker

/-! ### What is lost -/

/-- The body comes to an end and leaves the store alone. -/
def Body.Quiet (b : Body) : Prop :=
  ∀ (c : Context) (s : Session), (b c).Ends s fun _ s' => s'.store = s.store

/-- The body leaves no transaction open. -/
def Body.Closes (b : Body) : Prop :=
  ∀ (c : Context) (s : Session) (ending : Ending) (s' : Session), s.store.saved = none →
    (b c).run s = (.ok ending, s') → s'.store.saved = none

namespace Worker

variable {lockTimeout : Duration} {s s' : Session} {g : Registry Body}

/-- What has run when the body of an entry has ended. -/
lemma body_of_execute {r : Registration Body} {entry : Entry} {row : ResultRow}
    (h : (execute r entry).run s = (.ok row, s')) :
    ∃ ending s₁, (r.body (contextOf r entry)).run (begun s) = (.ok ending, s₁) ∧
      row = (resultOf entry s.now ending).2 ∧ s'.store = s₁.store := by
  have hrun : (execute r entry).run s = (r.body (contextOf r entry) >>= fun ending => do
      Script.record (.jobTimed entry.jobName)
      Script.log (resultOf entry s.now ending).1
      pure (resultOf entry s.now ending).2).run (begun s) := rfl
  rw [hrun, Script.run_bind] at h
  rcases hbody : (r.body (contextOf r entry)).run (begun s) with ⟨halt | ending, s₁⟩
  · rw [hbody] at h
    cases h
  · rw [hbody] at h
    obtain ⟨hrow, rfl⟩ := Prod.mk.inj h
    exact ⟨ending, s₁, rfl, (Except.ok.inj hrow).symm, rfl⟩

lemma Executes.closed {entry : Entry} {row : ResultRow} (h : Executes g lockTimeout s entry row s')
    (hsaved : s.store.saved = none) (hbodies : ∀ r ∈ g.jobs, r.body.Closes) :
    s'.store.saved = none := by
  obtain ⟨s₀, r, hclaim, hr, hexecute⟩ := h
  have hended := Script.Ends.of_run (claim_ends lockTimeout hsaved) hclaim
  have htakes : Takes s (some entry) s₀ := hended
  have hclosed : s₀.store.saved = none := by
    obtain ⟨-, -, hleaves⟩ | ⟨e, -, -, -, hleaves⟩ := htakes <;> exact hleaves.saved
  obtain ⟨ending, s₁, hbody, -, hstore⟩ := body_of_execute hexecute
  rw [hstore]
  exact hbodies r (List.mem_of_find?_eq_some hr) _ (begun s₀) _ _ hclosed hbody

/-- A round that ends with an error has lost nothing: the queue is as it was, or there is a result
for the entry that was claimed. -/
def LosesNothing (g : Registry Body) (lockTimeout : Duration) (s : Session) : Prop :=
  ∀ fault s', (runOnce g lockTimeout).run s = (.ok (.error fault), s') →
    s'.store.tables.queue = s.store.tables.queue ∨
      ∃ entry s₀, (claim lockTimeout).run.run s = (.ok (.ok (some entry)), s₀) ∧
        ∃ row ∈ s'.store.tables.results, row.id = entry.id

/-- Whenever the record of a result is given up, the body has left the queue as it was before the
round, or a result for the entry. -/
def MakesUp (g : Registry Body) (lockTimeout : Duration) (s : Session) : Prop :=
  ∀ entry s₁, GivesUp g lockTimeout s entry s₁ →
    s₁.store.tables.queue = s.store.tables.queue ∨
      ∃ row ∈ s₁.store.tables.results, row.id = entry.id

/-- A round loses nothing exactly if the body makes up for every record that is given up. -/
lemma losesNothing_iff (hsaved : s.store.saved = none) (hbodies : ∀ r ∈ g.jobs, r.body.Closes) :
    LosesNothing g lockTimeout s ↔ MakesUp g lockTimeout s := by
  have htables {entry : Entry} {row : ResultRow} {s₁ s' : Session} {fault : StoreError}
      (hexecutes : Executes g lockTimeout s entry row s₁)
      (hrecord : (record lockTimeout row).run.run s₁ = (.ok (.error fault), s')) :
      s'.store.tables = s₁.store.tables := by
    have hended := Script.Ends.of_run (record_leaves (hexecutes.closed hsaved hbodies)) hrecord
    have hleaves : s₁.Leaves s' s₁.store.tables := hended
    exact hleaves.tables
  constructor
  · rintro h entry s₁ ⟨row, fault, s', hexecutes, hrecord⟩
    obtain ⟨s₀, r, hclaim, -⟩ := id hexecutes
    obtain hqueue | ⟨entry', s₀', hclaim', hrow⟩ := h _ _ (run_of_record_error hexecutes hrecord)
    · exact .inl (htables hexecutes hrecord ▸ hqueue)
    · rw [hclaim] at hclaim'
      cases hclaim'
      exact .inr (htables hexecutes hrecord ▸ hrow)
  · intro h fault s' hrun
    obtain ⟨fault, hclaim⟩ | ⟨entry, row, s₁, fault, hexecutes, hrecord⟩ :=
      runOnce_error hsaved hrun
    · have hfails := Script.Ends.of_run (claim_ends lockTimeout hsaved) hclaim
      exact .inl (congrArg Tables.queue hfails.2.tables)
    · obtain ⟨s₀, r, hclaim, -⟩ := id hexecutes
      rw [htables hexecutes hrecord]
      exact (h entry s₁ ⟨row, fault, s', hexecutes, hrecord⟩).imp_right fun hrow =>
        ⟨entry, s₀, hclaim, hrow⟩

end Worker

/-! ### Three transient faults -/

/-- The store with one fault to strike. -/
def Store.facing (st : Store) (f : Fault) : Store := { st with faults := [f] }

/-- The session whose store has one fault to strike. -/
def Session.facing (s : Session) (f : Fault) : Session := { s with store := s.store.facing f }

namespace Fault

variable {point : Point} {faults : List Fault}

lemma strike_of_ne (h : ∀ f ∈ faults, f.point ≠ point) : strike point faults = (none, faults) := by
  induction faults with
  | nil => rfl
  | cons f rest ih =>
      have hf : ¬ (f.point = point ∧ 0 < f.times) := fun hf => h f List.mem_cons_self hf.1
      rw [strike, if_neg hf, ih fun g hg => h g (List.mem_cons_of_mem f hg)]

lemma letPass_of_ne (h : ∀ f ∈ faults, f.point ≠ point) : letPass point faults = faults := by
  induction faults with
  | nil => rfl
  | cons f rest ih =>
      have hf : ¬ (f.point = point ∧ 0 < f.times) := fun hf => h f List.mem_cons_self hf.1
      rw [letPass, if_neg hf, ih fun g hg => h g (List.mem_cons_of_mem f hg)]

end Fault

namespace Store

variable {st : Store} {q : Statement} {f : Fault}

/-- A statement is executed if no fault concerns its point. -/
lemma perform_of_ne (h : ∀ f ∈ st.faults, q.point ≠ some f.point) :
    st.perform q = (st.counted st.faults).execute q := by
  have hne {point : Point} (hq : q.point = some point) : ∀ f ∈ st.faults, f.point ≠ point :=
    fun f hf hpoint => h f hf (hq.trans (congrArg some hpoint.symm))
  cases q with
  | control c =>
      cases c with
      | abandon =>
          have hpass : Fault.letPass .rollback st.faults = st.faults :=
            Fault.letPass_of_ne (hne rfl)
          simp only [perform, hpass]
          rfl
      | _ => simp only [perform, Statement.point, Fault.strike_of_ne (hne rfl)]; rfl
  | query q =>
      cases hq : (Statement.query q).point with
      | none => simp only [perform, hq]; rfl
      | some point => simp only [perform, hq, Fault.strike_of_ne (hne hq)]; rfl

/-- A fault does not matter to a statement of another point. -/
lemma perform_facing (hst : st.faults = []) (hq : q.point ≠ some f.point) :
    (st.facing f).perform q = ((st.perform q).1, (st.perform q).2.facing f) ∧
      (st.perform q).2.faults = [] := by
  have hfacing : (st.facing f).perform q = (st.counted [f]).execute q :=
    perform_of_ne fun g hg => List.mem_singleton.mp hg ▸ hq
  have hplain : st.perform q = (st.counted []).execute q := by
    rw [perform_of_ne (by rw [hst]; exact nofun), hst]
  rw [hfacing, hplain]
  cases q with
  | control c => cases c <;> exact ⟨rfl, rfl⟩
  | query q =>
      have htables : (st.counted [f]).tables.apply (st.counted [f]).draw q =
          (st.counted []).tables.apply (st.counted []).draw q := rfl
      rw [execute, execute, htables]
      cases (st.counted []).tables.apply (st.counted []).draw q with
      | ok answer => exact ⟨rfl, rfl⟩
      | error fault => exact ⟨rfl, rfl⟩

end Store

/-- A fault at one point does not matter to scripts that do not get there. -/
lemma Script.Only.run_facing {α : Type} {p : Script α} {f : Fault}
    (hp : p.Only fun q => q.point ≠ some f.point) {s : Session} (hs : s.store.faults = []) :
    p.run (s.facing f) = ((p.run s).1, (p.run s).2.facing f) := by
  induction p generalizing s with
  | done v => rfl
  | halt h => rfl
  | clock next ih =>
      exact ih (s.clock s.readings) (hp _) (s := { s with readings := s.readings + 1 }) hs
  | note n next ih => exact ih hp (s := s.logged n) hs
  | measure m next ih => exact ih hp (s := s.measured m) hs
  | exec q next ih =>
      obtain ⟨hq, hnext⟩ := hp
      obtain ⟨hperform, hfaults⟩ := Store.perform_facing hs hq
      have hrun (s : Session) : (exec q next).run s =
          (next (s.store.perform q).1).run { s with store := (s.store.perform q).2 } := rfl
      have hrest := ih (s.store.perform q).1 (hnext _)
        (s := { s with store := (s.store.perform q).2 }) hfaults
      have hstore : (s.facing f).store = s.store.facing f := rfl
      rw [hrun, hrun, hstore, hperform]
      exact hrest

namespace Worker

variable {lockTimeout : Duration} {s s' : Session} {row : ResultRow} {g : Registry Body}

/-- A fault that strikes the next results that are written. -/
def resultFault (code message : String) (times : Nat) : Fault :=
  ⟨.insertResult, code, message, times, 0⟩

section Struck

variable {code message : String} {times : Nat}

/-- Control statements pass. -/
lemma perform_control {st : Store} (hfaults : st.faults = [resultFault code message times])
    (c : Control) : st.perform (.control c) =
      (.ok (), (st.counted [resultFault code message times]).controlled c) := by
  have hne : ∀ f ∈ st.faults, (Statement.control c).point ≠ some f.point := by
    intro f hf
    rw [hfaults] at hf
    obtain rfl := List.mem_singleton.mp hf
    cases c <;> exact nofun
  rw [Store.perform_of_ne hne, hfaults]
  rfl

lemma ends_passing {c : Control} {ok : Unit → Session → Prop} {error : StoreError → Session → Prop}
    (hfaults : s.store.faults = [resultFault code message times])
    (hok : ∀ s', s'.store = (s.store.counted [resultFault code message times]).controlled c →
      ok () s') : (Attempt.control c).Ends s ok error := by
  refine Attempt.ends_send.mpr ?_
  rw [perform_control hfaults]
  exact hok _ rfl

/-- The fault strikes a result, and strikes once less. -/
lemma ends_struck {ok : ResultRow → Session → Prop} {error : StoreError → Session → Prop}
    (hfaults : s.store.faults = [resultFault code message (times + 1)])
    (herror : ∀ s', s'.store = s.store.counted [resultFault code message times] →
      error (.refused (some code) message) s') :
    (Attempt.query (.insertResult row)).Ends s ok error := by
  refine Attempt.ends_send.mpr ?_
  have hperform : s.store.perform (.query (.insertResult row)) =
      (.error (.refused (some code) message),
        s.store.counted [resultFault code message times]) := by
    simp only [Store.perform, hfaults]
    rfl
  rw [hperform]
  exact herror _ rfl

/-- A result that the fault strikes is not written. -/
lemma tryWrite_struck
    (hfaults : s.store.faults = [resultFault code message (times + 1)]) :
    (tryWrite lockTimeout row).Ends s (fun _ _ => False) fun fault s' =>
      fault = .refused (some code) message ∧ s'.store.tables = s.store.tables ∧
        s'.store.saved = none ∧ s'.store.faults = [resultFault code message times] := by
  refine (Attempt.ends_bind _ _).mpr (ends_passing hfaults fun s₁ hs₁ => ?_)
  refine (Attempt.ends_orAbandon _).mpr ((Attempt.ends_bind _ _).mpr
    (ends_passing (by rw [hs₁]; rfl) fun s₂ hs₂ => ?_))
  refine (Attempt.ends_bind _ _).mpr (ends_passing (by rw [hs₂, hs₁]; rfl) fun s₃ hs₃ => ?_)
  refine (Attempt.ends_bind _ _).mpr ((Attempt.ends_bind _ _).mpr ((Attempt.ends_timed _ _).mpr
    (ends_struck (by rw [hs₃, hs₂, hs₁]; rfl) fun s₄ hs₄ => ?_)))
  rw [Session.store_measured, perform_control (by rw [hs₄]; rfl), hs₄, hs₃, hs₂, hs₁]
  exact ⟨rfl, rfl, rfl, rfl⟩

/-- A transient fault that strikes every attempt prevents the record of a result. -/
lemma writeWithin_struck (hcode : code ∈ StoreError.transientCodes) (attempts : Nat)
    (hsaved : s.store.saved = none)
    (hfaults : s.store.faults = [resultFault code message (attempts + 1)]) :
    (writeWithin lockTimeout row attempts).Ends s fun outcome s' =>
      outcome = .error (.refused (some code) message) ∧ s'.store.tables = s.store.tables ∧
        s'.store.saved = none := by
  induction attempts generalizing s with
  | zero =>
      refine (Script.ends_bind _ _).mpr (Script.Ends.mono (tryWrite_struck hfaults)
        fun outcome s' h => ?_)
      cases outcome with
      | ok _ => exact h.elim
      | error fault =>
          obtain ⟨rfl, htables, hclosed, -⟩ := h
          exact (Script.ends_bind _ _).mpr ((Script.ends_log _).mpr ((Script.ends_pure _).mpr
            ⟨rfl, htables, hclosed⟩))
  | succ attempts ih =>
      refine (Script.ends_bind _ _).mpr (Script.Ends.mono (tryWrite_struck hfaults)
        fun outcome s' h => ?_)
      cases outcome with
      | ok _ => exact h.elim
      | error fault =>
          obtain ⟨rfl, htables, hclosed, hfaults'⟩ := h
          have htransient : (StoreError.refused (some code) message).isTransient = true :=
            List.contains_iff_mem.mpr hcode
          dsimp only
          rw [if_pos htransient]
          refine (Script.ends_bind _ _).mpr ((Script.ends_log _).mpr ?_)
          have hretry := ih (s := s'.logged .resultRetried) hclosed hfaults'
          exact hretry.mono fun _ _ h => ⟨h.1, h.2.1.trans htables, h.2.2⟩

lemma record_struck (hcode : code ∈ StoreError.transientCodes) (hsaved : s.store.saved = none)
    (hfaults : s.store.faults = [resultFault code message maxAttempts]) :
    (record lockTimeout row).Ends s (fun _ _ => False) fun fault s' =>
      fault = .refused (some code) message ∧ s'.store.tables = s.store.tables := by
  refine (Script.ends_bind _ _).mpr ((writeWithin_struck hcode _ hsaved hfaults).mono
    fun outcome s' h => ?_)
  obtain ⟨rfl, htables, -⟩ := h
  have htransient : (StoreError.refused (some code) message).isTransient = true :=
    List.contains_iff_mem.mpr hcode
  dsimp only
  rw [if_pos (.inr htransient)]
  exact (Script.ends_pure _).mpr ⟨rfl, htables⟩

/-- A claim takes a due entry, as the fault does not concern it. -/
lemma claim_facing (lockTimeout : Duration) (hsaved : s.store.saved = none)
    (hfaults : s.store.faults = [resultFault code message times])
    (hdue : ∃ entry ∈ s.store.tables.queue, entry.Due s.now.stored) :
    ∃ entry ∈ s.store.tables.queue, ∃ s₀,
      (claim lockTimeout).run.run s = (.ok (.ok (some entry)), s₀) ∧
      s₀.store.tables = s.store.tables.without entry.id ∧ s₀.store.saved = none ∧
      s₀.store.faults = [resultFault code message times] := by
  let clear : Session := { s with store := { s.store with faults := [] } }
  have hs : s = clear.facing (resultFault code message times) := by
    show s = { s with store := { s.store with faults := [resultFault code message times] } }
    rw [← hfaults]
  have honly : (claim lockTimeout).Only fun q =>
      q.point ≠ some (resultFault code message times).point :=
    claim_only (fun c => by cases c <;> exact nofun) fun _ => nofun
  obtain ⟨taken, s₀, hclaim, htaken⟩ := claim_ends lockTimeout (s := clear) hsaved
  have hrun := honly.run_facing (s := clear) rfl
  rw [← hs, hclaim] at hrun
  cases taken with
  | error fault => exact absurd rfl htaken.1
  | ok taken =>
      obtain ⟨-, hnone, -⟩ | ⟨entry, hmem, -, rfl, hleaves⟩ := htaken
      · obtain ⟨entry, hmem, hentry⟩ := hdue
        rw [List.eq_nil_iff_forall_not_mem] at hnone
        exact absurd ((Tables.mem_due _).mpr ⟨hmem, hentry⟩) (hnone entry)
      · exact ⟨entry, hmem, _, hrun, hleaves.tables, hleaves.saved, rfl⟩

/-- A body that leaves the store alone is followed by the record of a row for its entry. -/
lemma execute_quiet {r : Registration Body} (entry : Entry) (hbody : r.body.Quiet) :
    (execute r entry).Ends s fun row s' => row.id = entry.id ∧ s'.store = s.store := by
  obtain ⟨ending, s₁, hrun, hstore⟩ := hbody (contextOf r entry) (begun s)
  refine (Script.ends_bind _ _).mpr (Script.ends_now.mpr ((Script.ends_bind _ _).mpr
    ((Script.ends_log _).mpr ((Script.ends_bind _ _).mpr ⟨ending, s₁, hrun, ?_⟩))))
  refine (Script.ends_bind _ _).mpr ((Script.ends_record _).mpr ((Script.ends_bind _ _).mpr
    ((Script.ends_log _).mpr ((Script.ends_pure _).mpr ⟨?_, hstore⟩))))
  cases ending <;> rfl

/-- Three transient faults are enough for an entry of a known job to be lost. -/
lemma lost_of_struck (hsaved : s.store.saved = none)
    (hfaults : s.store.faults = [resultFault code message maxAttempts])
    (hcode : code ∈ StoreError.transientCodes)
    (hbodies : ∀ r ∈ g.jobs, r.body.Quiet)
    (hknown : ∀ entry ∈ s.store.tables.queue, (g.find? entry.jobName).isSome)
    (hdue : ∃ entry ∈ s.store.tables.queue, entry.Due s.now.stored) :
    ∃ entry ∈ s.store.tables.queue, ∃ s',
      (runOnce g lockTimeout).run s =
        (.ok (.error (.store (.refused (some code) message))), s') ∧
      s'.store.tables = s.store.tables.without entry.id := by
  obtain ⟨entry, hmem, s₀, hclaim, htables, hclosed, hfaults⟩ :=
    claim_facing lockTimeout hsaved hfaults hdue
  obtain ⟨r, hr⟩ := Option.isSome_iff_exists.mp (hknown entry hmem)
  obtain ⟨row, s₁, hexecute, -, hstore⟩ :=
    execute_quiet (s := s₀) entry (hbodies r (List.mem_of_find?_eq_some hr))
  have hrecords : (record lockTimeout row).Ends s₁ (fun _ _ => False) fun fault s' =>
      fault = .refused (some code) message ∧ s'.store.tables = s₁.store.tables :=
    record_struck hcode (hstore ▸ hclosed) (hstore ▸ hfaults)
  obtain ⟨recorded, s', hrecord, hended⟩ := hrecords
  cases recorded with
  | ok kept => exact hended.elim
  | error fault =>
      obtain ⟨rfl, htables'⟩ := hended
      refine ⟨entry, hmem, s', run_of_record_error ⟨s₀, r, hclaim, hr, hexecute⟩ hrecord, ?_⟩
      rw [htables', hstore, htables]

end Struck

/-- **Lost entries**.  A round that ends with an error has lost nothing exactly if the body makes up
for every record that is given up.  Bodies that leave the store alone make up for nothing: three
transient faults at the record, and the entry is neither in the queue nor among the results. -/
theorem loses_iff_gives_up (g : Registry Body) (lockTimeout : Duration) (s : Session)
    (hsaved : s.store.saved = none) (hbodies : ∀ r ∈ g.jobs, r.body.Closes) :
    (LosesNothing g lockTimeout s ↔ MakesUp g lockTimeout s) ∧
    (∀ code message : String, s.store.faults = [resultFault code message maxAttempts] →
      code ∈ StoreError.transientCodes → (∀ r ∈ g.jobs, r.body.Quiet) →
      (∀ entry ∈ s.store.tables.queue, (g.find? entry.jobName).isSome) →
      (∃ entry ∈ s.store.tables.queue, entry.Due s.now.stored) →
      ∃ entry ∈ s.store.tables.queue, ∃ fault s',
        (runOnce g lockTimeout).run s = (.ok (.error fault), s') ∧
        (∀ e ∈ s'.store.tables.queue, e.id ≠ entry.id) ∧
        s'.store.tables.results = s.store.tables.results) := by
  refine ⟨losesNothing_iff hsaved hbodies, fun code message hfaults hcode hquiet hknown hdue => ?_⟩
  obtain ⟨entry, hmem, s', hrun, htables⟩ :=
    lost_of_struck hsaved hfaults hcode hquiet hknown hdue
  refine ⟨entry, hmem, _, s', hrun, fun e he => ?_, by rw [htables]; rfl⟩
  rw [htables] at he
  exact (Tables.mem_without.mp he).2

/-! ### A job that does nothing -/

/-- A job whose body does nothing. -/
def idleJob : Registration Body := ⟨"idle", none, .none, Body.ending (.returned .null)⟩

/-- An entry of the job waits, and the next three results fail to be written. -/
def struckSession : Session :=
  .still { Store.new with
    tables := { Tables.empty with
      queue := [⟨.drawn 0, "idle", none, Json.emptyObject, none, none, 0⟩] }
    faults := [resultFault "40001" "could not serialize access" 3] } (.ofSecs 0)

lemma idleJob_quiet : ∀ r ∈ (⟨[idleJob]⟩ : Registry Body).jobs, r.body.Quiet := by
  intro r hr c s
  obtain rfl := List.mem_singleton.mp hr
  exact (Script.ends_pure _).mpr rfl

lemma idleJob_closes : ∀ r ∈ (⟨[idleJob]⟩ : Registry Body).jobs, r.body.Closes := by
  intro r hr c s ending s' hsaved hrun
  obtain rfl := List.mem_singleton.mp hr
  obtain rfl : s = s' := (Prod.mk.inj hrun).2
  exact hsaved

theorem loses_iff_gives_up_idle :
    (LosesNothing ⟨[idleJob]⟩ (.ofSecs 5) struckSession ↔
      MakesUp ⟨[idleJob]⟩ (.ofSecs 5) struckSession) ∧
    ∃ entry ∈ struckSession.store.tables.queue, ∃ fault s',
      (runOnce ⟨[idleJob]⟩ (.ofSecs 5)).run struckSession = (.ok (.error fault), s') ∧
      (∀ e ∈ s'.store.tables.queue, e.id ≠ entry.id) ∧
      s'.store.tables.results = struckSession.store.tables.results :=
  have hidle := loses_iff_gives_up ⟨[idleJob]⟩ (.ofSecs 5) struckSession rfl idleJob_closes
  ⟨hidle.1, hidle.2 "40001" "could not serialize access" rfl (by decide) idleJob_quiet (by decide)
    ⟨_, .head _, by decide⟩⟩

/-- The round ends with an error, and nothing is left of the entry. -/
lemma idle_struck : ∃ fault s',
    (runOnce ⟨[idleJob]⟩ (.ofSecs 5)).run struckSession = (.ok (.error fault), s') ∧
    s'.store.tables.queue = [] ∧ s'.store.tables.results = [] :=
  ⟨_, _, rfl, by decide +kernel, by decide +kernel⟩

theorem loses_entry : ¬ LosesNothing ⟨[idleJob]⟩ (.ofSecs 5) struckSession := by
  intro h
  obtain ⟨fault, s', hrun, hqueue, hresults⟩ := idle_struck
  obtain hsame | ⟨entry, s₀, -, row, hrow, -⟩ := h fault s' hrun
  · rw [hqueue] at hsame
    cases hsame
  · rw [hresults] at hrow
    cases hrow

end Worker

end JobDispatch
