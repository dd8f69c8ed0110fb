import JobDispatch.Proofs.Script.Server
import JobDispatch.Proofs.Work.Loss

/-!
How results are written again.

Nothing is assumed about the server, so that the transactions that write a result may be answered
in any order of successes and errors.

* `Worker.Writes`: results written one after the other, each by a transaction of its own.
* `Worker.Retried`: a result is written until an answer is final, at most so many times.
* `Worker.Recording`: a result is written so, and if it is a success that is refused for good, a
  failure in its place is written so too.
* `Worker.committed`: the rows of the writes that were answered with success. In the store of a
  session these are the rows that are added (`Worker.Writes.leaves`).
* `Worker.recording_follows_answers`: what a round writes, and what it ends with.
* `Worker.scripted`: a server for any sequence of answers (`Worker.writes_scripted`).
-/

namespace JobDispatch

/-- The three codes after which a retry is of use. -/
lemma StoreError.isTransient_iff {fault : StoreError} : fault.isTransient = true ↔
    ∃ code message, fault = .refused (some code) message ∧ code ∈ ["55P03", "40001", "40P01"] := by
  constructor
  · intro h
    cases fault with
    | refused code message =>
        cases code with
        | none => cases h
        | some code => exact ⟨code, message, rfl, List.contains_iff_mem.mp h⟩
    | _ => cases h
  · rintro ⟨code, message, rfl, hcode⟩
    exact List.contains_iff_mem.mpr hcode

namespace Worker

/-- What comes of a transaction that writes a result. -/
abbrev Answer := Except StoreError Unit

variable {σ : Type} {S : Server σ} {s s' s'' : σ} {lockTimeout : Duration} {row : ResultRow}
  {log log' : List (ResultRow × Answer)} {earlier : List StoreError} {fault : StoreError}
  {last : Answer} {bound : ℕ}

/-- Results are written one after the other, each by a transaction of its own. -/
inductive Writes (S : Server σ) (lockTimeout : Duration) :
    σ → List (ResultRow × Answer) → σ → Prop
  | nil (s : σ) : Writes S lockTimeout s [] s
  | cons {s s' s'' : σ} {row : ResultRow} {answer : Answer} {log : List (ResultRow × Answer)}
      (write : (tryWrite lockTimeout row).run.serve S s = (.ok answer, s'))
      (rest : Writes S lockTimeout s' log s'') : Writes S lockTimeout s ((row, answer) :: log) s''

lemma Writes.append (h : Writes S lockTimeout s log s') (h' : Writes S lockTimeout s' log' s'') :
    Writes S lockTimeout s (log ++ log') s'' := by
  induction h with
  | nil s => exact h'
  | cons write rest ih => exact .cons write (ih h')

/-- The row is written once after each of the earlier errors, and then for the last time. -/
def tries (row : ResultRow) (earlier : List StoreError) (last : Answer) :
    List (ResultRow × Answer) :=
  earlier.map (fun fault => (row, .error fault)) ++ [(row, last)]

/-- A write is repeated after transient errors only, and only while fewer than `bound` have been
made; it is not given up before. -/
structure Retried (bound : ℕ) (earlier : List StoreError) (last : Answer) : Prop where
  transient : ∀ fault ∈ earlier, fault.isTransient = true
  few : earlier.length < bound
  stops : ∀ fault, last = .error fault → fault.isTransient = true → earlier.length + 1 = bound

namespace Retried

/-- The first answer is final. -/
lemma once (hfinal : ∀ fault, last = .error fault → fault.isTransient = false) (bound : ℕ) :
    Retried (bound + 1) [] last where
  transient := nofun
  few := Nat.succ_pos bound
  stops := fun fault hlast htransient => by rw [hfinal fault hlast] at htransient; cases htransient

/-- Only one attempt is allowed. -/
lemma exhausted (last : Answer) : Retried 1 [] last where
  transient := nofun
  few := Nat.one_pos
  stops := fun _ _ _ => rfl

lemma again (hfault : fault.isTransient = true) (h : Retried bound earlier last) :
    Retried (bound + 1) (fault :: earlier) last where
  transient := List.forall_mem_cons.mpr ⟨hfault, h.transient⟩
  few := Nat.succ_lt_succ h.few
  stops := fun fault' hlast htransient => congrArg (· + 1) (h.stops fault' hlast htransient)

end Retried

/-- What is written to record a result, and the row that is kept in the end, or the error. -/
inductive Recording (row : ResultRow) :
    List (ResultRow × Answer) → Except StoreError ResultRow → Prop
  /-- Only the result itself is written. -/
  | alone {earlier : List StoreError} {last : Answer}
      (tried : Retried maxAttempts earlier last)
      (final : ∀ fault, last = .error fault → row.isError = true ∨ fault.isTransient = true) :
      Recording row (tries row earlier last) (last.map fun _ => row)
  /-- The result is a success, which the store refuses for good. -/
  | replaced {earlier earlier' : List StoreError} {fault : StoreError} {last : Answer}
      (tried : Retried maxAttempts earlier (.error fault)) (success : row.isError = false)
      (refused : fault.isTransient = false) (tried' : Retried maxAttempts earlier' last) :
      Recording row (tries row earlier (.error fault) ++ tries (unstorable row fault) earlier' last)
        (last.map fun _ => unstorable row fault)

/-! ### Rows -/

/-- The rows of the writes that were answered with success. -/
def committed (log : List (ResultRow × Answer)) : List ResultRow :=
  (log.filter fun w => w.2.isOk).map Prod.fst

lemma committed_append (log log' : List (ResultRow × Answer)) :
    committed (log ++ log') = committed log ++ committed log' := by
  rw [committed, List.filter_append, List.map_append, committed, committed]

/-- Only the last attempt can be a success. -/
lemma committed_tries (row : ResultRow) (earlier : List StoreError) (last : Answer) :
    committed (tries row earlier last) = (last.map fun _ => row).toOption.toList := by
  have hearlier : committed (earlier.map fun fault => (row, .error fault)) = [] := by
    rw [committed, List.map_eq_nil_iff, List.filter_eq_nil_iff]
    intro w hw
    obtain ⟨fault, -, rfl⟩ := List.mem_map.mp hw
    exact Bool.false_ne_true
  rw [tries, committed_append, hearlier, List.nil_append]
  cases last <;> rfl

namespace Recording

variable {outcome : Except StoreError ResultRow}

/-- One row is committed, which is the one that is kept, or none. -/
lemma committed_eq (h : Recording row log outcome) : committed log = outcome.toOption.toList := by
  cases h with
  | alone tried final => exact committed_tries row _ _
  | replaced tried success refused tried' =>
      rw [committed_append, committed_tries, committed_tries]
      rfl

/-- The last answer is what the record ends with. -/
lemma getLast?_eq (h : Recording row log outcome) :
    log.getLast?.map Prod.snd = some (outcome.map fun _ => ()) := by
  have hlast (row kept : ResultRow) (front : List (ResultRow × Answer))
      (earlier : List StoreError) (last : Answer) :
      (front ++ tries row earlier last).getLast?.map Prod.snd =
        some ((last.map fun _ => kept).map fun _ => ()) := by
    rw [tries, ← List.append_assoc, List.getLast?_append_of_ne_nil _ (List.cons_ne_nil _ _)]
    cases last <;> rfl
  cases h with
  | alone tried final => exact hlast row row [] _ _
  | replaced tried success refused tried' => exact hlast _ _ _ _ _

end Recording

/-! ### Records -/

lemma tryWrite_total (lockTimeout : Duration) (row : ResultRow) :
    (tryWrite lockTimeout row).run.Total :=
  Attempt.total_committed (Attempt.total_bind (Attempt.total_timed (Attempt.total_send _) _)
    fun _ => Attempt.total_pure _) lockTimeout

/-- A result is written as often as transient errors and the bound ask for. -/
lemma writeWithin_serve (S : Server σ) (lockTimeout : Duration) (row : ResultRow) (attempts : ℕ)
    (s : σ) : ∃ earlier last s', (writeWithin lockTimeout row attempts).serve S s = (.ok last, s') ∧
      Writes S lockTimeout s (tries row earlier last) s' ∧
      Retried (attempts + 1) earlier last := by
  induction attempts generalizing s with
  | zero =>
      obtain ⟨answer, s', hwrite⟩ := (tryWrite_total lockTimeout row).serve S s
      refine ⟨[], answer, s', ?_, .cons hwrite (.nil s'), .exhausted answer⟩
      rw [writeWithin, Script.serve_bind, hwrite]
      cases answer <;> rfl
  | succ attempts ih =>
      obtain ⟨answer, s', hwrite⟩ := (tryWrite_total lockTimeout row).serve S s
      rw [writeWithin, Script.serve_bind, hwrite]
      cases answer with
      | ok _ =>
          refine ⟨[], .ok (), s', rfl, .cons hwrite (.nil s'), .once (fun fault hfault => ?_) _⟩
          cases hfault
      | error fault =>
          dsimp only
          by_cases htransient : fault.isTransient = true
          · obtain ⟨earlier, last, s'', hserve, hwrites, hretried⟩ := ih s'
            refine ⟨fault :: earlier, last, s'', ?_, .cons hwrite hwrites,
              hretried.again htransient⟩
            rw [if_pos htransient, Script.serve_bind]
            exact hserve
          · refine ⟨[], .error fault, s', ?_, .cons hwrite (.nil s'), .once ?_ _⟩
            · rw [if_neg htransient]
              rfl
            · intro fault' hfault'
              rw [← Except.error.inj hfault']
              exact Bool.eq_false_iff.mpr htransient

/-- A result is recorded as the answers ask for. -/
lemma record_serve (S : Server σ) (lockTimeout : Duration) (row : ResultRow) (s : σ) :
    ∃ log outcome s', (record lockTimeout row).run.serve S s = (.ok outcome, s') ∧
      Writes S lockTimeout s log s' ∧ Recording row log outcome := by
  obtain ⟨earlier, last, s', hserve, hwrites, htried⟩ :=
    writeWithin_serve S lockTimeout row (maxAttempts - 1) s
  rw [record, ExceptT.run_mk, Script.serve_bind, writeResult, hserve]
  cases last with
  | ok _ =>
      refine ⟨_, .ok row, s', rfl, hwrites, .alone htried fun fault hfault => ?_⟩
      cases hfault
  | error fault =>
      dsimp only
      by_cases hfinal : row.isError = true ∨ fault.isTransient = true
      · rw [if_pos hfinal]
        refine ⟨_, .error fault, s', rfl, hwrites, .alone htried fun fault' hfault' => ?_⟩
        rw [← Except.error.inj hfault']
        exact hfinal
      · rw [if_neg hfinal]
        obtain ⟨hsuccess, hrefused⟩ := not_or.mp hfinal
        obtain ⟨earlier', last', s'', hserve', hwrites', htried'⟩ :=
          writeWithin_serve S lockTimeout (unstorable row fault) (maxAttempts - 1) s'
        refine ⟨_, last'.map fun _ => unstorable row fault, s'', ?_, hwrites.append hwrites',
          .replaced htried (Bool.eq_false_iff.mpr hsuccess) (Bool.eq_false_iff.mpr hrefused)
            htried'⟩
        rw [Script.serve_bind, writeResult, hserve']
        cases last' <;> rfl

/-! ### Sessions -/

/-- The tables with more results. -/
def recordingAll (t : Tables) (rows : List ResultRow) : Tables :=
  { t with results := t.results ++ rows.map Tables.storedResult }

/-- A write adds its row if it is committed, and nothing else changes. -/
lemma leaves_of_write {s s' : Session} {answer : Answer} (hsaved : s.store.saved = none)
    (hwrite : (tryWrite lockTimeout row).run.serve Session.alone s = (.ok answer, s')) :
    s.Leaves s' (recordingAll s.store.tables (committed [(row, answer)])) := by
  obtain ⟨journal, hrun⟩ := (tryWrite lockTimeout row).run.run_eq_serve s s.journal
  rw [hwrite] at hrun
  have hended : Written s row answer { s' with journal } := (tryWrite_leaves hsaved).of_run hrun
  cases answer with
  | ok _ =>
      have hleaves : s.Leaves { s' with journal } (s.store.tables.recording row) := hended
      exact ⟨hleaves.clock, hleaves.tables, hleaves.saved, hleaves.turn, hleaves.faults⟩
  | error fault =>
      have hleaves : s.Leaves { s' with journal } s.store.tables := hended
      refine ⟨hleaves.clock, ?_, hleaves.saved, hleaves.turn, hleaves.faults⟩
      exact hleaves.tables.trans (congrArg (Tables.mk _ · _) (List.append_nil _).symm)

/-- In the store of a session the rows that are committed are added, and nothing else changes. -/
lemma Writes.leaves {s s' : Session} (h : Writes Session.alone lockTimeout s log s')
    (hsaved : s.store.saved = none) :
    s.Leaves s' (recordingAll s.store.tables (committed log)) := by
  induction h with
  | nil s =>
      have hself := Session.leaves_self hsaved
      have hnone : recordingAll s.store.tables [] = s.store.tables :=
        congrArg (Tables.mk _ · _) (List.append_nil _)
      exact hnone.symm ▸ hself
  | @cons s s' s'' row answer log write rest ih =>
      have hfirst := leaves_of_write hsaved write
      have hleaves := (ih hfirst.saved).after hfirst
      rw [hfirst.tables, recordingAll, recordingAll, List.append_assoc, ← List.map_append,
        ← committed_append] at hleaves
      exact hleaves

/-! ### Rounds -/

variable {g : Registry Body} {entry : Entry} {r : Registration Body} {s₀ s₁ : σ} {ending : Ending}

/-- A body that has ended gives the row of its ending. -/
lemma execute_serve
    (hbody : (r.body (contextOf r entry)).serve S (S.read s₀).2 = (.ok ending, s₁)) :
    (execute r entry).serve S s₀ = (.ok (resultOf entry (S.read s₀).1 ending).2, s₁) := by
  have hserve : (execute r entry).serve S s₀ = (r.body (contextOf r entry) >>= fun ending => do
      Script.record (.jobTimed entry.jobName)
      Script.log (resultOf entry (S.read s₀).1 ending).1
      pure (resultOf entry (S.read s₀).1 ending).2).serve S (S.read s₀).2 := rfl
  rw [hserve, Script.serve_bind, hbody]
  rfl

/-- A round that has claimed an entry of a known job executes it and records the result. -/
lemma runOnce_serve (hclaim : (claim lockTimeout).run.serve S s = (.ok (.ok (some entry)), s₀))
    (hr : g.find? entry.jobName = some r) :
    (runOnce g lockTimeout).serve S s =
      (execute r entry >>= concluding lockTimeout entry).serve S s₀ := by
  have hrest : (runOnce g lockTimeout).serve S s = ((Task.claimed g lockTimeout entry).left >>=
      fun outcome => pure (outcome.mapError .store)).serve S s₀ := by
    rw [Task.runOnce_eq_left, Script.serve_bind, Script.serve_bind, Task.left, ExceptT.run_bind,
      Script.serve_bind, hclaim]
    rfl
  have hstart : Task.start g lockTimeout entry =
      .running lockTimeout entry (execute r entry) := by rw [Task.start, hr]
  rw [hrest, Task.left_start hr, hstart, Task.left_running, bind_assoc]
  rfl

/-- The record of a result decides what the round ends with. -/
lemma concluding_serve (S : Server σ) (lockTimeout : Duration) (entry : Entry) (row : ResultRow)
    (s : σ) : ∃ log outcome s', Writes S lockTimeout s log s' ∧ Recording row log outcome ∧
      (concluding lockTimeout entry row).serve S s =
        (.ok ((outcome.map fun kept => some (.ofResult entry kept)).mapError .store), s') := by
  obtain ⟨log, outcome, s', hrecord, hwrites, hrecording⟩ := record_serve S lockTimeout row s
  refine ⟨log, outcome, s', hwrites, hrecording, ?_⟩
  rw [concluding, Script.serve_bind, ExceptT.run_bind, Script.serve_bind, hrecord]
  cases outcome <;> rfl

/-- A row is a success exactly if the body has returned. -/
lemma isError_resultOf (entry : Entry) (executedAt : Instant) (ending : Ending) :
    (resultOf entry executedAt ending).2.isError = false ↔ ∃ v, ending = .returned v := by
  cases ending with
  | returned v => exact ⟨fun _ => ⟨v, rfl⟩, fun _ => rfl⟩
  | _ =>
      constructor
      · intro h
        cases h
      · rintro ⟨v, h⟩
        cases h

/-- **Recording follows the answers.** A server may answer the transactions that write results in
any way. Once a round has claimed an entry of a known job and its body has ended, it writes the
result one to three times, again exactly after transient errors. If the body has returned and the
last answer is an error that is not transient, it writes a failure in place of the result, in the
same way. At most one row is committed, and the round succeeds exactly if one is, with the outcome
that this row stands for; otherwise it ends with the error of the last answer. The store of a
session that runs alone is such a server, and what is committed there is added to the results. -/
theorem recording_follows_answers (S : Server σ)
    (hclaim : (claim lockTimeout).run.serve S s = (.ok (.ok (some entry)), s₀))
    (hr : g.find? entry.jobName = some r)
    (hbody : (r.body (contextOf r entry)).serve S (S.read s₀).2 = (.ok ending, s₁)) :
    (∃ log outcome s', Writes S lockTimeout s₁ log s' ∧
      Recording (resultOf entry (S.read s₀).1 ending).2 log outcome ∧
      (runOnce g lockTimeout).serve S s =
        (.ok ((outcome.map fun kept => some (.ofResult entry kept)).mapError .store), s') ∧
      committed log = outcome.toOption.toList ∧
      log.getLast?.map Prod.snd = some (outcome.map fun _ => ())) ∧
    ((resultOf entry (S.read s₀).1 ending).2.isError = false ↔ ∃ v, ending = .returned v) ∧
    (∀ row fault, unstorable row fault = { row with
      result := none, errorLog := (unstorable row fault).errorLog, isError := true }) ∧
    (∀ fault : StoreError, fault.isTransient = true ↔ ∃ code message,
      fault = .refused (some code) message ∧ code ∈ ["55P03", "40001", "40P01"]) ∧
    (∀ s : Session,
      ((runOnce g lockTimeout).run s).1 = ((runOnce g lockTimeout).serve Session.alone s).1 ∧
      ((runOnce g lockTimeout).run s).2.store =
        ((runOnce g lockTimeout).serve Session.alone s).2.store) ∧
    ∀ (s s' : Session) (log : List (ResultRow × Answer)), s.store.saved = none →
      Writes Session.alone lockTimeout s log s' →
      s'.store.tables = { s.store.tables with
        results := s.store.tables.results ++ (committed log).map Tables.storedResult } := by
  refine ⟨?_, isError_resultOf _ _ _, fun _ _ => rfl, fun _ => StoreError.isTransient_iff,
    (runOnce g lockTimeout).run_alone,
    fun s s' log hsaved hwrites => (hwrites.leaves hsaved).tables⟩
  obtain ⟨log, outcome, s', hwrites, hrecording, hserve⟩ := concluding_serve S lockTimeout entry
    (resultOf entry (S.read s₀).1 ending).2 s₁
  refine ⟨log, outcome, s', hwrites, hrecording, ?_, hrecording.committed_eq,
    hrecording.getLast?_eq⟩
  rw [runOnce_serve hclaim hr, Script.serve_bind, execute_serve hbody]
  exact hserve

/-! ### Any answers -/

/-- A server that gives the entry to the first claim. The transactions after that get the answers
of a sequence, one each. -/
def scripted (entry : Entry) (answers : ℕ → Answer) : Server (Option ℕ) where
  answer
    | none, .query (.claimNext _) => (.ok (some entry), none)
    | none, .control .commit => (.ok (), some 0)
    | some k, .control .begin => ((answers k), if (answers k).isOk then some k else some (k + 1))
    | some k, .control .commit => (.ok (), some (k + 1))
    | place, .control _ => (.ok (), place)
    | place, .query (.insertResult row) => (.ok row, place)
    | place, .query _ => (.error .poolClosed, place)
  read place := (.ofSecs 946684800, place)

variable {answers : ℕ → Answer}

lemma tryWrite_scripted (lockTimeout : Duration) (row : ResultRow) (k : ℕ) :
    (tryWrite lockTimeout row).run.serve (scripted entry answers) (some k) =
      (.ok (answers k), some (k + 1)) := by
  have hbegin : (Attempt.control .begin).run.serve (scripted entry answers) (some k) =
      (.ok (answers k), if (answers k).isOk then some k else some (k + 1)) := rfl
  rw [tryWrite, Attempt.committed, Attempt.inTransaction, ExceptT.run_bind, Script.serve_bind,
    hbegin]
  cases answers k <;> rfl

/-- Whatever is written is answered as the sequence says, and moves on in it. -/
lemma writes_scripted {k : ℕ} {place : Option ℕ}
    (h : Writes (scripted entry answers) lockTimeout (some k) log place) :
    place = some (k + log.length) ∧ log.map Prod.snd = (List.range' k log.length).map answers := by
  induction log generalizing k with
  | nil =>
      cases h
      exact ⟨rfl, rfl⟩
  | cons w log ih =>
      cases h with
      | cons write rest =>
          rw [tryWrite_scripted, Prod.mk.injEq, Except.ok.injEq] at write
          obtain ⟨rfl, rfl⟩ := write
          obtain ⟨hplace, hanswers⟩ := ih rest
          rw [List.map_cons, List.length_cons, List.range'_succ, List.map_cons, hanswers]
          exact ⟨hplace.trans (by rw [Nat.add_assoc, Nat.add_comm 1]), rfl⟩

/-- A transient error, one for good, another transient one, and successes from then on. -/
def bumpy : ℕ → Answer
  | 0 => .error (.refused (some "40001") "could not serialize access")
  | 1 => .error (.refused (some "22P05") "unsupported Unicode escape sequence")
  | 2 => .error (.refused (some "55P03") "canceling statement due to lock timeout")
  | _ => .ok ()

/-- Two transient errors, and successes from then on. -/
def busy : ℕ → Answer
  | 0 => .error (.refused (some "40001") "could not serialize access")
  | 1 => .error (.refused (some "40P01") "deadlock detected")
  | _ => .ok ()

/-- The entry that the server gives. -/
def idleEntry : Entry := ⟨.drawn 0, "idle", none, Json.emptyObject, none, none, 0⟩

/-- With the first sequence of answers a failure takes the place of the result and is written twice.
With the second one the result is written three times. -/
theorem recording_follows_answers_bumpy :
    (∃ log outcome, Writes (scripted idleEntry bumpy) (.ofSecs 5) (some 0) log (some 4) ∧
      Recording (resultOf idleEntry (.ofSecs 946684800) (.returned .null)).2 log outcome ∧
      log.length = 4 ∧ log.map Prod.snd = (List.range' 0 log.length).map bumpy ∧
      committed log = outcome.toOption.toList ∧
      (runOnce ⟨[idleJob]⟩ (.ofSecs 5)).serve (scripted idleEntry bumpy) none =
        (.ok (.ok (some (.failed (.drawn 0) "idle"))), some 4)) ∧
    ∃ log outcome, Writes (scripted idleEntry busy) (.ofSecs 5) (some 0) log (some 3) ∧
      Recording (resultOf idleEntry (.ofSecs 946684800) (.returned .null)).2 log outcome ∧
      log.length = 3 ∧ log.map Prod.snd = (List.range' 0 log.length).map busy ∧
      committed log = outcome.toOption.toList ∧
      (runOnce ⟨[idleJob]⟩ (.ofSecs 5)).serve (scripted idleEntry busy) none =
        (.ok (.ok (some (.succeeded (.drawn 0) "idle"))), some 3) := by
  have hscripted (answers : ℕ → Answer) {o : WorkOutcome} {n : ℕ}
      (hround : (runOnce ⟨[idleJob]⟩ (.ofSecs 5)).serve (scripted idleEntry answers) none =
        (.ok (.ok (some o)), some n)) :
      ∃ log outcome, Writes (scripted idleEntry answers) (.ofSecs 5) (some 0) log (some n) ∧
        Recording (resultOf idleEntry (.ofSecs 946684800) (.returned .null)).2 log outcome ∧
        log.length = n ∧ log.map Prod.snd = (List.range' 0 log.length).map answers ∧
        committed log = outcome.toOption.toList ∧
        (runOnce ⟨[idleJob]⟩ (.ofSecs 5)).serve (scripted idleEntry answers) none =
          (.ok (.ok (some o)), some n) := by
    have hclaim : (claim (.ofSecs 5)).run.serve (scripted idleEntry answers) none =
        (.ok (.ok (some idleEntry)), some 0) := rfl
    obtain ⟨⟨log, outcome, s', hwrites, hrecording, hserve, hcommitted, -⟩, -⟩ :=
      recording_follows_answers (scripted idleEntry answers) (g := ⟨[idleJob]⟩) hclaim rfl rfl
    obtain rfl : s' = some n := congrArg Prod.snd (hserve.symm.trans hround)
    obtain ⟨hplace, hanswers⟩ := writes_scripted hwrites
    exact ⟨log, outcome, hwrites, hrecording, by simpa using hplace.symm, hanswers, hcommitted,
      hround⟩
  exact ⟨hscripted bumpy rfl, hscripted busy rfl⟩

end Worker

end JobDispatch
