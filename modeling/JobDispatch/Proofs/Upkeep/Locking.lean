import JobDispatch.Coordinator.Instance
import JobDispatch.Proofs.Script.Protocol
import JobDispatch.Proofs.Upkeep.Upsert

/-!
How a cycle uses the locks of names.

* `Phase.protocol`: an entry of a guarded job is added only in a transaction that has taken the
  lock of its name, and has then looked for a pending entry and found none.
* `Upkeep.runOnce_follows` and `Upkeep.tick_follows`: cycles keep to this.
* `Worker.runOnce_only`: which statements a round of a worker sends.
-/

namespace JobDispatch

/-- How far a transaction has come on the way to a new entry. -/
inductive Phase where
  | idle
  | opened
  | locked (jobName : String)
  | vacant (jobName : String)
  deriving DecidableEq, Repr

namespace Phase

/-- The phase after a query has been answered. -/
def afterQuery : Phase → (q : Query) → q.Reply → Phase
  | opened, .lockJob jobName, _ => locked jobName
  | locked jobName, .findPending jobName', none =>
    if jobName' = jobName then vacant jobName else idle
  | _, _, _ => idle

/-- The phase after a statement has been answered. -/
def after (x : Phase) : (q : Statement) → Except StoreError q.Reply → Phase
  | .control .begin, .ok _ => opened
  | .control .setIsolation, .ok _ => x
  | .control (.setLockTimeout _), .ok _ => x
  | .query q, .ok reply => x.afterQuery q reply
  | _, _ => idle

/-- An entry of a guarded job is added only when it is known that there is none. -/
def Allows (guarded : String → Prop) (x : Phase) : Statement → Prop
  | .query (.insertEntry jobName _ _) => guarded jobName → x = vacant jobName
  | _ => True

/-- The rules for adding entries of guarded jobs. -/
def protocol (guarded : String → Prop) : Protocol Phase := ⟨Allows guarded, after⟩

end Phase

/-- The statement adds no entry of a guarded job. -/
def Statement.CreatesNone (guarded : String → Prop) : Statement → Prop
  | .query (.insertEntry jobName _ _) => ¬ guarded jobName
  | _ => True

lemma Statement.CreatesNone.allowed {guarded : String → Prop} {q : Statement}
    (h : q.CreatesNone guarded) (x : Phase) : x.Allows guarded q := by
  cases q with
  | control c => trivial
  | query q =>
      cases q with
      | insertEntry jobName t v => exact fun hguarded => absurd hguarded h
      | _ => trivial

/-! ### Cycles -/

namespace Upkeep

variable {Body : Type} {guarded : String → Prop}

/-- The transaction of an upsert adds an entry only under the lock of the name, and only if there is
none. -/
lemma reconcile_follows (u : Upkeep) (jobName : String) (next now : Instant) (x : Phase) :
    (u.reconcile jobName next now).Follows (Phase.protocol guarded) x (fun _ y => y = .idle)
      fun _ y => y = .idle := by
  refine Attempt.follows_committed (fun _ _ => trivial) ?_ (fun _ _ _ _ => rfl) (fun _ => rfl) ?_
  · rintro c y (rfl | ⟨millis, rfl⟩) <;> rfl
  · refine (Attempt.follows_bind _ _).mpr ((Attempt.follows_bind _ _).mpr (Attempt.follows_send.mpr
      ⟨trivial, fun _ => ?_, fun _ _ => rfl⟩))
    refine (Attempt.follows_timed _ _).mpr (Attempt.follows_send.mpr
      ⟨trivial, fun entry => ?_, fun _ _ => rfl⟩)
    refine (Attempt.follows_bind _ _).mpr ?_
    cases hplan : Plan.make entry next now u.margin with
    | insert instant =>
        -- only a job without an entry gets one
        have hnone : entry = none := by
          cases entry with
          | none => rfl
          | some e =>
              obtain ⟨current, hmove⟩ | hkeep := Plan.make_some e next now u.margin
              · rw [hmove] at hplan; cases hplan
              · rw [hkeep] at hplan; cases hplan
        subst hnone
        refine (Attempt.follows_bind _ _).mpr (Attempt.follows_send.mpr
          ⟨fun _ => if_pos rfl, fun _ => ?_, fun _ _ => rfl⟩)
        exact ⟨rfl, fun _ _ => rfl⟩
    | reschedule id current instant =>
        refine (Attempt.follows_bind _ _).mpr (Attempt.follows_send.mpr
          ⟨trivial, fun _ => ?_, fun _ _ => rfl⟩)
        exact ⟨rfl, fun _ _ => rfl⟩
    | keep => exact ⟨rfl, fun _ _ => rfl⟩

lemma upsert_follows (u : Upkeep) (r : Registration Body) (now : Instant) :
    (u.upsert r now).Follows (Phase.protocol guarded) .idle fun _ y => y = .idle := by
  rw [upsert]
  cases r.schedule with
  | none => rfl
  | some schedule =>
      dsimp only
      cases schedule.nextAfter now u.zone with
      | outOfCalendar => trivial
      | never => rfl
      | «at» next =>
          exact (Attempt.follows_iff fun _ y => y = Phase.idle).mp
            (u.reconcile_follows r.name next now .idle)

lemma goThrough_follows (u : Upkeep) (now : Instant) (report : CycleReport)
    (jobs : List (Registration Body)) :
    (u.goThrough now report jobs).Follows (Phase.protocol guarded) .idle fun _ y => y = .idle := by
  induction jobs generalizing report with
  | nil => rfl
  | cons r rest ih =>
      refine (Script.follows_bind _ _).mpr ((u.upsert_follows r now).mono fun outcome y hy => ?_)
      subst hy
      cases notice? outcome with
      | none => exact ih _
      | some n => exact ih _

/-- A cycle adds an entry only under the lock of its name, and only if there is none. -/
lemma runOnce_follows (u : Upkeep) (g : Registry Body) (now : Instant) :
    (u.runOnce g now).Follows (Phase.protocol guarded) .idle fun _ y => y = .idle := by
  refine (Script.follows_bind _ _).mpr ((u.goThrough_follows now .empty g.periodic).mono ?_)
  exact fun report y hy => hy

/-- A cycle that asks first whether it may run. -/
lemma tick_follows (u : Upkeep) (g : Registry Body) (e : Elector) :
    (u.tick g e).Follows (Phase.protocol guarded) .idle fun _ y => y = .idle := by
  have hread : Elector.readLease.Follows (Phase.protocol guarded) .idle (fun _ y => y = .idle)
      fun _ y => y = .idle :=
    (Attempt.follows_timed _ _).mpr (Attempt.follows_send.mpr
      ⟨trivial, fun _ => rfl, fun _ => rfl⟩)
  have hcheck : e.checkLeader.run.Follows (Phase.protocol guarded) .idle fun _ y => y = .idle := by
    refine (Attempt.follows_iff fun _ y => y = Phase.idle).mp
      ((Attempt.follows_bind _ _).mpr (hread.mono (fun lease y hy => ?_) fun _ _ h => h))
    exact (Attempt.follows_bind _ _).mpr ((Attempt.follows_lift _).mpr fun _ => hy)
  refine (Script.follows_bind _ _).mpr ((Script.follows_bind _ _).mpr (hcheck.mono
    fun outcome y hy => ?_))
  subst hy
  cases outcome with
  | error fault => rfl
  | ok leads =>
      cases leads with
      | false => rfl
      | true =>
          refine (Script.follows_bind _ _).mpr fun now => ?_
          refine (Script.follows_bind _ _).mpr ((u.runOnce_follows g now).mono ?_)
          exact fun report y hy => hy

end Upkeep

/-! ### Rounds of workers -/

namespace Worker

variable {allowed : Statement → Prop} {lockTimeout : Duration}

lemma claim_only (hcontrol : ∀ c, allowed (.control c))
    (hclaim : ∀ now, allowed (.query (.claimNext now))) : (claim lockTimeout).Only allowed := by
  refine Attempt.Only.bind (Attempt.Only.committed ?_ hcontrol lockTimeout) fun entry => ?_
  · refine (Attempt.only_lift Script.only_now).bind fun now => ?_
    exact (Attempt.only_query (hclaim now)).timed _
  · cases entry with
    | none => exact Attempt.only_pure _
    | some e => exact (Attempt.only_lift (Script.only_log _)).bind fun _ => Attempt.only_pure _

lemma execute_only {r : Registration Body} {entry : Entry}
    (hbody : (r.body (contextOf r entry)).Only allowed) : (execute r entry).Only allowed := by
  refine Script.only_now.bind fun executedAt => (Script.only_log _).bind fun _ => ?_
  exact hbody.bind fun ending => (Script.only_record _).bind fun _ => trivial

lemma writeWithin_only (hcontrol : ∀ c, allowed (.control c)) {row : ResultRow}
    (hresult : allowed (.query (.insertResult row))) (attempts : Nat) :
    (writeWithin lockTimeout row attempts).Only allowed := by
  have hwrite : (tryWrite lockTimeout row).Only allowed :=
    Attempt.Only.committed (((Attempt.only_query hresult).timed _).bind fun _ =>
      Attempt.only_pure _) hcontrol lockTimeout
  induction attempts with
  | zero =>
      refine Script.Only.bind hwrite fun outcome => ?_
      cases outcome <;> trivial
  | succ attempts ih =>
      refine Script.Only.bind hwrite fun outcome => ?_
      cases outcome with
      | ok _ => trivial
      | error fault =>
          dsimp only
          by_cases h : fault.isTransient = true
          · rw [if_pos h]
            exact (Script.only_log _).bind fun _ => ih
          · rw [if_neg h]
            trivial

/-- To record a result is to insert it, or the failure in its place, in transactions. -/
lemma record_only (hcontrol : ∀ c, allowed (.control c)) {row : ResultRow}
    (hresult : allowed (.query (.insertResult row)))
    (hfailure : ∀ fault, allowed (.query (.insertResult (unstorable row fault)))) :
    (record lockTimeout row).Only allowed := by
  refine Script.Only.bind (writeWithin_only hcontrol hresult _) fun outcome => ?_
  cases outcome with
  | ok _ => trivial
  | error fault =>
      dsimp only
      by_cases h : row.isError = true ∨ fault.isTransient = true
      · rw [if_pos h]
        trivial
      · rw [if_neg h]
        refine Script.Only.bind (writeWithin_only hcontrol (hfailure fault) _) fun outcome => ?_
        cases outcome <;> trivial

/-- A round of a worker sends a claim, what the body sends, and results, in transactions. -/
lemma runOnce_only {g : Registry Body} (hcontrol : ∀ c, allowed (.control c))
    (hclaim : ∀ now, allowed (.query (.claimNext now)))
    (hresult : ∀ row, allowed (.query (.insertResult row)))
    (hbodies : ∀ r ∈ g.jobs, ∀ c, (r.body c).Only allowed) :
    (runOnce g lockTimeout).Only allowed := by
  have hhandle (entry : Entry) : (handle g lockTimeout entry).Only allowed := by
    rw [handle]
    cases hg : g.find? entry.jobName with
    | none =>
        refine (Attempt.only_lift (Script.only_log _)).bind fun _ => ?_
        exact (Attempt.only_lift (Script.only_record _)).bind fun _ => Attempt.only_pure _
    | some r =>
        refine (Attempt.only_lift (execute_only ?_)).bind fun row => ?_
        · exact hbodies r (List.mem_of_find?_eq_some hg) _
        · refine Attempt.Only.bind (record_only hcontrol (hresult row) fun _ => hresult _)
            fun recorded => ?_
          exact (Attempt.only_lift (Script.only_record _)).bind fun _ => Attempt.only_pure _
  refine Script.Only.bind ?_ fun outcome => trivial
  refine Attempt.Only.bind (claim_only hcontrol hclaim) fun entry => ?_
  cases entry with
  | none => exact Attempt.only_pure _
  | some entry => exact (hhandle entry).bind fun outcome => Attempt.only_pure _

end Worker

end JobDispatch
