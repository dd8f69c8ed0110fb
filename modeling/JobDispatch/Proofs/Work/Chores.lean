import JobDispatch.Coordinator.Instance
import JobDispatch.Proofs.Script.Protocol

/-!
What leaves claims and results to the rounds of workers.

Requests, cycles and attempts to lead send no claims and do not touch the results. The job that
deletes old results sends neither claims nor new results, and whatever it deletes is from before one
cutoff.

* `Statement.Spares`: neither a claim nor a change of the results. `Instance.enqueue_spares`,
  `Upkeep.runOnce_spares`, `Upkeep.tick_spares` and `Elector.round_spares` say who sends no others.
* `Statement.Tame`: neither a claim nor a new row of the results, as in `Purge.body_tame`.
* `Purge.deleteOlder_only`: the statements that delete old results.
-/

namespace JobDispatch

namespace Statement

/-- Neither a claim nor a new row of the results. -/
def Tame : Statement → Prop
  | .query (.claimNext _) | .query (.insertResult _) => False
  | _ => True

/-- Neither a claim nor a change of the results. -/
def Spares : Statement → Prop
  | .query (.claimNext _) | .query (.insertResult _) | .query (.deleteResults _ _) => False
  | _ => True

lemma Spares.tame {q : Statement} (h : q.Spares) : q.Tame := by
  cases q with
  | control c => trivial
  | query q => cases q <;> trivial

end Statement

namespace Upkeep

variable {Body : Type}

lemma reconcile_spares (u : Upkeep) (jobName : String) (next now : Instant) :
    (u.reconcile jobName next now).Only Statement.Spares := by
  have hpending : (pending jobName).Only Statement.Spares :=
    (Attempt.only_query trivial).bind fun _ => (Attempt.only_query trivial).timed _
  refine (hpending.bind fun entry => Attempt.Only.bind ?_ fun _ => Attempt.only_pure _).committed
    (fun _ => trivial) _
  cases Plan.make entry next now u.margin with
  | insert instant => exact (Attempt.only_query trivial).bind fun _ => Attempt.only_pure _
  | reschedule id current instant =>
      exact (Attempt.only_query trivial).bind fun _ => Attempt.only_pure _
  | keep => exact Attempt.only_pure _

lemma upsert_spares (u : Upkeep) (r : Registration Body) (now : Instant) :
    (u.upsert r now).Only Statement.Spares := by
  rw [upsert]
  cases r.schedule with
  | none => trivial
  | some schedule =>
      dsimp only
      cases schedule.nextAfter now u.zone with
      | outOfCalendar => trivial
      | never => trivial
      | «at» next => exact u.reconcile_spares r.name next now

lemma goThrough_spares (u : Upkeep) (now : Instant) (report : CycleReport)
    (jobs : List (Registration Body)) : (u.goThrough now report jobs).Only Statement.Spares := by
  induction jobs generalizing report with
  | nil => trivial
  | cons r rest ih =>
      refine Script.Only.bind (u.upsert_spares r now) fun outcome => ?_
      cases notice? outcome with
      | none => exact ih _
      | some n => exact ih _

/-- A cycle. -/
lemma runOnce_spares (u : Upkeep) (g : Registry Body) (now : Instant) :
    (u.runOnce g now).Only Statement.Spares :=
  Script.Only.bind (u.goThrough_spares now .empty g.periodic) fun _ => trivial

end Upkeep

namespace Elector

lemma readLease_spares : readLease.Only Statement.Spares := (Attempt.only_query trivial).timed _

/-- An attempt to lead. -/
lemma round_spares (e : Elector) (wasLeader : Bool) :
    (e.round wasLeader).Only Statement.Spares := by
  have hcontrol (c : Control) : (Attempt.control c).Only Statement.Spares :=
    ⟨trivial, fun _ => trivial⟩
  have hunderLock : e.underLock.Only Statement.Spares := by
    refine (Attempt.only_query trivial).bind fun _ => readLease_spares.bind fun lease => ?_
    refine (Attempt.only_lift Script.only_now).bind fun now => ?_
    cases Lease.decide lease e.instanceId now e.span with
    | yield holder => exact (hcontrol _).bind fun _ => Attempt.only_pure _
    | _ =>
        exact (Attempt.only_query trivial).bind fun _ => (hcontrol _).bind fun _ =>
          Attempt.only_pure _
  have hattempt : (e.electOnce wasLeader).Only Statement.Spares := by
    refine Script.Only.bind (hunderLock.inTransaction (fun _ => trivial) _) fun outcome => ?_
    cases outcome <;> trivial
  refine hattempt.bind fun answer => ?_
  obtain ⟨outcome, leads⟩ := answer
  cases outcome with
  | ok _ => trivial
  | error fault => cases leads <;> trivial

end Elector

/-- A cycle that asks first whether it may run. -/
lemma Upkeep.tick_spares {Body : Type} (u : Upkeep) (g : Registry Body) (e : Elector) :
    (u.tick g e).Only Statement.Spares := by
  have hcheck : e.checkLeader.Only Statement.Spares :=
    Elector.readLease_spares.bind fun _ => (Attempt.only_lift Script.only_now).bind fun _ =>
      Attempt.only_pure _
  have hleads : e.isLeader.Only Statement.Spares := by
    refine Script.Only.bind hcheck fun outcome => ?_
    cases outcome <;> trivial
  refine hleads.bind fun leads => ?_
  cases leads with
  | false => trivial
  | true =>
      refine Script.only_now.bind fun now => ?_
      exact (u.runOnce_spares g now).bind fun _ => trivial

/-- A notice that may be logged first makes no difference. -/
lemma Script.Only.noted {α : Type} {allowed : Statement → Prop} {p : Script α}
    (h : p.Only allowed) (c : Prop) [Decidable c] (n : Notice) :
    (if c then log n >>= fun _ => p else p).Only allowed := by
  by_cases hc : c
  · rw [if_pos hc]
    exact (only_log n).bind fun _ => h
  · rw [if_neg hc]
    exact h

/-- A request for an entry. -/
lemma Instance.enqueue_spares (i : Instance) (r : Request) :
    (i.enqueue r).Only Statement.Spares := by
  rw [enqueue]
  cases r.validate with
  | error fault => trivial
  | ok _ =>
      refine Script.Only.noted (Script.Only.bind (Attempt.only_query trivial) fun outcome => ?_) _ _
      cases outcome <;> trivial

/-! ### Deleting old results -/

namespace Purge

/-- Old results are deleted by statements with one cutoff. -/
lemma deleteOlder_only {allowed : Statement → Prop} {cutoff : Instant} {batch : Int}
    (h : allowed (.query (.deleteResults cutoff batch))) :
    (deleteOlder cutoff batch).Only allowed := by
  have hbatches (room deleted : Nat) : (deleteBatches cutoff batch room deleted).Only allowed := by
    induction room generalizing deleted with
    | zero => trivial
    | succ room ih =>
        refine (Attempt.only_query h).bind fun (count : Nat) => ?_
        dsimp only
        by_cases hlast : (count : Int) < batch
        · rw [if_pos hlast]
          exact Attempt.only_pure _
        · rw [if_neg hlast]
          exact ih _
  exact hbatches _ _

/-- The job that deletes old results. -/
lemma body_tame (retentionDays : Nat) (c : Context) :
    (body retentionDays c).Only Statement.Tame := by
  rw [body, bodyInBatches]
  cases c.store with
  | error refusal => trivial
  | ok _ =>
      refine Script.only_now.bind fun now => ?_
      cases cutoff? now retentionDays with
      | none => trivial
      | some cutoff =>
          refine Script.Only.bind (deleteOlder_only trivial) fun outcome => ?_
          cases outcome <;> trivial

end Purge

end JobDispatch
