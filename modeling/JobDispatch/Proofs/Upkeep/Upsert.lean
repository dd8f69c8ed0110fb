import JobDispatch.Proofs.Cron.Levels
import JobDispatch.Proofs.Store.Queue
import JobDispatch.Proofs.Store.Transaction
import JobDispatch.Upkeep.Cycle
import Mathlib.Data.List.Nodup

/-!
What an upsert does to the queue.

* `Tables.planned`: the tables after a plan has been carried out.
* `Tables.Keyed`: no two entries share a key, and new keys are new. Plans keep it
  (`Tables.Keyed.planned`), and they keep the entries of a job single (`Tables.Single.planned`).
* `Upkeep.upsert_ends`: an upsert carries out its plan or, struck by a fault, leaves the tables
  alone.
-/

namespace JobDispatch

/-! ### Plans -/

/-- A pending entry is moved to the next time or kept. -/
lemma Plan.make_some (e : Entry) (next now : Instant) (margin : Span) :
    (∃ current, make (some e) next now margin = .reschedule e.id current next) ∨
      make (some e) next now margin = .keep := by
  rw [make]
  cases e.notBefore with
  | none => exact .inr rfl
  | some current =>
      by_cases hmove : margin < current.since now ∧ current ≠ next
      · exact .inl ⟨current, if_pos hmove⟩
      · exact .inr (if_neg hmove)

/-- An entry is moved only if it is further away than the margin and not at the next time yet. -/
lemma Plan.make_eq_reschedule {pending : Option Entry} {next now current target : Instant}
    {margin : Span} {id : EntryId}
    (h : make pending next now margin = .reschedule id current target) :
    ∃ e, pending = some e ∧ e.id = id ∧ e.notBefore = some current ∧
      margin < current.since now ∧ current ≠ next ∧ target = next := by
  cases pending with
  | none => cases h
  | some e =>
      rw [make] at h
      cases hat : e.notBefore with
      | none => rw [hat] at h; cases h
      | some t =>
          rw [hat] at h
          dsimp only at h
          by_cases hmove : margin < t.since now ∧ t ≠ next
          · rw [if_pos hmove] at h
            obtain ⟨rfl, rfl, rfl⟩ := Plan.reschedule.inj h
            exact ⟨e, rfl, rfl, hat, hmove.1, hmove.2, rfl⟩
          · rw [if_neg hmove] at h
            cases h

namespace Tables

variable {t : Tables} {d : Draw} {name other : String} {next now : Instant} {margin : Span}

/-- The tables after a plan for a job has been carried out. -/
def planned (t : Tables) (d : Draw) (jobName : String) : Plan → Tables
  | .insert next => (t.insertEntry d jobName (some next) Json.emptyObject).2
  | .reschedule id _ next => (t.reschedule id next).2
  | .keep => t

/-- The entry that an upsert adds. -/
def newEntry (d : Draw) (jobName : String) (next : Instant) : Entry :=
  (empty.insertEntry d jobName (some next) Json.emptyObject).1

/-- An upsert adds an entry if the job has none; otherwise it moves one of its entries or leaves
everything as it is. -/
lemma planned_cases (t : Tables) (d : Draw) (name : String) (next now : Instant) (margin : Span) :
    ((∀ e ∈ t.queue, e.jobName ≠ name) ∧
      (t.planned d name (.make (t.pendingOf name) next now margin)).queue =
        t.queue ++ [newEntry d name next]) ∨
    (∃ e ∈ t.queue, e.jobName = name ∧
      (t.planned d name (.make (t.pendingOf name) next now margin)).queue =
        t.queue.map fun a => if a.id = e.id then { a with notBefore := some next.stored } else a) ∨
    (t.planned d name (.make (t.pendingOf name) next now margin)).queue = t.queue := by
  obtain ⟨hnone, hall⟩ | ⟨e, hmem, hname, hsome⟩ := t.pendingOf_cases name
  · rw [hnone]
    exact .inl ⟨hall, rfl⟩
  · rw [hsome]
    obtain ⟨current, hmove⟩ | hkeep := Plan.make_some e next now margin
    · rw [hmove]
      exact .inr (.inl ⟨e, hmem, hname, rfl⟩)
    · rw [hkeep]
      exact .inr (.inr rfl)

/-- Entries have keys of their own, and no key is yet to be drawn. -/
structure Keyed (t : Tables) (turn : Nat) : Prop where
  distinct : (t.queue.map Entry.id).Nodup
  drawn : ∀ e ∈ t.queue, ∀ n, e.id = .drawn n → n ≤ turn

/-- The job has at most one entry. -/
def Single (t : Tables) (jobName : String) : Prop :=
  ∀ e ∈ t.queue, ∀ e' ∈ t.queue, e.jobName = jobName → e'.jobName = jobName → e = e'

lemma Keyed.mono {turn turn' : Nat} (h : t.Keyed turn) (hle : turn ≤ turn') : t.Keyed turn' :=
  ⟨h.distinct, fun e he n hn => Nat.le_trans (h.drawn e he n hn) hle⟩

/-- Entries with the same key are the same. -/
lemma Keyed.eq_of_id {turn : Nat} (h : t.Keyed turn) {e e' : Entry} (he : e ∈ t.queue)
    (he' : e' ∈ t.queue) (hid : e.id = e'.id) : e = e' :=
  List.inj_on_of_nodup_map h.distinct he he' hid

lemma mem_without {id : EntryId} {e : Entry} :
    e ∈ (t.without id).queue ↔ e ∈ t.queue ∧ e.id ≠ id := by
  rw [without, List.mem_filter, decide_eq_true_iff]

/-- The keys that are left when an entry is gone. -/
lemma Keyed.without {turn : Nat} (h : t.Keyed turn) (id : EntryId) : (t.without id).Keyed turn :=
  ⟨h.distinct.sublist (List.filter_sublist.map _), fun e he => h.drawn e (mem_without.mp he).1⟩

/-- An entry that is gone is the only one that is missing in the queue. -/
lemma Keyed.cons_without {turn : Nat} (h : t.Keyed turn) {e : Entry}
    (he : e ∈ t.queue) : (e :: t.queue.filter fun b => b.id ≠ e.id).Perm t.queue :=
  perm_cons_others h.distinct he

/-- A new entry gets a new key. -/
lemma Keyed.inserted {turn : Nat} (h : t.Keyed turn) (hd : turn < d.turn)
    (notBefore : Option Instant) (parameters : Json) :
    (t.insertEntry d name notBefore parameters).2.Keyed d.turn := by
  refine ⟨?_, fun e he n hn => ?_⟩
  · show ((t.queue ++ [_]).map Entry.id).Nodup
    rw [List.map_append, List.nodup_append]
    refine ⟨h.distinct, List.nodup_singleton _, fun id hid id' hid' => ?_⟩
    obtain ⟨e, he, rfl⟩ := List.mem_map.mp hid
    rw [List.mem_singleton.mp hid']
    exact fun heq => absurd (h.drawn e he d.turn heq) (Nat.not_le.mpr hd)
  · rcases List.mem_append.mp he with he | he
    · exact (h.mono (Nat.le_of_lt hd)).drawn e he n hn
    · rw [List.mem_singleton.mp he] at hn
      exact Nat.le_of_eq (EntryId.drawn.inj hn).symm

/-- Upserts give new entries new keys and leave the other keys alone. -/
lemma Keyed.planned {turn : Nat} (h : t.Keyed turn) (hd : turn < d.turn) :
    (t.planned d name (.make (t.pendingOf name) next now margin)).Keyed d.turn := by
  have hkeep := h.mono (Nat.le_of_lt hd)
  obtain ⟨-, hq⟩ | ⟨e, -, -, hq⟩ | hq := t.planned_cases d name next now margin
  · have hinserted : (t.insertEntry d name (some next) Json.emptyObject).2.Keyed d.turn :=
      h.inserted hd _ _
    exact ⟨hq ▸ hinserted.distinct, hq ▸ hinserted.drawn⟩
  · have hid (a : Entry) : (if a.id = e.id then { a with notBefore := some next.stored }
        else a).id = a.id := by
      split <;> rfl
    refine ⟨?_, fun a ha n hn => ?_⟩
    · rw [hq, List.map_map]
      exact (List.map_congr_left fun a _ => hid a) ▸ h.distinct
    · rw [hq] at ha
      obtain ⟨b, hb, rfl⟩ := List.mem_map.mp ha
      exact hkeep.drawn b hb n (hid b ▸ hn)
  · exact ⟨hq ▸ h.distinct, hq ▸ hkeep.drawn⟩

/-- Upserts give no job a second entry. -/
lemma Single.planned (h : t.Single other) :
    (t.planned d name (.make (t.pendingOf name) next now margin)).Single other := by
  intro e he e' he' hname hname'
  obtain ⟨hall, hq⟩ | ⟨moved, -, -, hq⟩ | hq := t.planned_cases d name next now margin
  · rw [hq] at he he'
    rcases List.mem_append.mp he with he | he <;> rcases List.mem_append.mp he' with he' | he'
    · exact h e he e' he' hname hname'
    · rw [List.mem_singleton.mp he'] at hname'
      exact absurd (hname.trans hname'.symm) (hall e he)
    · rw [List.mem_singleton.mp he] at hname
      exact absurd (hname'.trans hname.symm) (hall e' he')
    · rw [List.mem_singleton.mp he, List.mem_singleton.mp he']
  · have hjob (a : Entry) : (if a.id = moved.id then { a with notBefore := some next.stored }
        else a).jobName = a.jobName := by
      split <;> rfl
    rw [hq] at he he'
    obtain ⟨a, ha, rfl⟩ := List.mem_map.mp he
    obtain ⟨a', ha', rfl⟩ := List.mem_map.mp he'
    rw [h a ha a' ha' (hjob a ▸ hname) (hjob a' ▸ hname')]
  · rw [hq] at he he'
    exact h e he e' he' hname hname'

/-- After an upsert an entry is as before, or it is the job's and has the job's next time. -/
lemma mem_planned {turn : Nat} (h : t.Keyed turn) {e : Entry}
    (he : e ∈ (t.planned d name (.make (t.pendingOf name) next now margin)).queue) :
    e ∈ t.queue ∨ e.jobName = name ∧ e.notBefore = some next.stored := by
  obtain ⟨-, hq⟩ | ⟨moved, hmoved, hname, hq⟩ | hq := t.planned_cases d name next now margin
  · rw [hq] at he
    refine (List.mem_append.mp he).imp_right fun he => ?_
    rw [List.mem_singleton.mp he]
    exact ⟨rfl, rfl⟩
  · rw [hq] at he
    obtain ⟨a, ha, rfl⟩ := List.mem_map.mp he
    by_cases hid : a.id = moved.id
    · rw [if_pos hid, h.eq_of_id ha hmoved hid]
      exact .inr ⟨hname, rfl⟩
    · rw [if_neg hid]
      exact .inl ha
  · exact .inl (hq ▸ he)

end Tables

/-! ### Upserts -/

lemma nameRefusal?_eq_none {name : String} (h : nameRefusal? name = none) :
    textRefusal? name = none := by
  rw [nameRefusal?] at h
  cases htext : textRefusal? name with
  | none => rfl
  | some fault => rw [htext] at h; cases h

namespace Upkeep

variable {Body : Type} {u : Upkeep} {s s' : Session} {name : String} {next now : Instant}
  {plan : Plan}

/-- The job is such that its statements can fail: the store has faults or does not take its name. -/
def CanFail (s : Session) (jobName : String) : Prop :=
  s.store.faults ≠ [] ∨ nameRefusal? jobName ≠ none

/-- A query that a store refuses at most for the name of a job. -/
lemma canFail_of_error {q : Query} {fault : StoreError}
    (hfaults : s.store.faults = [] → s'.store.faults = [])
    (hrefusal : nameRefusal? name = none → q.refusal? = none)
    (hanswer : ∀ (t : Tables) d, ∃ answer, t.answer d q = .ok answer)
    (h : s'.store.faults ≠ [] ∨ ∃ d, s'.store.tables.apply d q = .error fault) :
    CanFail s name := by
  obtain hne | ⟨d, hrefused⟩ := h
  · exact .inl (hne ∘ hfaults)
  · refine .inr fun hname => ?_
    obtain ⟨answer, hok⟩ := hanswer s'.store.tables d
    rw [Tables.apply, hrefusal hname, hok] at hrefused
    cases hrefused

/-- Under the lock of the name an upsert sees the pending entry. -/
lemma pending_ends (h : s.Opens s') :
    (pending name).Ends s'
      (fun entry s'' => entry = s.store.tables.pendingOf name ∧ s.Opens s'' ∧
        s.store.turn < s''.store.turn)
      fun _ s'' => CanFail s name ∧ s.Restores s'' := by
  refine (Attempt.ends_bind _ _).mpr (Attempt.ends_query (fun d reply s₁ hlock hs₁ => ?_)
    fun fault s₁ herror hkeeps => ⟨?_, (h.trans hkeeps).restores⟩)
  · have ht : s'.store.tables = s₁.store.tables := by
      have hanswer := (Tables.apply_eq_ok.mp hlock).2
      exact (Prod.mk.inj (Except.ok.inj hanswer)).2
    have hopen := h.trans (hs₁.keeps ht.symm)
    have hturn : s.store.turn < s₁.store.turn := by
      rw [hs₁.turn, hs₁.drawn]
      exact Nat.lt_succ_of_le h.turn
    refine (Attempt.ends_timed _ _).mpr (Attempt.ends_query (fun d' entry s₂ hfind hs₂ => ?_)
      fun fault s₂ herror hkeeps => ⟨?_, (hopen.trans (hkeeps.measured _)).restores⟩)
    · obtain ⟨hentry, hfound⟩ :=
        Prod.mk.inj (Except.ok.inj (Tables.apply_eq_ok.mp hfind).2)
      refine ⟨?_, hopen.trans ((hs₂.keeps hfound.symm).measured _), ?_⟩
      · rw [← hopen.tables, ← hentry]
      · rw [Session.store_measured, hs₂.turn, hs₂.drawn]
        exact Nat.lt_succ_of_lt hturn
    · exact canFail_of_error hopen.faults nameRefusal?_eq_none (fun t d => ⟨_, rfl⟩) herror
  · exact canFail_of_error h.faults nameRefusal?_eq_none (fun t d => ⟨_, rfl⟩) herror

/-- A query that changes the tables as a plan asks, and that a store refuses at most for the name of
the job. -/
lemma ends_change {q : Query} (h : s.Opens s') (hturn : s.store.turn < s'.store.turn)
    (hrefusal : nameRefusal? name = none → q.refusal? = none)
    (hanswer : ∀ (t : Tables) d, ∃ reply, t.answer d q = .ok (reply, t.planned d name plan)) :
    Attempt.Ends (do let _ ← Attempt.query q) s'
      (fun _ s'' => s.Restores s'' ∧ ∃ d : Tables.Draw, s.store.turn < d.turn ∧
        d.turn ≤ s''.store.turn ∧ s''.store.tables = s.store.tables.planned d name plan)
      fun _ s'' => CanFail s name ∧ s.Restores s'' := by
  refine (Attempt.ends_bind _ _).mpr (Attempt.ends_query (fun d reply s₁ hchange hs₁ => ?_)
    fun fault s₁ herror hkeeps => ⟨?_, (h.trans hkeeps).restores⟩)
  · refine (Attempt.ends_pure _).mpr ⟨h.restores_of_answers hs₁, d, ?_, ?_, ?_⟩
    · rw [hs₁.drawn]
      exact Nat.lt_succ_of_lt hturn
    · exact Nat.le_of_eq hs₁.turn.symm
    · obtain ⟨reply', hreply⟩ := hanswer s'.store.tables d
      have hafter := hreply.symm.trans (Tables.apply_eq_ok.mp hchange).2
      rw [← h.tables]
      exact (Prod.mk.inj (Except.ok.inj hafter)).2.symm
  · refine canFail_of_error h.faults hrefusal (fun t d => ?_) herror
    obtain ⟨reply, hreply⟩ := hanswer t d
    exact ⟨_, hreply⟩

/-- A plan is carried out, with a number for a new entry that has not been drawn before. -/
lemma carryOut_ends (h : s.Opens s') (hturn : s.store.turn < s'.store.turn) :
    (carryOut name plan).Ends s'
      (fun _ s'' => s.Restores s'' ∧ ∃ d : Tables.Draw, s.store.turn < d.turn ∧
        d.turn ≤ s''.store.turn ∧ s''.store.tables = s.store.tables.planned d name plan)
      fun _ s'' => CanFail s name ∧ s.Restores s'' := by
  cases plan with
  | insert next =>
      refine ends_change h hturn (fun hname => ?_) fun t d => ⟨_, rfl⟩
      rw [Query.refusal?, hname]
      rfl
  | reschedule id current next => exact ends_change h hturn (fun _ => rfl) fun t d => ⟨_, rfl⟩
  | keep =>
      exact (Attempt.ends_pure _).mpr ⟨h.restores, ⟨s'.store.turn, fun _ => 0⟩, hturn,
        Nat.le_refl _, h.tables⟩

/-- What an upsert has made of the tables: its plan has been carried out, and no transaction is
open. -/
def Reconciles (u : Upkeep) (s : Session) (jobName : String) (next now : Instant) (plan : Plan)
    (s' : Session) : Prop :=
  plan = .make (s.store.tables.pendingOf jobName) next now u.margin ∧
    ∃ d : Tables.Draw, s.store.turn < d.turn ∧ d.turn ≤ s'.store.turn ∧
      s.Leaves s' (s.store.tables.planned d jobName plan)

/-- The pending entry of a job is brought to its next time, or the tables are left alone. -/
lemma reconcile_ends (hsaved : s.store.saved = none) :
    (u.reconcile name next now).Ends s (u.Reconciles s name next now)
      fun _ s' => CanFail s name ∧ s.Leaves s' s.store.tables := by
  refine Attempt.ends_committed hsaved (fun s' hopen => ?_) fun _ _ hne hleaves =>
    ⟨.inl hne, hleaves⟩
  refine (Attempt.ends_bind _ _).mpr ((pending_ends hopen).mono (fun entry s₁ h => ?_)
    fun fault s₁ h => ⟨h.2, fun s₂ hleaves => ⟨h.1, hleaves⟩⟩)
  obtain ⟨rfl, hopen₁, hturn⟩ := h
  refine (Attempt.ends_bind _ _).mpr ((carryOut_ends hopen₁ hturn).mono (fun _ s₂ h => ?_)
    fun fault s₂ h => ⟨h.2, fun s₃ hleaves => ⟨h.1, hleaves⟩⟩)
  obtain ⟨hrestores, d, hd, hd', ht⟩ := h
  refine (Attempt.ends_pure _).mpr ⟨hrestores, fun s₃ hcommit => ⟨rfl, d, hd, ?_, ?_⟩⟩
  · exact Nat.le_trans hd' hcommit.turn
  · exact ht ▸ hcommit.trans hrestores

/-- The instant at which the job fires next after `now`, if the upsert of a cycle computes one. -/
def Computes (u : Upkeep) (r : Registration Body) (now next : Instant) : Prop :=
  ∃ schedule, r.schedule = some schedule ∧ schedule.nextAfter now u.zone = .at next

/-- Such a job is periodic. -/
lemma Computes.periodic {r : Registration Body} (h : u.Computes r now next) :
    (⟨[r]⟩ : Registry Body).periodic = [r] := by
  obtain ⟨schedule, hschedule, -⟩ := h
  rw [Registry.periodic, List.filter_cons_of_pos]
  · rfl
  · rw [Registration.isPeriodic, hschedule]
    rfl

/-- The instants that upserts compute are whole seconds. -/
lemma Computes.whole {r : Registration Body} (h : u.Computes r now next) :
    ∃ secs, next = .ofSecs secs := by
  obtain ⟨schedule, -, hnext⟩ := h
  obtain ⟨secs, hsecs, -⟩ := Cron.Fields.search_eq_fires hnext
  exact ⟨secs, hsecs⟩

lemma Computes.unique {r : Registration Body} {next' : Instant} (h : u.Computes r now next)
    (h' : u.Computes r now next') : next' = next := by
  obtain ⟨schedule, hschedule, hnext⟩ := h
  obtain ⟨schedule', hschedule', hnext'⟩ := h'
  obtain rfl := Option.some.inj (hschedule.symm.trans hschedule')
  exact Cron.Upcoming.at.inj (hnext'.symm.trans hnext)

/-- An upsert that computes a next time carries out its plan, or the tables are left alone. -/
lemma upsert_ends {r : Registration Body} (hnext : u.Computes r now next)
    (hsaved : s.store.saved = none) :
    (u.upsert r now).Ends s fun outcome s' =>
      Except.casesOn outcome (fun _ => CanFail s r.name ∧ s.Leaves s' s.store.tables)
        fun plan => u.Reconciles s r.name next now plan s' := by
  obtain ⟨schedule, hschedule, hat⟩ := hnext
  rw [upsert, hschedule]
  dsimp only
  rw [hat]
  exact reconcile_ends hsaved

/-- An upsert that computes no next time does nothing. -/
lemma upsert_idle {r : Registration Body} (hnone : ∀ next, ¬ u.Computes r now next)
    (store : Store) (clock : Instant) :
    (u.upsert r now).runAt clock store = (.ok (.ok .keep), store) ∨
      ∃ halt, (u.upsert r now).runAt clock store = (.error halt, store) := by
  rw [upsert]
  cases hschedule : r.schedule with
  | none => exact .inl rfl
  | some schedule =>
      dsimp only
      cases hnext : schedule.nextAfter now u.zone with
      | never => exact .inl rfl
      | outOfCalendar => exact .inr ⟨_, rfl⟩
      | «at» next => exact absurd ⟨schedule, hschedule, hnext⟩ (hnone next)

end Upkeep

end JobDispatch
