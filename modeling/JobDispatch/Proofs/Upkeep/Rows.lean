import JobDispatch.Proofs.Time.Order
import JobDispatch.Proofs.Upkeep.Upsert

/-!
The entries of one job, cycle after cycle.

An upsert looks only at the entry of the job that becomes due first. To move it can bring another
entry to the front, which the next cycle moves in its turn. Entries that come before the next time
become fewer with every move but the first, and once there is none the entries stay as they are.
The order of entries that become due at the same time makes no difference.

* `Tables.rowsOf`: the entries of a job. The upsert of one job leaves those of all others alone
  (`Tables.rowsOf_planned_of_ne`).
* `Revised`: what an upsert does to the entries of its job (`Tables.Keyed.revised`), and
  `Replanned`: the same in any order of the entries.
* `Settled`: an upsert keeps the entries as they are, in whatever order they come.
* `Nears`: the entries are settled after so many upserts; each one brings them nearer
  (`Nears.replanned`).
-/

namespace JobDispatch

/-! ### Which entry is looked at -/

/-- The first entry becomes due no later. Entries without an earliest time come first. -/
def Entry.NoLater (a b : Entry) : Prop :=
  match a.notBefore, b.notBefore with
  | none, _ => True
  | some _, none => False
  | some s, some t => s ≤ t

namespace Entry

variable {a b c : Entry}

lemma noLater_of_none (h : a.notBefore = none) : a.NoLater b := by
  rw [NoLater, h]
  trivial

lemma NoLater.eq_none (h : a.NoLater b) (hb : b.notBefore = none) : a.notBefore = none := by
  rw [NoLater, hb] at h
  cases ha : a.notBefore with
  | none => rfl
  | some s =>
      rw [ha] at h
      exact h.elim

lemma NoLater.le (h : a.NoLater b) {s t : Instant} (ha : a.notBefore = some s)
    (hb : b.notBefore = some t) : s ≤ t := by
  rwa [NoLater, ha, hb] at h

lemma noLater_of_le {s t : Instant} (ha : a.notBefore = some s) (hb : b.notBefore = some t)
    (h : s ≤ t) : a.NoLater b := by
  rwa [NoLater, ha, hb]

lemma NoLater.refl (a : Entry) : a.NoLater a := by
  cases ha : a.notBefore with
  | none => exact noLater_of_none ha
  | some s => exact noLater_of_le ha ha s.le_refl

lemma NoLater.trans (hab : a.NoLater b) (hbc : b.NoLater c) : a.NoLater c := by
  cases ha : a.notBefore with
  | none => exact noLater_of_none ha
  | some s =>
      cases hb : b.notBefore with
      | none => exact absurd (hab.eq_none hb) (by rw [ha]; exact nofun)
      | some t =>
          cases hc : c.notBefore with
          | none => exact absurd (hbc.eq_none hc) (by rw [hb]; exact nofun)
          | some r => exact noLater_of_le ha hc (Instant.le_trans (hab.le ha hb) (hbc.le hb hc))

/-- Two entries of which neither becomes due later become due at the same time. -/
lemma NoLater.notBefore_eq (hab : a.NoLater b) (hba : b.NoLater a) :
    a.notBefore = b.notBefore := by
  cases ha : a.notBefore with
  | none => exact (hba.eq_none ha).symm
  | some s =>
      cases hb : b.notBefore with
      | none => exact absurd (hab.eq_none hb) (by rw [ha]; exact nofun)
      | some t => rw [Instant.le_antisymm (hab.le ha hb) (hba.le hb ha)]

lemma noLater_of_before (h : a.before b = true) : a.NoLater b := by
  rw [before] at h
  cases ha : a.notBefore with
  | none => exact noLater_of_none ha
  | some s =>
      cases hb : b.notBefore with
      | none =>
          rw [ha, hb] at h
          cases h
      | some t =>
          rw [ha, hb] at h
          simp only [Bool.or_eq_true, decide_eq_true_eq, Bool.and_eq_true, beq_iff_eq] at h
          obtain hlt | ⟨rfl, -⟩ := h
          · exact noLater_of_le ha hb (Instant.le_of_lt hlt)
          · exact noLater_of_le ha hb s.le_refl

lemma noLater_of_not_before (h : a.before b = false) : b.NoLater a := by
  rw [before] at h
  cases hb : b.notBefore with
  | none => exact noLater_of_none hb
  | some t =>
      cases ha : a.notBefore with
      | none =>
          rw [ha, hb] at h
          cases h
      | some s =>
          rw [ha, hb] at h
          have hnot : ¬ s < t := of_decide_eq_false (Bool.or_eq_false_iff.mp h).1
          exact noLater_of_le hb ha (Instant.le_of_not_lt hnot)

end Entry

/-- No entry of a job becomes due before the one that a look at the queue finds. -/
lemma noLater_of_leastBy {rows : List Entry} {m : Entry}
    (h : leastBy Entry.before rows = some m) : ∀ a ∈ rows, m.NoLater a :=
  least_of_leastBy .refl .trans Entry.noLater_of_before Entry.noLater_of_not_before h

/-! ### The entries of a job -/

namespace Tables

variable {t : Tables} {d : Draw} {name other : String} {next now : Instant} {margin : Span}
  {turn : Nat}

/-- The entries of a job, in the order in which they were added. -/
def rowsOf (t : Tables) (jobName : String) : List Entry :=
  t.queue.filter fun e => e.jobName == jobName

lemma mem_rowsOf {e : Entry} : e ∈ t.rowsOf name ↔ e ∈ t.queue ∧ e.jobName = name := by
  rw [rowsOf, List.mem_filter, beq_iff_eq]

lemma Keyed.rowsOf (h : t.Keyed turn) (name : String) : Keyed ⟨t.rowsOf name, [], none⟩ turn :=
  ⟨h.distinct.sublist (List.filter_sublist.map _), fun e he => h.drawn e (mem_rowsOf.mp he).1⟩

/-- To move an entry changes the entries of its job only. -/
lemma rowsOf_moved (id : EntryId) (instant : Instant) :
    ((t.queue.map fun e => if e.id = id then { e with notBefore := some instant } else e).filter
      fun e => e.jobName == name) =
    (t.rowsOf name).map fun e => if e.id = id then { e with notBefore := some instant } else e := by
  rw [List.filter_map, rowsOf]
  refine congrArg _ (List.filter_congr fun e _ => ?_)
  dsimp only [Function.comp]
  split <;> rfl

/-- To change the entry with one of several keys changes one place of the queue. -/
lemma map_moved_of_nodup {before after : List Entry} {m : Entry}
    (hdistinct : ((before ++ m :: after).map Entry.id).Nodup) (f : Entry → Entry) :
    ((before ++ m :: after).map fun e => if e.id = m.id then f e else e) =
      before ++ f m :: after := by
  rw [List.map_append, List.map_cons, List.nodup_append] at hdistinct
  obtain ⟨-, hafter, hbefore⟩ := hdistinct
  rw [List.map_append, List.map_cons, if_pos rfl]
  congr 1
  · refine (List.map_congr_left fun e he => if_neg ?_).trans (List.map_id _)
    exact hbefore _ (List.mem_map_of_mem he) _ List.mem_cons_self
  · congr 1
    refine (List.map_congr_left fun e he => if_neg fun hid => ?_).trans (List.map_id _)
    exact (List.nodup_cons.mp hafter).1 (hid ▸ List.mem_map_of_mem he)

/-- An upsert leaves the entries of all other jobs alone. -/
lemma rowsOf_planned_of_ne (h : t.Keyed turn) (hne : other ≠ name) :
    (t.planned d name (.make (t.pendingOf name) next now margin)).rowsOf other =
      t.rowsOf other := by
  obtain ⟨-, hq⟩ | ⟨m, hm, hname, hq⟩ | hq := t.planned_cases d name next now margin
  · have hnew : (newEntry d name next).jobName ≠ other := Ne.symm hne
    rw [rowsOf, hq, List.filter_append, List.filter_singleton, beq_false_of_ne hnew]
    exact List.append_nil _
  · rw [rowsOf, hq, rowsOf_moved]
    refine (List.map_congr_left fun e he => if_neg fun hid => hne ?_).trans (List.map_id _)
    obtain ⟨hmem, rfl⟩ := mem_rowsOf.mp he
    rw [h.eq_of_id hmem hm hid, hname]
  · rw [rowsOf, hq, rowsOf]

end Tables

section Rows

variable (next now : Instant) (margin : Span)

/-- An upsert keeps the entries as they are, as the first of them to become due stays. -/
def Settled (rows : List Entry) : Prop :=
  ∃ e ∈ rows, (∀ a ∈ rows, e.NoLater a) ∧ Plan.make (some e) next now margin = .keep

/-- How many of the entries come before an instant. -/
def ahead (rows : List Entry) : Nat :=
  rows.countP fun e => e.notBefore.any fun t => t < next

/-- The entries are settled, or they will be after so many upserts: no more of them come before the
next time, and one is at the next time already. -/
def Nears (upserts : Nat) (rows : List Entry) : Prop :=
  Settled next now margin rows ∨
    (∃ e ∈ rows, e.notBefore = some next) ∧ ahead next rows ≤ upserts

/-- What an upsert does to the entries of its job: it adds the first one, it moves one that becomes
due first, or it keeps them. -/
inductive Replanned : List Entry → List Entry → Prop
  | added (e : Entry) (hat : e.notBefore = some next) : Replanned [] [e]
  | moved {rows rows' : List Entry} (m : Entry) (rest : List Entry) (current : Instant)
      (hrows : rows.Perm (m :: rest)) (hleast : ∀ a ∈ rows, m.NoLater a)
      (hplan : Plan.make (some m) next now margin = .reschedule m.id current next)
      (hrows' : rows'.Perm ({ m with notBefore := some next } :: rest)) : Replanned rows rows'
  | kept {rows : List Entry} (h : Settled next now margin rows) : Replanned rows rows

/-- What an upsert does to the entries of its job, in the order in which they were added. -/
inductive Revised (d : Tables.Draw) (name : String) : Plan → List Entry → List Entry → Prop
  | added : Revised d name (.insert next) [] [Tables.newEntry d name next]
  | moved (before : List Entry) (m : Entry) (after : List Entry) (current : Instant)
      (hat : m.notBefore = some current) (hfar : margin < current.since now)
      (hne : current ≠ next) (hleast : ∀ a ∈ before ++ m :: after, m.NoLater a) :
      Revised d name (.reschedule m.id current next) (before ++ m :: after)
        (before ++ { m with notBefore := some next } :: after)
  | kept (rows : List Entry) (hsettled : Settled next now margin rows) :
      Revised d name .keep rows rows

variable {next now margin} {rows rows' : List Entry}

/-- An entry stays unless its time is further away than the margin and not the next one. -/
lemma Plan.make_eq_keep_iff {e : Entry} : make (some e) next now margin = .keep ↔
    ∀ current, e.notBefore = some current → ¬ (margin < current.since now ∧ current ≠ next) := by
  rw [make]
  cases e.notBefore with
  | none => exact iff_of_true rfl fun current h => absurd h.symm (Option.some_ne_none current)
  | some current =>
      simp only [Option.some.injEq, forall_eq']
      by_cases hmove : margin < current.since now ∧ current ≠ next
      · rw [if_pos hmove]
        exact iff_of_false (by simp) (not_not.mpr hmove)
      · rw [if_neg hmove]
        exact iff_of_true rfl hmove

/-- Settled entries are settled in any order. -/
lemma Settled.perm (h : Settled next now margin rows) (hperm : rows.Perm rows') :
    Settled next now margin rows' := by
  obtain ⟨e, he, hleast, hkeep⟩ := h
  exact ⟨e, hperm.mem_iff.mp he, fun a ha => hleast a (hperm.mem_iff.mpr ha), hkeep⟩

/-- Whichever of the first entries is found, it stays. -/
lemma Settled.make_eq_keep (h : Settled next now margin rows) :
    Plan.make (leastBy Entry.before rows) next now margin = .keep := by
  obtain ⟨e, he, hleast, hkeep⟩ := h
  cases hfound : leastBy Entry.before rows with
  | none =>
      rw [leastBy_eq_none.mp hfound] at he
      cases he
  | some m =>
      have hsame := (hleast m (mem_of_leastBy hfound)).notBefore_eq (noLater_of_leastBy hfound e he)
      rw [Plan.make_eq_keep_iff] at hkeep ⊢
      rwa [← hsame]

/-- As long as no entry comes before the next time, one that is at the next time stays. -/
lemma Nears.settled (h : Nears next now margin 0 rows) : Settled next now margin rows := by
  obtain hsettled | ⟨⟨e, he, hat⟩, hnone⟩ := h
  · exact hsettled
  cases hfound : leastBy Entry.before rows with
  | none =>
      rw [leastBy_eq_none.mp hfound] at he
      cases he
  | some m =>
      have hmem := mem_of_leastBy hfound
      have hleast := noLater_of_leastBy hfound
      refine ⟨m, hmem, hleast, Plan.make_eq_keep_iff.mpr fun current hm hmove => hmove.2 ?_⟩
      have hbehind := List.countP_eq_zero.mp (Nat.le_zero.mp hnone) m hmem
      rw [hm, Option.any_some, decide_eq_true_iff] at hbehind
      exact Instant.le_antisymm ((hleast e he).le hm hat) (Instant.le_of_not_lt hbehind)

lemma Nears.mono {k k' : Nat} (h : Nears next now margin k rows) (hle : k ≤ k') :
    Nears next now margin k' rows :=
  h.imp_right fun ⟨hat, hcount⟩ => ⟨hat, Nat.le_trans hcount hle⟩

lemma Nears.perm {k : Nat} (h : Nears next now margin k rows) (hperm : rows.Perm rows') :
    Nears next now margin k rows' := by
  obtain hsettled | ⟨⟨e, he, hat⟩, hcount⟩ := h
  · exact .inl (hsettled.perm hperm)
  · refine .inr ⟨⟨e, hperm.mem_iff.mp he, hat⟩, ?_⟩
    rwa [ahead, ← hperm.countP_eq]

/-! ### One upsert after the other -/

/-- A moved entry does not come before the next time, and the others stay where they are. -/
lemma ahead_moved {m : Entry} {rest : List Entry}
    (hrows' : rows'.Perm ({ m with notBefore := some next } :: rest)) :
    (∃ e ∈ rows', e.notBefore = some next) ∧ ahead next rows' = ahead next rest := by
  refine ⟨⟨_, hrows'.mem_iff.mpr List.mem_cons_self, rfl⟩, ?_⟩
  rw [ahead, hrows'.countP_eq, List.countP_cons_of_neg]
  · rfl
  · rw [Option.any_some, decide_eq_true_iff]
    exact Instant.not_lt_of_le next.le_refl

/-- After the first upsert at most the other entries come before the next time. -/
lemma Replanned.nears (h : Replanned next now margin rows rows') {n : Nat}
    (hlength : rows.length ≤ n) : Nears next now margin (max 1 n - 1) rows' := by
  cases h with
  | added e hat =>
      refine .inr ⟨⟨e, List.mem_singleton_self e, hat⟩, ?_⟩
      rw [ahead, List.countP_singleton, hat, Option.any_some, if_neg]
      · exact Nat.zero_le _
      · rw [decide_eq_true_iff]
        exact Instant.not_lt_of_le next.le_refl
  | moved m rest current hrows hleast hplan hrows' =>
      obtain ⟨hat, hcount⟩ := ahead_moved hrows'
      refine .inr ⟨hat, ?_⟩
      have hrest : ahead next rest ≤ rest.length := List.countP_le_length
      have hall := hrows.length_eq
      rw [List.length_cons] at hall
      omega
  | kept hsettled => exact .inl hsettled

/-- Each further upsert brings the entries nearer. -/
lemma Nears.replanned {k : Nat} (h : Nears next now margin (k + 1) rows)
    (hr : Replanned next now margin rows rows') : Nears next now margin k rows' := by
  cases hr with
  | kept hsettled => exact .inl hsettled
  | added e hat =>
      obtain ⟨e, he, -⟩ | ⟨⟨e, he, -⟩, -⟩ := h <;> cases he
  | moved m rest current hrows hleast hplan hrows' =>
      obtain ⟨e', he', hid, hm, -, hne, -⟩ := Plan.make_eq_reschedule hplan
      obtain rfl : m = e' := Option.some.inj he'
      obtain ⟨hat', hcount'⟩ := ahead_moved hrows'
      obtain ⟨e, he, hfirst, hkeep⟩ | ⟨⟨e, he, hat⟩, hcount⟩ := h
      · -- settled entries are not moved
        have hmem : m ∈ rows := hrows.mem_iff.mpr List.mem_cons_self
        have hsame := (hfirst m hmem).notBefore_eq (hleast e he)
        rw [Plan.make_eq_keep_iff, hsame, ← Plan.make_eq_keep_iff, hplan] at hkeep
        cases hkeep
      · -- the entry at the next time is not first, so that the moved one came before it
        have hlt : current < next := by
          by_contra hnot
          exact hne (Instant.le_antisymm ((hleast e he).le hm hat) (Instant.le_of_not_lt hnot))
        refine .inr ⟨hat', ?_⟩
        rw [ahead, hrows.countP_eq, List.countP_cons_of_pos] at hcount
        · rw [hcount']
          exact Nat.le_of_succ_le_succ hcount
        · rw [hm, Option.any_some]
          exact decide_eq_true hlt

/-! ### Plans and the entries of a job -/

section Plans

variable {t : Tables} {turn : Nat} {d : Tables.Draw} {name : String}

/-- What a plan does to the entries of its job. -/
lemma Tables.Keyed.revised (h : t.Keyed turn) (hwhole : next.stored = next) :
    Revised next now margin d name (.make (t.pendingOf name) next now margin) (t.rowsOf name)
      ((t.planned d name (.make (t.pendingOf name) next now margin)).rowsOf name) := by
  cases hfound : leastBy Entry.before (t.rowsOf name) with
  | none =>
      have hnone : t.pendingOf name = none := hfound
      have hempty : t.rowsOf name = [] := leastBy_eq_none.mp hfound
      have hadded : (t.planned d name (.insert next)).rowsOf name =
          t.rowsOf name ++ [newEntry d name next] := by
        rw [Tables.rowsOf, Tables.planned, insertEntry, List.filter_append, List.filter_singleton]
        rw [beq_self_eq_true]
        rfl
      rw [hnone, Plan.make, hadded, hempty]
      exact .added
  | some m =>
      have hsome : t.pendingOf name = some m := hfound
      have hleast := noLater_of_leastBy hfound
      obtain ⟨before, after, hrows⟩ := List.append_of_mem (mem_of_leastBy hfound)
      rw [hsome]
      obtain ⟨current, hmove⟩ | hkeep := Plan.make_some m next now margin
      · obtain ⟨m', hm', -, hat, hfar, hne, -⟩ := Plan.make_eq_reschedule hmove
        obtain rfl : m = m' := Option.some.inj hm'
        have hdistinct : ((t.rowsOf name).map Entry.id).Nodup := (h.rowsOf name).distinct
        have hmoved : (t.planned d name (.reschedule m.id current next)).rowsOf name =
            (t.rowsOf name).map fun e =>
              if e.id = m.id then { e with notBefore := some next.stored } else e :=
          Tables.rowsOf_moved m.id next.stored
        rw [hrows] at hdistinct hleast hmoved ⊢
        rw [hmove, hmoved, hwhole, Tables.map_moved_of_nodup hdistinct]
        exact .moved before m after current hat hfar hne hleast
      · rw [hkeep]
        exact .kept _ ⟨m, mem_of_leastBy hfound, hleast, hkeep⟩

/-- The same in any order. -/
lemma Revised.replanned {plan : Plan} (h : Revised next now margin d name plan rows rows')
    (hwhole : next.stored = next) : Replanned next now margin rows rows' := by
  cases h with
  | added => exact .added _ (congrArg some hwhole)
  | moved before m after current hat hfar hne hleast =>
      refine .moved m (before ++ after) current List.perm_middle hleast ?_ List.perm_middle
      rw [Plan.make, hat]
      exact if_pos ⟨hfar, hne⟩
  | kept rows hsettled => exact .kept hsettled

lemma Tables.Keyed.replanned (h : t.Keyed turn) (hwhole : next.stored = next) :
    Replanned next now margin (t.rowsOf name)
      ((t.planned d name (.make (t.pendingOf name) next now margin)).rowsOf name) :=
  (h.revised hwhole).replanned hwhole

end Plans

end Rows

end JobDispatch
