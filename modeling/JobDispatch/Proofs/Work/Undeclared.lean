import JobDispatch.Proofs.Script.Twins
import JobDispatch.Proofs.Work.Floor
import JobDispatch.Proofs.Work.Recording

/-!
Parameters that a job has not asked for.

Two rounds start from stores that differ in the parameters of the entry that is claimed. If its job
does not want parameters, the difference goes into the row that is recorded, and nowhere else.

* `Entry.SameBut`, `Tables.SameBut` and `Session.SameBut`: the same but for the parameters of one
  waiting entry. The store takes both or refuses both for the same reason.
* `ResultRow.SameBut` and `Statement.Echoes`: rows, and statements that insert rows, which are the
  same but for the parameters.
* `Worker.claim_twins`, `Worker.record_twins` and `Worker.execute_twins`: the parts of a round.
* `Worker.undeclared_parameters_only_echo`: the whole of it.
-/

namespace JobDispatch

open List (Forall₂)

variable {i : EntryId}

/-! ### Entries and rows -/

/-- The entries are the same, but for the parameters if it is the entry `i`. -/
structure Entry.SameBut (i : EntryId) (e e' : Entry) : Prop where
  rest : e' = { e with parameters := e'.parameters }
  others : e.id ≠ i → e' = e
  refusal : jsonRefusal? e'.parameters = jsonRefusal? e.parameters

namespace Entry.SameBut

variable {e e' : Entry}

lemma refl (i : EntryId) (e : Entry) : e.SameBut i e := ⟨rfl, fun _ => rfl, rfl⟩

lemma id_eq (h : e.SameBut i e') : e'.id = e.id := by rw [h.rest]

lemma due_iff (h : e.SameBut i e') (now : Instant) : e'.Due now ↔ e.Due now := by
  rw [h.rest]
  rfl

end Entry.SameBut

/-- The rows about the entry `i` are the same but for the parameters. -/
structure ResultRow.SameBut (i : EntryId) (row row' : ResultRow) : Prop where
  id : row.id = i
  rest : row' = { row with parameters := row'.parameters }
  refusal : jsonRefusal? row'.parameters = jsonRefusal? row.parameters

namespace ResultRow.SameBut

variable {row row' : ResultRow}

/-- The store takes both rows, or refuses both in the same way. -/
lemma refusal?_eq (h : row.SameBut i row') : row'.refusal? = row.refusal? := by
  rw [ResultRow.refusal?, h.refusal, h.rest]
  rfl

lemma isError_eq (h : row.SameBut i row') : row'.isError = row.isError := by
  rw [h.rest]

lemma unstorable (h : row.SameBut i row') (fault : StoreError) :
    (Worker.unstorable row fault).SameBut i (Worker.unstorable row' fault) where
  id := h.id
  rest := by rw [h.rest]; rfl
  refusal := h.refusal

end ResultRow.SameBut

/-- The statements are the same, or insert rows about the entry `i` that are the same but for the
parameters. -/
inductive Statement.Echoes (i : EntryId) : Statement → Statement → Prop
  | same (q : Statement) : Echoes i q q
  | row {row row' : ResultRow} (h : row.SameBut i row') :
      Echoes i (.query (.insertResult row)) (.query (.insertResult row'))

/-! ### Tables -/

/-- The tables are the same, but for the parameters of the waiting entry `i`. -/
structure Tables.SameBut (i : EntryId) (t t' : Tables) : Prop where
  queue : Forall₂ (Entry.SameBut i) t.queue t'.queue
  results : t'.results = t.results
  lease : t'.lease = t.lease

lemma rel_cases {α : Type} {r : α → α → Prop} {a? b? : Option α} (h : Option.Rel r a? b?) :
    (a? = none ∧ b? = none) ∨ ∃ a b, a? = some a ∧ b? = some b ∧ r a b := by
  cases h with
  | none => exact .inl ⟨rfl, rfl⟩
  | some h => exact .inr ⟨_, _, rfl, rfl, h⟩

/-- A pick among rows that are alike. -/
lemma rel_leastBy {α : Type} {r : α → α → Prop} {before : α → α → Bool}
    (hbefore : ∀ {a a' b b'}, r a a' → r b b' → before a' b' = before a b) {rows rows' : List α}
    (h : Forall₂ r rows rows') : Option.Rel r (leastBy before rows) (leastBy before rows') := by
  induction h with
  | nil => exact .none
  | @cons a a' rest rest' ha hrest ih =>
      rw [leastBy, leastBy]
      obtain ⟨hnone, hnone'⟩ | ⟨b, b', hsome, hsome', hb⟩ := rel_cases ih
      · rw [hnone, hnone']
        exact .some ha
      · rw [hsome, hsome']
        dsimp only
        rw [hbefore hb ha]
        split
        · exact .some hb
        · exact .some ha

namespace Tables.SameBut

variable {t t' : Tables}

lemma refl (i : EntryId) (t : Tables) : t.SameBut i t :=
  ⟨List.forall₂_same.mpr fun e _ => .refl i e, rfl, rfl⟩

/-- The same entries are left out of both. -/
lemma without (h : t.SameBut i t') (id : EntryId) : (t.without id).SameBut i (t'.without id) where
  queue := List.rel_filter (fun e e' he => by simp only [he.id_eq]) h.queue
  results := h.results
  lease := h.lease

/-- Without the entry, nothing is different. -/
lemma without_self (h : t.SameBut i t') : t'.without i = t.without i := by
  have hothers {rows rows' : List Entry} (h : Forall₂ (Entry.SameBut i) rows rows') :
      (rows'.filter fun e => e.id ≠ i) = rows.filter fun e => e.id ≠ i := by
    induction h with
    | nil => rfl
    | @cons e e' rest rest' he hrest ih =>
        rw [List.filter_cons, List.filter_cons, he.id_eq, ih]
        by_cases hid : e.id = i
        · simp [hid]
        · rw [he.others hid]
  rw [Tables.without, Tables.without, hothers h.queue, h.results, h.lease]

/-- What a claim comes to in both tables. -/
lemma claim (h : t.SameBut i t') (d : Draw) (now : Instant) :
    (t.claim d now = (none, t) ∧ t'.claim d now = (none, t')) ∨
      ∃ e e', e.SameBut i e' ∧ t.claim d now = (some e, t.without e.id) ∧
        t'.claim d now = (some e', t'.without e.id) := by
  have hdue : Forall₂ (Entry.SameBut i) (t.due now) (t'.due now) :=
    List.rel_filter (fun e e' he => by simp only [he.due_iff]) h.queue
  have hpick : Option.Rel (Entry.SameBut i)
      (leastBy (fun a b => decide (d.lot a.id < d.lot b.id)) (t.due now))
      (leastBy (fun a b => decide (d.lot a.id < d.lot b.id)) (t'.due now)) :=
    rel_leastBy (fun ha hb => by rw [ha.id_eq, hb.id_eq]) hdue
  rw [Tables.claim, Tables.claim]
  obtain ⟨hnone, hnone'⟩ | ⟨e, e', hsome, hsome', he⟩ := rel_cases hpick
  · rw [hnone, hnone']
    exact .inl ⟨rfl, rfl⟩
  · rw [hsome, hsome']
    refine .inr ⟨e, e', he, rfl, ?_⟩
    rw [← he.id_eq]
    rfl

end Tables.SameBut

/-- The contents of two stores are the same, but for the parameters of the waiting entry `i`. -/
structure Contents.SameBut (i : EntryId) (c c' : Contents) : Prop where
  tables : c.tables.SameBut i c'.tables
  saved : Option.Rel (Tables.SameBut i) c.saved c'.saved

lemma Contents.SameBut.refl (i : EntryId) (c : Contents) : c.SameBut i c where
  tables := .refl i c.tables
  saved := by
    cases c.saved with
    | none => exact .none
    | some t => exact .some (.refl i t)

/-- The sessions are the same, but for the parameters of the waiting entry `i`: the clock, the
faults that are to strike and the lots too. -/
structure Session.SameBut (i : EntryId) (s s' : Session) : Prop where
  rest : s' = s.bearing s'.store.contents
  contents : s.store.contents.SameBut i s'.store.contents

/-- The sessions are the same, but for the parameters of the row that has been recorded last. -/
def Session.EchoesOnly (i : EntryId) (s s' : Session) : Prop :=
  s' = s ∨ ∃ (kept kept' : ResultRow) (t : Tables), kept.SameBut i kept' ∧
    s.store.contents = ⟨t.recording kept, none⟩ ∧ s' = s.bearing ⟨t.recording kept', none⟩

namespace Worker

variable {lockTimeout : Duration} {s : Session} {c c' : Contents}

/-! ### Claims -/

/-- Two claims have taken the same entry but for its parameters, or none. Nothing else is different
if it is the entry `i`. -/
def TakesAlike (i : EntryId) (taken taken' : Option Entry) (c c' : Contents) : Prop :=
  c.SameBut i c' ∧ (taken = none ∧ taken' = none ∨
    ∃ e e', taken = some e ∧ taken' = some e' ∧ e.SameBut i e' ∧ (e.id = i → c' = c))

lemma claim_twins (h : c.SameBut i c') :
    (claim lockTimeout).Twins (Statement.Echoes i) (claim lockTimeout) s c c'
      (fun taken taken' _ c₁ c₁' => TakesAlike i taken taken' c₁ c₁')
      fun _ _ c₁ c₁' => c₁.SameBut i c₁' := by
  have hundone : Contents.SameBut i ⟨c.tables, none⟩ ⟨c'.tables, none⟩ := ⟨h.tables, .none⟩
  have hquery (now : Instant) (s₁ : Session) :
      (Attempt.query (.claimNext now)).Twins (Statement.Echoes i) (Attempt.query (.claimNext now))
        s₁ ⟨c.tables, some c.tables⟩ ⟨c'.tables, some c'.tables⟩
        (fun (taken taken' : Option Entry) _ c₁ c₁' =>
          c₁.saved = some c.tables ∧ c₁'.saved = some c'.tables ∧
            TakesAlike i taken taken' ⟨c₁.tables, none⟩ ⟨c₁'.tables, none⟩)
        fun _ _ c₁ c₁' => c₁.saved = some c.tables ∧ c₁'.saved = some c'.tables := by
    refine Attempt.twins_query (.same _) rfl (fun d s₂ => ?_) fun fault s₂ => ⟨rfl, rfl⟩
    show Agree _ _ (.ok (c.tables.claim d now)) (.ok (c'.tables.claim d now))
    refine ⟨rfl, rfl, ?_⟩
    obtain ⟨hnone, hnone'⟩ | ⟨e, e', he, hsome, hsome'⟩ := h.tables.claim d now
    · rw [hnone, hnone']
      exact ⟨hundone, .inl ⟨rfl, rfl⟩⟩
    · rw [hsome, hsome']
      refine ⟨⟨h.tables.without e.id, .none⟩, .inr ⟨e, e', rfl, rfl, he, fun hid => ?_⟩⟩
      rw [hid]
      exact congrArg (Contents.mk · none) h.tables.without_self
  refine Attempt.Twins.bind (Attempt.twins_committed .same lockTimeout (fun s₁ => ?_)
    (fun _ _ => h) fun _ _ => hundone)
  refine Attempt.Twins.bind (Attempt.twins_lift (Script.twins_now fun now s₂ => ?_))
  refine Attempt.twins_timed "claim_next" ((hquery now s₂).mono ?_ fun _ _ _ _ hsaved _ => hsaved)
  rintro taken taken' - c₁ c₁' ⟨hsaved, hsaved', htakes⟩ s₃
  refine ⟨hsaved, hsaved', fun s₄ => ?_⟩
  obtain ⟨hsame, ⟨rfl, rfl⟩ | ⟨e, e', rfl, rfl, he, heq⟩⟩ := htakes
  · exact Attempt.twins_pure ⟨hsame, .inl ⟨rfl, rfl⟩⟩
  · exact Attempt.Twins.bind (Attempt.twins_lift (Script.twins_log fun s₅ =>
      Attempt.twins_pure ⟨hsame, .inr ⟨e, e', rfl, rfl, he, heq⟩⟩))

/-! ### Records -/

variable {row row' : ResultRow}

/-- The row has been added to both. -/
def Adds (row row' : ResultRow) (c c' : Contents) : Prop :=
  ∃ t : Tables, c = ⟨t.recording row, none⟩ ∧ c' = ⟨t.recording row', none⟩

/-- Both rows are written, or neither is and nothing is different. -/
lemma tryWrite_twins (h : row.SameBut i row') :
    (tryWrite lockTimeout row).Twins (Statement.Echoes i) (tryWrite lockTimeout row') s c c
      (fun _ _ _ c₁ c₁' => Adds row row' c₁ c₁') fun _ _ c₁ c₁' => c₁' = c₁ := by
  have hquery (s₁ : Session) :
      (Attempt.query (.insertResult row)).Twins (Statement.Echoes i)
        (Attempt.query (.insertResult row')) s₁ ⟨c.tables, some c.tables⟩ ⟨c.tables, some c.tables⟩
        (fun _ _ _ c₁ c₁' => c₁ = ⟨c.tables.recording row, some c.tables⟩ ∧
          c₁' = ⟨c.tables.recording row', some c.tables⟩)
        fun _ _ c₁ c₁' => c₁.saved = some c.tables ∧ c₁'.saved = some c.tables := by
    refine Attempt.twins_query (.row h) rfl (fun d s₂ => ?_) fun fault s₂ => ⟨rfl, rfl⟩
    rw [Tables.apply, Tables.apply, Query.refusal?, Query.refusal?, h.refusal?_eq]
    cases row.refusal? with
    | some fault => exact ⟨rfl, rfl, rfl⟩
    | none =>
        have hid : row'.id = row.id := by rw [h.rest]
        dsimp only [Tables.answer]
        rw [hid]
        by_cases hany : (c.tables.results.any fun r => decide (r.id = row.id)) = true
        · rw [if_pos hany, if_pos hany]
          exact ⟨rfl, rfl, rfl⟩
        · rw [if_neg hany, if_neg hany]
          exact ⟨rfl, rfl⟩
  refine Attempt.twins_committed .same lockTimeout (fun s₁ => ?_) (fun _ _ => rfl) fun _ _ => rfl
  refine Attempt.Twins.bind (Attempt.twins_timed "insert_job_result" ((hquery s₁).mono ?_ ?_))
  · rintro _ _ s₂ _ _ ⟨rfl, rfl⟩ s₃
    exact Attempt.twins_pure ⟨rfl, rfl, fun _ => ⟨c.tables, rfl, rfl⟩⟩
  · exact fun _ _ _ _ hsaved _ => hsaved

/-- Both results are written in the end, or neither is and nothing is different. -/
lemma writeWithin_twins (h : row.SameBut i row') (attempts : ℕ) :
    (writeWithin lockTimeout row attempts).Twins (Statement.Echoes i)
      (writeWithin lockTimeout row' attempts) s c c fun o o' _ c₁ c₁' =>
        Agree (fun _ _ => Adds row row' c₁ c₁') (fun _ => c₁' = c₁) o o' := by
  have hgiveUp (fault : StoreError) (s : Session) (c : Contents) :
      (giveUp fault).Twins (Statement.Echoes i) (giveUp fault) s c c fun o o' _ c₁ c₁' =>
        Agree (fun _ _ => Adds row row' c₁ c₁') (fun _ => c₁' = c₁) o o' :=
    Script.Twins.bind (Script.twins_log fun s₁ => Script.twins_pure ⟨rfl, rfl⟩)
  induction attempts generalizing s c with
  | zero =>
      refine Script.Twins.bind (Script.Twins.mono (tryWrite_twins h)
        fun o o' s₁ c₁ c₁' hagree => ?_)
      obtain ⟨-, -, rfl, rfl, hadds⟩ | ⟨fault, rfl, rfl, rfl⟩ := hagree.cases
      · exact Script.twins_pure hadds
      · exact hgiveUp fault s₁ _
  | succ attempts ih =>
      refine Script.Twins.bind (Script.Twins.mono (tryWrite_twins h)
        fun o o' s₁ c₁ c₁' hagree => ?_)
      obtain ⟨-, -, rfl, rfl, hadds⟩ | ⟨fault, rfl, rfl, rfl⟩ := hagree.cases
      · exact Script.twins_pure hadds
      · dsimp only
        split
        · exact Script.Twins.bind (Script.twins_log fun s₂ => ih)
        · exact hgiveUp fault s₁ _

/-- Both results are recorded, with rows that are the same but for the parameters, or neither is and
nothing is different. -/
lemma record_twins (h : row.SameBut i row') : (record lockTimeout row).Twins (Statement.Echoes i)
    (record lockTimeout row') s c c
    (fun kept kept' _ c₁ c₁' => kept.SameBut i kept' ∧ Adds kept kept' c₁ c₁')
    fun _ _ c₁ c₁' => c₁' = c₁ := by
  refine Script.Twins.bind ((writeWithin_twins h _).mono fun o o' s₁ c₁ c₁' hagree => ?_)
  obtain ⟨-, -, rfl, rfl, hadds⟩ | ⟨fault, rfl, rfl, rfl⟩ := hagree.cases
  · exact Script.twins_pure ⟨h, hadds⟩
  · dsimp only
    rw [h.isError_eq]
    split
    · exact Script.twins_pure ⟨rfl, rfl⟩
    · refine Script.Twins.bind ((writeWithin_twins (h.unstorable fault) _).mono
        fun o o' s₂ c₂ c₂' hagree => ?_)
      obtain ⟨-, -, rfl, rfl, hadds⟩ | ⟨fault', rfl, rfl, rfl⟩ := hagree.cases
      · exact Script.twins_pure ⟨h.unstorable fault, hadds⟩
      · exact Script.twins_pure ⟨rfl, rfl⟩

/-! ### Rounds -/

variable {g : Registry Body} {r : Registration Body} {e e' : Entry} {s₀ : Session}

/-- A job that does not want parameters gets the same context. -/
lemma contextOf_eq (h : e.SameBut i e') (hr : r.capabilities.wantsParameters = false) :
    contextOf r e' = contextOf r e := by
  rw [contextOf, contextOf, Context.build, Context.build, hr, h.rest]
  rfl

lemma resultOf_sameBut (h : e.SameBut i e') (hid : e.id = i) (executedAt : Instant)
    (ending : Ending) : (resultOf e' executedAt ending).1 = (resultOf e executedAt ending).1 ∧
      (resultOf e executedAt ending).2.SameBut i (resultOf e' executedAt ending).2 := by
  rw [h.rest]
  cases ending <;> exact ⟨rfl, hid, rfl, h.refusal⟩

/-- The body runs in the same way. -/
lemma execute_twins (h : e.SameBut i e') (hid : e.id = i)
    (hr : r.capabilities.wantsParameters = false) :
    (execute r e).Twins (Statement.Echoes i) (execute r e') s c c fun row row' _ c₁ c₁' =>
      row.SameBut i row' ∧ c₁' = c₁ := by
  have hname : e'.jobName = e.jobName := by rw [h.rest]
  rw [execute, execute, contextOf_eq h hr, hname]
  refine Script.Twins.bind (Script.twins_now fun executedAt s₁ => ?_)
  refine Script.Twins.bind (Script.twins_log fun s₂ => ?_)
  -- The body starts from the same session in the same context.
  refine Script.Twins.bind ((Script.twins_self .same _ s₂ c).mono ?_)
  rintro _ ending s₃ _ c₁ ⟨rfl, rfl⟩
  obtain ⟨hnotice, hrow⟩ := resultOf_sameBut h hid executedAt ending
  refine Script.Twins.bind (Script.twins_record fun s₄ => ?_)
  dsimp only
  rw [hnotice]
  exact Script.Twins.bind (Script.twins_log fun s₅ => Script.twins_pure ⟨hrow, rfl⟩)

/-- The contents are the same, but for the parameters of the row that has been recorded last. -/
def EndsAlike (i : EntryId) (c c' : Contents) : Prop :=
  c' = c ∨ ∃ kept kept' : ResultRow, kept.SameBut i kept' ∧ Adds kept kept' c c'

/-- A claimed entry is dealt with in the same way. -/
lemma handle_twins (h : e.SameBut i e') (hid : e.id = i)
    (hr : ∀ r, g.find? e.jobName = some r → r.capabilities.wantsParameters = false) :
    (handle g lockTimeout e).Twins (Statement.Echoes i) (handle g lockTimeout e') s c c
      (fun outcome outcome' _ c₁ c₁' => outcome' = outcome ∧ EndsAlike i c₁ c₁')
      fun _ _ c₁ c₁' => c₁' = c₁ := by
  have hname : e'.jobName = e.jobName := by rw [h.rest]
  rw [handle, handle, hname, h.id_eq]
  cases hfind : g.find? e.jobName with
  | none =>
      refine Attempt.Twins.bind (Attempt.twins_lift (Script.twins_log fun s₁ => ?_))
      refine Attempt.Twins.bind (Attempt.twins_lift (Script.twins_record fun s₂ => ?_))
      exact Attempt.twins_pure ⟨rfl, .inl rfl⟩
  | some r =>
      refine Attempt.Twins.bind (Attempt.twins_lift ((execute_twins h hid (hr r hfind)).mono ?_))
      rintro row row' s₁ c₁ _ ⟨hrow, rfl⟩
      refine Attempt.Twins.bind ((record_twins hrow).mono ?_ fun _ _ _ _ heq => heq)
      rintro kept kept' s₂ c₂ c₂' ⟨hkept, hadds⟩
      have houtcome : WorkOutcome.ofResult e' kept' = WorkOutcome.ofResult e kept := by
        rw [WorkOutcome.ofResult, WorkOutcome.ofResult, hkept.isError_eq, hname, h.id_eq]
      dsimp only
      rw [houtcome]
      exact Attempt.Twins.bind (Attempt.twins_lift (Script.twins_record fun s₃ =>
        Attempt.twins_pure ⟨rfl, .inr ⟨kept, kept', hkept, hadds⟩⟩))

/-- The claim takes the entry, and leaves the session `s₀`. -/
def Claims (lockTimeout : Duration) (s : Session) (entry : Entry) (s₀ : Session) : Prop :=
  (claim lockTimeout).run.run s = (.ok (.ok (some entry)), s₀)

/-- If the entry `i` is claimed, the sessions are the same from then on. -/
lemma Claims.alike (hclaims : Claims lockTimeout (s.bearing c) e s₀) (h : c.SameBut i c')
    (hid : e.id = i) : ∃ e', Claims lockTimeout (s.bearing c') e' s₀ ∧ e.SameBut i e' := by
  have htwins : (claim lockTimeout).Twins (Statement.Echoes i) (claim lockTimeout) s c c' _ _ :=
    claim_twins h
  obtain ⟨-, ⟨halt, s₁, hrun, -⟩ | ⟨o, o', s₁, c₁, c₁', hrun, hrun', hagree⟩⟩ := htwins
  · cases hrun.symm.trans hclaims
  · obtain ⟨ho, rfl⟩ := Prod.mk.inj (hrun.symm.trans hclaims)
    obtain rfl := Except.ok.inj ho
    obtain ⟨taken, taken', htaken, rfl, -, htakes⟩ | ⟨fault, hfault, -⟩ := hagree.cases
    · obtain rfl := Except.ok.inj htaken
      obtain ⟨hnone, -⟩ | ⟨e, e', he, rfl, hsame, heq⟩ := htakes
      · cases hnone
      · obtain rfl := Option.some.inj he
        rw [heq hid] at hrun'
        exact ⟨e', hrun', hsame⟩
    · cases hfault

/-- A round that has claimed an entry makes no difference but in the row that is recorded; one that
has not leaves the difference in the entry. -/
def RoundsAlike (i : EntryId) (lockTimeout : Duration) (start : Session) (c c' : Contents) : Prop :=
  (∃ entry s₀, Claims lockTimeout start entry s₀) ∧ EndsAlike i c c' ∨
    (∀ entry s₀, ¬ Claims lockTimeout start entry s₀) ∧ c.SameBut i c'

lemma runOnce_twins (h : c.SameBut i c')
    (hentry : ∀ entry s₀, Claims lockTimeout (s.bearing c) entry s₀ → entry.id = i ∧
      ∀ r, g.find? entry.jobName = some r → r.capabilities.wantsParameters = false) :
    (runOnce g lockTimeout).Twins (Statement.Echoes i) (runOnce g lockTimeout) s c c'
      fun o o' _ c₁ c₁' => o' = o ∧ RoundsAlike i lockTimeout (s.bearing c) c₁ c₁' := by
  have hround : (Task.ready g lockTimeout).left.Twins (Statement.Echoes i)
      (Task.ready g lockTimeout).left s c c'
      fun o o' _ c₁ c₁' => o' = o ∧ RoundsAlike i lockTimeout (s.bearing c) c₁ c₁' := by
    rw [Task.left, ExceptT.run_bind]
    refine Script.Twins.bind (Script.Twins.imp (claim_twins h) fun o o' s₁ c₁ c₁' hrun hagree => ?_)
    obtain ⟨taken, taken', rfl, rfl, htakes⟩ | ⟨fault, rfl, rfl, hsame⟩ := hagree.cases
    · obtain ⟨hsame, ⟨rfl, rfl⟩ | ⟨e, e', rfl, rfl, he, heq⟩⟩ := htakes
      · refine Script.twins_pure ⟨rfl, .inr ⟨fun entry s₀ hclaims => ?_, hsame⟩⟩
        cases hrun.symm.trans hclaims
      · have hclaims : Claims lockTimeout (s.bearing c) e (s₁.bearing c₁) := hrun
        obtain ⟨hid, hr⟩ := hentry e _ hclaims
        -- The entry was all that was different, and it is out of the queue.
        obtain rfl := heq hid
        dsimp only
        rw [map_eq_pure_bind, map_eq_pure_bind, ExceptT.run_bind, ExceptT.run_bind]
        refine Script.Twins.bind (Script.Twins.mono (handle_twins he hid hr)
          fun o o' s₂ c₂ c₂' hagree => ?_)
        obtain ⟨outcome, _, rfl, rfl, rfl, hends⟩ | ⟨fault, rfl, rfl, rfl⟩ := hagree.cases
        · exact Script.twins_pure ⟨rfl, .inl ⟨⟨e, _, hclaims⟩, hends⟩⟩
        · exact Script.twins_pure ⟨rfl, .inl ⟨⟨e, _, hclaims⟩, .inl rfl⟩⟩
    · refine Script.twins_pure ⟨rfl, .inr ⟨fun entry s₀ hclaims => ?_, hsame⟩⟩
      cases hrun.symm.trans hclaims
  rw [Task.runOnce_eq_left]
  refine Script.Twins.bind (hround.mono ?_)
  rintro _ o s₁ c₁ c₁' ⟨rfl, hends⟩
  exact Script.twins_pure ⟨rfl, hends⟩

/-- What two rounds leave. -/
lemma RoundsAlike.sessions {t t' : Session} (h : t' = t ∨ ∃ t₀ c₁ c₁', t = Session.bearing t₀ c₁ ∧
      t' = Session.bearing t₀ c₁' ∧ RoundsAlike i lockTimeout s c₁ c₁') :
    ((∃ entry s₀, Claims lockTimeout s entry s₀) → t.EchoesOnly i t') ∧
      ((∀ entry s₀, ¬ Claims lockTimeout s entry s₀) → t.SameBut i t') := by
  obtain rfl | ⟨t₀, c₁, c₁', rfl, rfl, ⟨⟨entry, s₀, hclaims⟩, hends⟩ | ⟨hnone, hsame⟩⟩ := h
  · exact ⟨fun _ => .inl rfl, fun _ => ⟨rfl, .refl i _⟩⟩
  · refine ⟨fun _ => ?_, fun hnone => absurd hclaims (hnone entry s₀)⟩
    obtain rfl | ⟨kept, kept', hkept, t, rfl, rfl⟩ := hends
    · exact .inl rfl
    · exact .inr ⟨kept, kept', t, hkept, rfl, rfl⟩
  · exact ⟨fun ⟨entry, s₀, hclaims⟩ => absurd hclaims (hnone entry s₀), fun _ => ⟨rfl, hsame⟩⟩

/-- **Undeclared parameters only echo.** Take two sessions that are the same but for the parameters
of the entry that is claimed, and a job that does not want parameters, whatever its body. The body
gets the same context, without parameters, in the same session. The rounds have the same outcome,
or both never end, and send the same statements but for the parameters of the rows that they insert.
They leave the same session but for the parameters of the row that is recorded, or of the entry if
none is claimed. A job that does not want the store does not get it either. -/
theorem undeclared_parameters_only_echo {s' : Session} (hsame : s.SameBut i s')
    (hentry : ∀ entry s₀, (claim lockTimeout).run.run s = (.ok (.ok (some entry)), s₀) →
      entry.id = i ∧
        ∀ r, g.find? entry.jobName = some r → r.capabilities.wantsParameters = false) :
    ((runOnce g lockTimeout).run s').1 = ((runOnce g lockTimeout).run s).1 ∧
    Forall₂ (Statement.Echoes i) ((runOnce g lockTimeout).sent s)
      ((runOnce g lockTimeout).sent s') ∧
    (∀ entry s₀, (claim lockTimeout).run.run s = (.ok (.ok (some entry)), s₀) →
      (∃ entry', (claim lockTimeout).run.run s' = (.ok (.ok (some entry')), s₀) ∧
        entry.SameBut i entry' ∧ ∀ r, g.find? entry.jobName = some r →
          contextOf r entry' = contextOf r entry ∧
          (contextOf r entry).parameters = .error (.parametersNotDeclared entry.jobName)) ∧
      ((runOnce g lockTimeout).run s).2.EchoesOnly i ((runOnce g lockTimeout).run s').2) ∧
    ((∀ entry s₀, (claim lockTimeout).run.run s ≠ (.ok (.ok (some entry)), s₀)) →
      ((runOnce g lockTimeout).run s).2.SameBut i ((runOnce g lockTimeout).run s').2) ∧
    ∀ (r : Registration Body) (entry : Entry), r.capabilities.wantsStore = false →
      (contextOf r entry).hasStore = false ∧
        (contextOf r entry).store = .error (.storeNotDeclared entry.jobName) := by
  obtain ⟨hrest, hcontents⟩ := hsame
  generalize s'.store.contents = c' at hrest hcontents
  subst hrest
  obtain ⟨hsent, hends⟩ := runOnce_twins (g := g) (s := s) (c := s.store.contents) hcontents hentry
  have hsessions : ((runOnce g lockTimeout).run (s.bearing c')).1 =
        ((runOnce g lockTimeout).run s).1 ∧
      (((runOnce g lockTimeout).run (s.bearing c')).2 = ((runOnce g lockTimeout).run s).2 ∨
        ∃ t₀ c₁ c₁', ((runOnce g lockTimeout).run s).2 = Session.bearing t₀ c₁ ∧
          ((runOnce g lockTimeout).run (s.bearing c')).2 = Session.bearing t₀ c₁' ∧
          RoundsAlike i lockTimeout s c₁ c₁') := by
    obtain ⟨halt, t, hrun, hrun'⟩ | ⟨_, o, t₀, c₁, c₁', hrun, hrun', rfl, hrounds⟩ := hends
    · have hrun : (runOnce g lockTimeout).run s = (.error halt, t) := hrun
      rw [hrun, hrun']
      exact ⟨rfl, .inl rfl⟩
    · have hrun : (runOnce g lockTimeout).run s = (.ok o, t₀.bearing c₁) := hrun
      rw [hrun, hrun']
      exact ⟨rfl, .inr ⟨t₀, c₁, c₁', rfl, rfl, hrounds⟩⟩
  obtain ⟨hechoes, hwaits⟩ := RoundsAlike.sessions hsessions.2
  refine ⟨hsessions.1, hsent, fun entry s₀ hclaims => ⟨?_, hechoes ⟨entry, s₀, hclaims⟩⟩,
    hwaits, fun r entry hr => ?_⟩
  · obtain ⟨hid, hr⟩ := hentry entry s₀ hclaims
    obtain ⟨entry', hclaims', hentry'⟩ :=
      Claims.alike (s := s) (c := s.store.contents) hclaims hcontents hid
    refine ⟨entry', hclaims', hentry', fun r hfind => ⟨contextOf_eq hentry' (hr r hfind), ?_⟩⟩
    have hname : (contextOf r entry).parameters =
        .error (.parametersNotDeclared (contextOf r entry).jobName) := by
      rw [contextOf, Context.build, hr r hfind]
      rfl
    exact hname
  · rw [contextOf, Context.build, Context.store, hr]
    exact ⟨rfl, rfl⟩

/-- A job that counts the waiting entries; it wants the store, and no parameters. -/
def countingJob : Registration Body := ⟨"count", none, .store, Body.counting⟩

/-- An entry of the job waits with the given parameters, behind one for another day. -/
def waitingWith (parameters : Json) : Session :=
  .still { Store.new with tables := { Tables.empty with
    queue := [⟨.drawn 0, "count", none, parameters, none, none, 0⟩,
      ⟨.drawn 1, "count", some (.ofSecs 946771200), .null, none, none, 1⟩] } } (.ofSecs 946684800)

lemma waitingWith_sameBut : (waitingWith .null).SameBut (.drawn 0) (waitingWith (.bool true)) where
  rest := rfl
  contents := ⟨⟨.cons ⟨rfl, fun h => absurd rfl h, rfl⟩ (.cons (.refl _ _) .nil), rfl, rfl⟩, .none⟩

theorem undeclared_parameters_only_echo_counting :
    ((runOnce ⟨[countingJob]⟩ (.ofSecs 5)).run (waitingWith (.bool true))).1 =
      ((runOnce ⟨[countingJob]⟩ (.ofSecs 5)).run (waitingWith .null)).1 ∧
    Forall₂ (Statement.Echoes (.drawn 0))
      ((runOnce ⟨[countingJob]⟩ (.ofSecs 5)).sent (waitingWith .null))
      ((runOnce ⟨[countingJob]⟩ (.ofSecs 5)).sent (waitingWith (.bool true))) ∧
    ((runOnce ⟨[countingJob]⟩ (.ofSecs 5)).run (waitingWith .null)).2.EchoesOnly (.drawn 0)
      ((runOnce ⟨[countingJob]⟩ (.ofSecs 5)).run (waitingWith (.bool true))).2 ∧
    ((runOnce ⟨[countingJob]⟩ (.ofSecs 5)).run (waitingWith .null)).1 =
      .ok (.ok (some (.succeeded (.drawn 0) "count"))) := by
  have hclaim : (claim (.ofSecs 5)).run.run (waitingWith .null) =
      (.ok (.ok (some ⟨.drawn 0, "count", none, .null, none, none, 0⟩)), _) := rfl
  have hentry : ∀ entry s₀, (claim (.ofSecs 5)).run.run (waitingWith .null) =
      (.ok (.ok (some entry)), s₀) → entry.id = .drawn 0 ∧
        ∀ r, (⟨[countingJob]⟩ : Registry Body).find? entry.jobName = some r →
          r.capabilities.wantsParameters = false := by
    intro entry s₀ h
    obtain ⟨hentry, -⟩ := Prod.mk.inj (h.symm.trans hclaim)
    obtain rfl := Option.some.inj (Except.ok.inj (Except.ok.inj hentry))
    refine ⟨rfl, fun r hr => ?_⟩
    obtain rfl := List.mem_singleton.mp (List.mem_of_find?_eq_some hr)
    rfl
  obtain ⟨houtcome, hsent, hclaimed, -⟩ :=
    undeclared_parameters_only_echo waitingWith_sameBut hentry
  exact ⟨houtcome, hsent, (hclaimed _ _ hclaim).2, by decide +kernel⟩

end Worker

end JobDispatch
