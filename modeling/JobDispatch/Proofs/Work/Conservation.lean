import JobDispatch.Proofs.Work.Claim
import JobDispatch.Proofs.Work.Floor
import Mathlib.Data.List.Basic

/-!
What becomes of every entry.

* `Floor.Fits`: what a task relies on, by how far it has come.
* `Floor.Sound`: the invariant of all runs.
* `Floor.conservation`: every entry that was ever added waits or has been claimed once, its body is
  started at most once, and at most one result is received, both only after the claim.
-/

namespace JobDispatch

lemma gained_of_subperm {before after : List EntryId} (h : after.Subperm before) :
    gained before after = [] := by
  refine List.filter_eq_nil_iff.mpr fun id hid => ?_
  simpa using h.subset hid

lemma gained_append {before fresh : List EntryId} (h : ∀ id ∈ fresh, id ∉ before) :
    gained before (before ++ fresh) = fresh := by
  have hbefore := gained_of_subperm (List.Subperm.refl before)
  rw [gained] at hbefore ⊢
  rw [List.filter_append, hbefore, List.nil_append, List.filter_eq_self]
  simpa using h

/-- What may come in addition is gained once or not at all. -/
lemma gained_of_subperm_cons {before after : List EntryId} {id : EntryId}
    (h : after.Subperm (id :: before)) : gained before after = [] ∨ gained before after = [id] := by
  refine List.subperm_singleton_iff.mp ?_
  have hgained := h.filter fun a => decide (a ∉ before)
  rw [List.filter_cons] at hgained
  have hbefore := gained_of_subperm (List.Subperm.refl before)
  rw [gained] at hbefore ⊢
  rw [hbefore] at hgained
  split at hgained
  · exact hgained
  · exact hgained.trans (List.nil_sublist _).subperm

/-- Without an open transaction there is nothing to bring back. -/
lemma Store.restored_of_closed {st : Store} (h : st.saved = none) : st.restored = st := by
  obtain ⟨tables, saved, faults, lots, turn, lockTimeout⟩ := st
  obtain rfl : saved = none := h
  rfl

lemma Store.tables_restored {st : Store} (h : st.saved = none) :
    st.restored.tables = st.tables := congrArg Store.tables (restored_of_closed h)

namespace Floor

variable {ι : Type}

/-! ### The invariant -/

/-- What is left of a task follows the rules. A round has claimed its entry, starts it only once,
and holds the credit for its result only while that has not been received. -/
def Fits (w : Floor ι) (i : ι) : Task → Prop
  | .errand p => p.Follows Credit.protocol ⟨none, none⟩ fun _ _ => True
  | .ready g _ => ∀ r ∈ g.jobs, ∀ c, (r.body c).Only Statement.Tame
  | .claimed g _ e => (∀ r ∈ g.jobs, ∀ c, (r.body c).Only Statement.Tame) ∧ (i, e.id) ∈ w.claims ∧
      (i, e.id) ∉ w.starts ∧ e.id ∉ w.received
  | .running _ e p => (i, e.id) ∈ w.claims ∧ e.id ∉ w.received ∧
      p.Follows Credit.protocol ⟨none, none⟩ fun row _ => row.id = e.id
  | .recording e p => (i, e.id) ∈ w.claims ∧ ∃ row,
      p.Follows Credit.protocol ⟨row, none⟩ (fun _ _ => True) ∧
      (row = none ∨ row = some e.id ∧ e.id ∉ w.received)
  | .finished => True

/-- Every entry that was added waits or has been claimed, bodies are started and results received
for claimed entries only and once, and all tasks fit in. -/
structure Sound (w : Floor ι) : Prop where
  closed : w.store.saved = none
  drawn : ∀ n, .drawn n ∈ w.inserted → n ≤ w.store.turn
  distinct : w.inserted.Nodup
  account : (w.store.tables.waiting ++ w.claims.map Prod.snd).Perm w.inserted
  started : w.starts ⊆ w.claims
  once : w.starts.Nodup
  receipts : w.received ⊆ w.claims.map Prod.snd
  recorded : w.received.Nodup
  fits : ∀ i, w.Fits i (w.tasks i)

variable {w w' : Floor ι} {i j : ι} {t : Task}

/-- A task fits in while no others start its entry or receive its result. -/
lemma Fits.mono (h : w.Fits i t) (hclaims : w.claims ⊆ w'.claims)
    (hstarts : ∀ e, t.entry? = some e → (i, e.id) ∈ w'.starts → (i, e.id) ∈ w.starts)
    (hreceived : ∀ e, t.entry? = some e → (i, e.id) ∈ w.claims → e.id ∈ w'.received →
      e.id ∈ w.received) : w'.Fits i t := by
  cases t with
  | errand p => exact h
  | ready g lockTimeout => exact h
  | finished => trivial
  | claimed g lockTimeout e =>
      obtain ⟨hbodies, hclaim, hstart, hresult⟩ := h
      exact ⟨hbodies, hclaims hclaim, hstart ∘ hstarts e rfl, hresult ∘ hreceived e rfl hclaim⟩
  | running lockTimeout e p =>
      obtain ⟨hclaim, hresult, hfollows⟩ := h
      exact ⟨hclaims hclaim, hresult ∘ hreceived e rfl hclaim, hfollows⟩
  | recording e p =>
      obtain ⟨hclaim, row, hfollows, hrow⟩ := h
      refine ⟨hclaims hclaim, row, hfollows, hrow.imp_right fun hrow => ?_⟩
      exact ⟨hrow.1, hrow.2 ∘ hreceived e rfl hclaim⟩

namespace Sound

/-- No entry is claimed twice. -/
lemma nodup_claims (h : w.Sound) : (w.claims.map Prod.snd).Nodup :=
  (List.nodup_append.mp (h.account.nodup_iff.mpr h.distinct)).2.1

/-- An entry is claimed by one task only. -/
lemma caller_unique (h : w.Sound) {id : EntryId} (hi : (i, id) ∈ w.claims)
    (hj : (j, id) ∈ w.claims) : i = j :=
  congrArg Prod.fst (List.inj_on_of_nodup_map h.nodup_claims hi hj rfl)

/-- An entry that waits has not been claimed. -/
lemma not_claimed (h : w.Sound) {id : EntryId} (hid : id ∈ w.store.tables.waiting) :
    id ∉ w.claims.map Prod.snd := fun hclaimed =>
  (List.nodup_append.mp (h.account.nodup_iff.mpr h.distinct)).2.2 id hid id hclaimed rfl

/-- A step that adds, claims and receives nothing, and starts at most the claimed entry of a task,
keeps the invariant if the tasks fit in. -/
lemma of_still (h : w.Sound) (hclosed : w'.store.saved = none)
    (hwaiting : w'.store.tables.waiting = w.store.tables.waiting)
    (hturn : w.store.turn ≤ w'.store.turn) (hinserted : w'.inserted = w.inserted)
    (hclaims : w'.claims = w.claims) (hreceived : w'.received = w.received)
    (hstarts : w'.starts = w.starts ∨
      ∃ start ∈ w.claims, start ∉ w.starts ∧ w'.starts = w.starts ++ [start])
    (hfits : ∀ j, w'.Fits j (w'.tasks j)) : w'.Sound where
  closed := hclosed
  drawn := fun n hn => Nat.le_trans (h.drawn n (hinserted ▸ hn)) hturn
  distinct := hinserted ▸ h.distinct
  account := by rw [hwaiting, hclaims, hinserted]; exact h.account
  started := by
    rw [hclaims]
    obtain hsame | ⟨start, hclaim, -, hnew⟩ := hstarts
    · exact hsame ▸ h.started
    · intro start' hstart
      rw [hnew] at hstart
      rcases List.mem_append.mp hstart with hstart | hstart
      · exact h.started hstart
      · exact List.mem_singleton.mp hstart ▸ hclaim
  once := by
    obtain hsame | ⟨start, -, hfresh, hnew⟩ := hstarts
    · exact hsame ▸ h.once
    · rw [hnew]
      exact List.nodup_append.mpr ⟨h.once, List.nodup_singleton _, fun a ha b hb heq =>
        hfresh (List.mem_singleton.mp hb ▸ heq ▸ ha)⟩
  receipts := by rw [hreceived, hclaims]; exact h.receipts
  recorded := hreceived ▸ h.recorded
  fits := hfits

end Sound

/-- An entry that has been claimed has been claimed once. -/
lemma Sound.claims_of_mem (h : w.Sound) {id : EntryId} (hi : (i, id) ∈ w.claims) :
    (w.claims.filter fun c => c.2 = id) = [(i, id)] := by
  have hnodup : w.claims.Nodup := h.nodup_claims.of_map _
  have hperm : (w.claims.filter fun c => c.2 = id).Perm [(i, id)] := by
    refine (List.perm_ext_iff_of_nodup (hnodup.filter _) (List.nodup_singleton _)).mpr fun c => ?_
    rw [List.mem_filter, List.mem_singleton, decide_eq_true_iff]
    constructor
    · rintro ⟨hc, hid⟩
      exact List.inj_on_of_nodup_map h.nodup_claims hc hi hid
    · rintro rfl
      exact ⟨hi, rfl⟩
  exact List.perm_singleton.mp hperm

/-- No body is started twice, by whatever rounds. -/
lemma Sound.nodup_starts (h : w.Sound) : (w.starts.map Prod.snd).Nodup :=
  h.once.map_on fun _ ha _ hb heq =>
    List.inj_on_of_nodup_map h.nodup_claims (h.started ha) (h.started hb) heq

lemma Errand.tame {p : Script Unit} (h : Errand p) : p.Only Statement.Tame := by
  have hends {α : Type} {p : Script α} (hp : p.Only Statement.Spares) :
      (do let _ ← p : Script Unit).Only Statement.Tame :=
    (hp.mono fun _ => Statement.Spares.tame).bind fun _ => Script.only_pure ()
  cases h with
  | enqueue i r => exact hends (i.enqueue_spares r)
  | cycle u g now => exact hends (u.runOnce_spares g now)
  | tick u g e => exact hends (u.tick_spares g e)
  | election e wasLeader => exact hends (e.round_spares wasLeader)
  | other p hp => exact hp

lemma Begins.fits (h : Begins t) : w.Fits i t := by
  cases h with
  | errand hp => exact hp.tame.follows_credit _
  | round g lockTimeout hbodies => exact hbodies

lemma Starts.sound (h : w.Starts) : w.Sound where
  closed := h.closed
  drawn := fun n hn => by
    rw [h.inserted] at hn
    obtain ⟨e, he, hid⟩ := List.mem_map.mp hn
    exact h.keyed.drawn e he n hid
  distinct := h.inserted ▸ h.keyed.distinct
  account := by rw [h.claims, h.inserted, List.map_nil, List.append_nil]
  started := by rw [h.starts]; exact List.nil_subset _
  once := by rw [h.starts]; exact List.nodup_nil
  receipts := by rw [h.received]; exact List.nil_subset _
  recorded := by rw [h.received]; exact List.nodup_nil
  fits := fun i => (h.tasks i).fits

/-- What a turn of a task does: the tables come from those before it, with the credit that the task
had for a result, and the task fits in again, unless it has used its credit before. -/
lemma Fits.turn (h : w.Fits i t) (hsaved : w.store.saved = none) (clock : Nat → Instant) :
    ∃ c c', w.store.turn ≤ (t.turn (w.store.session clock)).2.store.turn ∧
      w.store.tables.Since w.store.turn c
        (t.turn (w.store.session clock)).2.store.restored.tables
        (t.turn (w.store.session clock)).2.store.turn c' ∧
      (∀ id, c = some id → (i, id) ∈ w.claims ∧ id ∉ w.received) ∧
      ∀ received, (c' = c → received = w.received) →
        { w with received }.Fits i (t.turn (w.store.session clock)).1 := by
  have hstill := Store.tables_restored hsaved
  have hsame (t' : Task) (hfits : w.Fits i t') :
      ∃ c c', w.store.turn ≤ w.store.turn ∧
        w.store.tables.Since w.store.turn c w.store.restored.tables w.store.turn c' ∧
        (∀ id, c = some id → (i, id) ∈ w.claims ∧ id ∉ w.received) ∧
        ∀ received, (c' = c → received = w.received) → { w with received }.Fits i t' := by
    refine ⟨none, none, Nat.le_refl _, hstill ▸ .refl _ _ _, nofun, fun received hsame => ?_⟩
    rw [hsame rfl]
    exact hfits
  have hcloses {α : Type} {p : Script α} (post : α → Prop) {c : Option EntryId}
      (hp : p.Follows Credit.protocol ⟨c, none⟩ fun v _ => post v) :=
    hp.turn_since (s := w.store.session clock) hsaved
  cases t with
  | ready g lockTimeout => exact hsame _ h
  | claimed g lockTimeout e => exact hsame _ h
  | finished => exact hsame _ h
  | errand p =>
      obtain ⟨c', hfollows, hturn, hsince⟩ := hcloses (fun _ => True) h
      obtain rfl : c' = none := hsince.kept.elim And.left And.left
      exact ⟨none, none, hturn, hsince, nofun, fun received _ => hfollows⟩
  | recording e p =>
      obtain ⟨hclaim, c, hp, hc⟩ := h
      obtain ⟨c', hfollows, hturn, hsince⟩ := hcloses (fun _ => True) hp
      refine ⟨c, c', hturn, hsince, fun id hid => ?_, fun received hreceived => ?_⟩
      · obtain hnone | ⟨hsome, hresult⟩ := hc
        · rw [hnone] at hid; cases hid
        · rw [hsome] at hid
          obtain rfl := Option.some.inj hid
          exact ⟨hclaim, hresult⟩
      · refine ⟨hclaim, c', hfollows, ?_⟩
        obtain ⟨hsame, -⟩ | ⟨hnone, -⟩ := hsince.kept
        · rw [hreceived hsame, hsame]
          exact hc
        · exact .inl hnone
  | running lockTimeout e p =>
      obtain ⟨hclaim, hresult, hp⟩ := h
      obtain ⟨c', hfollows, hturn, hsince⟩ := hcloses (fun row : ResultRow => row.id = e.id) hp
      obtain rfl : c' = none := hsince.kept.elim And.left And.left
      cases p with
      | done row =>
          -- the body has come to its end, and the round gets the credit for its result
          have hid : row.id = e.id := hp
          have hrecord : (Worker.record lockTimeout row).run.Follows Credit.protocol
              ⟨some row.id, none⟩ fun _ _ => True := Worker.record_follows row
          rw [hid] at hrecord
          exact hsame _ ⟨hclaim, some e.id, hrecord, .inr ⟨rfl, hresult⟩⟩
      | _ =>
          refine ⟨none, none, hturn, hsince, nofun, fun received hreceived => ?_⟩
          rw [hreceived rfl]
          exact ⟨hclaim, hresult, hfollows⟩

variable [DecidableEq ι]

lemma inserted_moved {store : Store}
    (h : store.restored.tables.waiting.Subperm w.store.tables.waiting) :
    (w.moved i t store).inserted = w.inserted := by
  show w.inserted ++ gained _ _ = _
  rw [gained_of_subperm h, List.append_nil]

lemma received_moved {store : Store}
    (h : store.restored.tables.kept.Subperm w.store.tables.kept) :
    (w.moved i t store).received = w.received := by
  show w.received ++ gained _ _ = _
  rw [gained_of_subperm h, List.append_nil]

namespace Sound

/-- The others fit in as before after a step of one task that has received at most a result for an
entry that it had claimed. -/
lemma fits_others (h : w.Sound) (hclaims : w.claims ⊆ w'.claims)
    (htasks : ∀ j ≠ i, w'.tasks j = w.tasks j)
    (hstarts : ∀ j ≠ i, ∀ id, (j, id) ∈ w'.starts → (j, id) ∈ w.starts)
    (hreceived : ∀ id ∈ w'.received, id ∈ w.received ∨ (i, id) ∈ w.claims)
    (hi : w'.Fits i (w'.tasks i)) : ∀ j, w'.Fits j (w'.tasks j) := by
  intro j
  by_cases hj : j = i
  · exact hj ▸ hi
  · rw [htasks j hj]
    refine (h.fits j).mono hclaims (fun e _ hstart => hstarts j hj _ hstart) fun e _ hclaim he => ?_
    rcases hreceived _ he with he | he
    · exact he
    · exact absurd (h.caller_unique hclaim he) hj

/-- A turn that has left tables from before it has added entries under new keys at most. -/
lemma inserted_since (h : w.Sound) {store : Store} {c c' : Option EntryId}
    (hturn : w.store.turn ≤ store.turn)
    (hsince : w.store.tables.Since w.store.turn c store.restored.tables store.turn c') :
    (∀ n, .drawn n ∈ (w.moved i t store).inserted → n ≤ store.turn) ∧
      (w.moved i t store).inserted.Nodup ∧
      (store.restored.tables.waiting ++ w.claims.map Prod.snd).Perm
        (w.moved i t store).inserted := by
  obtain ⟨fresh, hwaiting, hfresh, hdrawn⟩ := hsince.waiting
  have hnew : ∀ id ∈ fresh, id ∉ w.inserted := by
    intro id hid hold
    obtain ⟨m, rfl, hlow, -⟩ := hdrawn id hid
    exact absurd (h.drawn m hold) (Nat.not_le.mpr hlow)
  have hinserted : (w.moved i t store).inserted = w.inserted ++ fresh := by
    rw [moved, hwaiting, gained_append fun id hid hold => hnew id hid
      (h.account.subset (List.mem_append_left _ hold))]
  rw [hinserted]
  refine ⟨fun n hn => ?_, ?_, ?_⟩
  · rcases List.mem_append.mp hn with hn | hn
    · exact Nat.le_trans (h.drawn n hn) hturn
    · obtain ⟨m, hm, -, hhigh⟩ := hdrawn _ hn
      exact EntryId.drawn.inj hm ▸ hhigh
  · exact List.nodup_append.mpr ⟨h.distinct, hfresh, fun id hid id' hid' heq =>
      hnew id' hid' (heq ▸ hid)⟩
  · rw [hwaiting, List.append_assoc]
    calc
      (w.store.tables.waiting ++ (fresh ++ w.claims.map Prod.snd)).Perm
          (w.store.tables.waiting ++ (w.claims.map Prod.snd ++ fresh)) :=
        List.perm_append_comm.append_left _
      List.Perm _ (w.inserted ++ fresh) := by
        rw [← List.append_assoc]
        exact h.account.append_right _

/-- A turn receives a result only against the credit for it. -/
lemma received_since {store : Store} {c c' : Option EntryId}
    (hsince : w.store.tables.Since w.store.turn c store.restored.tables store.turn c') :
    (w.moved i t store).received = w.received ∨
      c' ≠ c ∧ ∃ id, c = some id ∧ (w.moved i t store).received = w.received ++ [id] := by
  obtain ⟨-, hkept⟩ | ⟨hnone, id, hid, hkept⟩ := hsince.kept
  · exact .inl (received_moved hkept)
  · obtain hgained | hgained := gained_of_subperm_cons hkept
    · exact .inl (by rw [moved, hgained, List.append_nil])
    · refine .inr ⟨?_, id, hid, by rw [moved, hgained]⟩
      rw [hnone, hid]
      exact nofun

/-- A turn of a task keeps the invariant. -/
lemma turned (h : w.Sound) (i : ι) (clock : Nat → Instant) :
    (w.moved i ((w.tasks i).turn (w.store.session clock)).1
      ((w.tasks i).turn (w.store.session clock)).2.store).Sound := by
  obtain ⟨c, c', hturn, hsince, hcredit, hfits⟩ := (h.fits i).turn h.closed clock
  set task := ((w.tasks i).turn (w.store.session clock)).1
  set store := ((w.tasks i).turn (w.store.session clock)).2.store
  obtain ⟨hdrawn, hdistinct, haccount⟩ := h.inserted_since (i := i) (t := task) hturn hsince
  have hreceived := received_since (w := w) (i := i) (t := task) hsince
  have hpast : ∀ id ∈ (w.moved i task store).received, id ∈ w.received ∨
      (i, id) ∈ w.claims := by
    intro id hid
    obtain hsame | ⟨-, id', hc, hnew⟩ := hreceived
    · exact .inl (hsame ▸ hid)
    · rw [hnew] at hid
      refine (List.mem_append.mp hid).imp_right fun hid => ?_
      exact List.mem_singleton.mp hid ▸ (hcredit id' hc).1
  refine ⟨rfl, hdrawn, hdistinct, haccount, h.started, h.once, fun id hid => ?_, ?_, ?_⟩
  · exact (hpast id hid).elim (fun hold => h.receipts hold) fun hclaim =>
      List.mem_map.mpr ⟨(i, id), hclaim, rfl⟩
  · obtain hsame | ⟨-, id, hc, hnew⟩ := hreceived
    · exact hsame ▸ h.recorded
    · rw [hnew]
      refine List.nodup_append.mpr ⟨h.recorded, List.nodup_singleton id, fun a ha b hb heq => ?_⟩
      exact (hcredit id hc).2 (List.mem_singleton.mp hb ▸ heq ▸ ha)
  · refine h.fits_others (i := i) (List.Subset.refl _)
      (fun j hj => Function.update_of_ne hj _ _) (fun _ _ _ hid => hid) hpast ?_
    have htask : (w.moved i task store).tasks i = task := Function.update_self _ _ _
    rw [htask]
    refine (hfits (w.moved i task store).received fun hsame => ?_).mono (List.Subset.refl _)
      (fun _ _ hid => hid) fun _ _ _ hid => hid
    exact hreceived.elim id fun hspent => absurd hsame hspent.1

/-- A task that goes on without the store keeps the invariant. -/
lemma rested (h : w.Sound) {store : Store} (ht : store.restored.tables = w.store.tables)
    (hturn : w.store.turn ≤ store.turn) (hfits : w.Fits i t) : (w.moved i t store).Sound := by
  have hinserted : (w.moved i t store).inserted = w.inserted :=
    inserted_moved (ht ▸ .refl _)
  have hreceived : (w.moved i t store).received = w.received := received_moved (ht ▸ .refl _)
  refine h.of_still rfl (congrArg Tables.waiting ht) hturn hinserted rfl hreceived (.inl rfl) ?_
  refine h.fits_others (i := i) (List.Subset.refl _) (fun j hj => Function.update_of_ne hj _ _)
    (fun _ _ _ hid => hid) (fun id hid => .inl (hreceived ▸ hid)) ?_
  have htask : (w.moved i t store).tasks i = t := Function.update_self _ _ _
  rw [htask]
  exact hfits.mono (List.Subset.refl _) (fun _ _ hid => hid) fun _ _ _ hid => hreceived ▸ hid

/-- The start of a body keeps the invariant. -/
lemma started_step (h : w.Sound) {g : Registry Body} {lockTimeout : Duration} {entry : Entry}
    (hi : w.tasks i = .claimed g lockTimeout entry) :
    ({ w.moved i (.start g lockTimeout entry) w.store with
      starts := w.starts ++ ofTask i (.start g lockTimeout entry) } : Floor ι).Sound := by
  have hentry := h.fits i
  rw [hi] at hentry
  obtain ⟨hbodies, hclaim, hstart, hresult⟩ := hentry
  have hstill := Store.tables_restored h.closed
  cases hr : g.find? entry.jobName with
  | none =>
      have hfinished : Task.start g lockTimeout entry = .finished := by rw [Task.start, hr]
      have hrested : (w.moved i .finished w.store).Sound := h.rested hstill (Nat.le_refl _) trivial
      rw [hfinished]
      exact (List.append_nil w.starts).symm ▸ hrested
  | some r =>
      have hrunning : Task.start g lockTimeout entry =
          .running lockTimeout entry (Worker.execute r entry) := by rw [Task.start, hr]
      have hbody : (r.body (Worker.contextOf r entry)).Only Statement.Tame :=
        hbodies r (List.mem_of_find?_eq_some hr) _
      have hrested : (w.moved i (.running lockTimeout entry (Worker.execute r entry))
          w.store).Sound :=
        h.rested hstill (Nat.le_refl _) ⟨hclaim, hresult, Worker.execute_follows hbody⟩
      rw [hrunning]
      refine hrested.of_still rfl rfl (Nat.le_refl _) rfl rfl rfl
        (.inr ⟨(i, entry.id), hclaim, hstart, rfl⟩) ?_
      refine hrested.fits_others (i := i) (List.Subset.refl _) (fun _ _ => rfl)
        (fun j hj id hid => ?_) (fun id hid => .inl hid) ?_
      · rcases List.mem_append.mp hid with hid | hid
        · exact hid
        · exact absurd (congrArg Prod.fst (List.mem_singleton.mp hid)) hj
      · have hfits := hrested.fits i
        have htask : (w.moved i (.running lockTimeout entry (Worker.execute r entry))
            w.store).tasks i = .running lockTimeout entry (Worker.execute r entry) :=
          Function.update_self _ _ _
        rw [htask] at hfits ⊢
        exact hfits

/-- The invariant once a round has claimed an entry. -/
lemma taken (h : w.Sound) {g : Registry Body} {lockTimeout : Duration} {e : Entry} {store : Store}
    (he : e.id ∈ w.store.tables.waiting)
    (ht : store.restored.tables = w.store.tables.without e.id)
    (hturn : w.store.turn ≤ store.turn)
    (hbodies : ∀ r ∈ g.jobs, ∀ c, (r.body c).Only Statement.Tame) :
    ({ w.moved i (.claimed g lockTimeout e) store with
      claims := w.claims ++ [(i, e.id)] } : Floor ι).Sound := by
  have hnew : e.id ∉ w.claims.map Prod.snd := h.not_claimed he
  have hnodup : w.store.tables.waiting.Nodup :=
    (List.nodup_append.mp (h.account.nodup_iff.mpr h.distinct)).1
  have htakes : (store.restored.tables.waiting ++ [e.id]).Perm w.store.tables.waiting := by
    rw [ht]
    exact Tables.waiting_without hnodup he
  have hinserted : (w.moved i (.claimed g lockTimeout e) store).inserted = w.inserted :=
    inserted_moved ((List.sublist_append_left _ _).subperm.trans htakes.subperm)
  have hreceived : (w.moved i (.claimed g lockTimeout e) store).received = w.received :=
    received_moved (ht ▸ .refl _)
  refine ⟨rfl, fun n hn => ?_, ?_, ?_, fun start hstart => ?_, h.once, fun id hid => ?_, ?_, ?_⟩
  · rw [hinserted] at hn
    exact Nat.le_trans (h.drawn n hn) hturn
  · rw [hinserted]
    exact h.distinct
  · rw [hinserted, List.map_append]
    calc
      (store.restored.tables.waiting ++ (w.claims.map Prod.snd ++ [e.id])).Perm
          (store.restored.tables.waiting ++ ([e.id] ++ w.claims.map Prod.snd)) :=
        List.perm_append_comm.append_left _
      List.Perm _ (w.store.tables.waiting ++ w.claims.map Prod.snd) := by
        rw [← List.append_assoc]
        exact htakes.append_right _
      List.Perm _ w.inserted := h.account
  · exact List.mem_append_left _ (h.started hstart)
  · rw [List.map_append]
    exact List.mem_append_left _ (h.receipts (hreceived ▸ hid))
  · rw [hreceived]
    exact h.recorded
  · refine h.fits_others (i := i) (List.subset_append_left _ _)
      (fun j hj => Function.update_of_ne hj _ _) (fun _ _ _ hid => hid)
      (fun id hid => .inl (hreceived ▸ hid)) ?_
    have htask : (w.moved i (.claimed g lockTimeout e) store).tasks i =
        .claimed g lockTimeout e := Function.update_self _ _ _
    show Fits _ i ((w.moved i (.claimed g lockTimeout e) store).tasks i)
    rw [htask]
    refine ⟨hbodies, List.mem_append_right _ (List.mem_singleton_self _), fun hstart => ?_,
      fun hresult => ?_⟩
    · exact hnew (List.mem_map.mpr ⟨(i, e.id), h.started hstart, rfl⟩)
    · exact hnew (h.receipts (hreceived ▸ hresult))

/-- A claim keeps the invariant: the entry does not wait any more. -/
lemma claimed_step (h : w.Sound) {g : Registry Body} {lockTimeout : Duration}
    {clock : Nat → Instant} {outcome : Except Halt (Except StoreError (Option Entry))}
    {s : Session} (hi : w.tasks i = .ready g lockTimeout)
    (hrun : (Worker.claim lockTimeout).run.run (w.store.session clock) = (outcome, s)) :
    ({ w.moved i (.afterClaim g lockTimeout outcome) s.store with
      claims := w.claims ++ ofTask i (.afterClaim g lockTimeout outcome) } : Floor ι).Sound := by
  have hbodies : ∀ r ∈ g.jobs, ∀ c, (r.body c).Only Statement.Tame := by
    have hready := h.fits i
    rw [hi] at hready
    exact hready
  obtain ⟨taken, s', hrun', htaken⟩ :=
    Worker.claim_ends lockTimeout (s := w.store.session clock) h.closed
  obtain ⟨rfl, rfl⟩ := Prod.mk.inj (hrun.symm.trans hrun')
  -- without an entry the round is over
  have hfinished (hleaves : (w.store.session clock).Leaves s w.store.tables) :
      ({ w.moved i .finished s.store with
        claims := w.claims ++ ofTask i .finished } : Floor ι).Sound := by
    have hstill : s.store.restored.tables = w.store.tables :=
      (Store.tables_restored hleaves.saved).trans hleaves.tables
    have hrested : (w.moved i .finished s.store).Sound := h.rested hstill hleaves.turn trivial
    exact (List.append_nil w.claims).symm ▸ hrested
  cases taken with
  | error fault => exact hfinished htaken.2
  | ok taken =>
      obtain ⟨rfl, -, hleaves⟩ | ⟨e, he, -, rfl, hleaves⟩ := htaken
      · exact hfinished hleaves
      · have hstill : s.store.restored.tables = w.store.tables.without e.id :=
          (Store.tables_restored hleaves.saved).trans hleaves.tables
        exact h.taken (List.mem_map.mpr ⟨e, he, rfl⟩) hstill hleaves.turn hbodies

/-- Each step keeps the invariant. -/
lemma step (h : w.Sound) (hstep : Step w w') : w'.Sound := by
  have hstill := Store.tables_restored h.closed
  cases hstep with
  | claim i g lockTimeout clock outcome s hi hrun => exact h.claimed_step hi hrun
  | start i g lockTimeout entry hi => exact h.started_step hi
  | turn i clock => exact h.turned i clock
  | stop i => exact h.rested hstill (Nat.le_refl _) trivial
  | disturb faults =>
      exact h.of_still h.closed rfl (Nat.le_refl _) rfl rfl rfl (.inl rfl) fun j =>
        (h.fits j).mono (List.Subset.refl _) (fun _ _ hid => hid) fun _ _ _ hid => hid

/-- Each run keeps the invariant. -/
lemma run (h : w.Sound) (hrun : Run w w') : w'.Sound := by
  induction hrun with
  | refl => exact h
  | tail _ hstep ih => exact ih.step hstep

end Sound

/-! ### The theorem -/

/-- **Conservation of entries**.  Requests, cycles, attempts to lead and rounds of workers take
turns, any faults strike, and tasks stop for good. Every entry that was ever added waits and has
not been claimed, or does not wait and has been claimed once, by one round. Its body has been
started at most once, by the round that had claimed it, and at most one result for it has been
received, after that claim. -/
theorem conservation (w₀ w : Floor ι) (hstart : w₀.Starts) (hrun : Run w₀ w) :
    ∀ id ∈ w.inserted,
      ((w.Waits id ∧ ∀ i, (i, id) ∉ w.claims) ∨
        (¬ w.Waits id ∧ ∃ i, (w.claims.filter fun c => c.2 = id) = [(i, id)])) ∧
      (w.starts.map Prod.snd).count id ≤ 1 ∧ (∀ i, (i, id) ∈ w.starts → (i, id) ∈ w.claims) ∧
      w.received.count id ≤ 1 ∧ (id ∈ w.received → ∃ i, (i, id) ∈ w.claims) := by
  have h := hstart.sound.run hrun
  intro id hid
  have hwaits : w.Waits id ↔ id ∈ w.store.tables.waiting := List.mem_map.symm
  have hclaims : id ∈ w.claims.map Prod.snd → ∃ i, (i, id) ∈ w.claims := by
    intro hclaimed
    obtain ⟨⟨i, id'⟩, hi, rfl⟩ := List.mem_map.mp hclaimed
    exact ⟨i, hi⟩
  refine ⟨?_, List.nodup_iff_count_le_one.mp h.nodup_starts id, fun i hi => h.started hi,
    List.nodup_iff_count_le_one.mp h.recorded id, fun hresult => hclaims (h.receipts hresult)⟩
  rcases List.mem_append.mp (h.account.symm.subset hid) with hwaiting | hclaimed
  · refine .inl ⟨hwaits.mpr hwaiting, fun i hi => ?_⟩
    exact h.not_claimed hwaiting (List.mem_map.mpr ⟨(i, id), hi, rfl⟩)
  · obtain ⟨i, hi⟩ := hclaims hclaimed
    refine .inr ⟨fun hwaiting => ?_, i, h.claims_of_mem hi⟩
    exact h.not_claimed (hwaits.mp hwaiting) hclaimed

/-! ### Two rounds and one entry -/

/-- An instance with one job, which does nothing. -/
def idleInstance : Instance :=
  ⟨.standard "a", ⟨[⟨"idle", none, .none, Body.ending (.returned .null)⟩]⟩⟩

/-- A request for the job, and two rounds. -/
def race : Floor (Fin 3) where
  store := .new
  tasks := fun i => match i with
    | 0 => .errand do let _ ← idleInstance.enqueue (.named "idle")
    | 1 | 2 => .ready idleInstance.registry (.ofSecs 5)
  inserted := []
  claims := []
  starts := []
  received := []

lemma starts_race : race.Starts where
  closed := rfl
  keyed := ⟨List.nodup_nil, nofun⟩
  inserted := rfl
  claims := rfl
  starts := rfl
  received := rfl
  tasks := fun i => by
    have hbodies : ∀ r ∈ idleInstance.registry.jobs, ∀ c, (r.body c).Only Statement.Tame :=
      fun r hr c => List.mem_singleton.mp hr ▸ trivial
    match i with
    | 0 => exact .errand (.enqueue _ _)
    | 1 => exact .round _ _ hbodies
    | 2 => exact .round _ _ hbodies

/-- One of the rounds claims the entry, runs it and records its result; the other finds none. -/
theorem conservation_race : ∃ w, Run race w ∧ w.inserted = [.drawn 2] ∧
    w.claims = [(1, .drawn 2)] ∧ w.starts = [(1, .drawn 2)] ∧ w.received = [.drawn 2] ∧
    ¬ w.Waits (.drawn 2) := by
  let clock : Nat → Instant := fun _ => .ofSecs 0
  have h := Relation.ReflTransGen.refl (r := Step) (a := race)
  have h := h.tail (.turn _ 0 clock)
  have h := h.tail (.claim _ 1 _ _ clock _ _ rfl rfl)
  have h := h.tail (.claim _ 2 _ _ clock _ _ rfl rfl)
  have h := h.tail (.start _ 1 _ _ _ rfl)
  -- the body, its end, and the record of its result
  have h := h.tail (.turn _ 1 clock)
  have h := h.tail (.turn _ 1 clock)
  have h := h.tail (.turn _ 1 clock)
  refine ⟨_, h, by decide +kernel, by decide +kernel, by decide +kernel, by decide +kernel, ?_⟩
  have hentry := (conservation race _ starts_race h (.drawn 2) (by decide +kernel)).1
  obtain ⟨-, hnone⟩ | ⟨hgone, -⟩ := hentry
  · exact absurd (by decide +kernel) (hnone 1)
  · exact hgone

end Floor

end JobDispatch
