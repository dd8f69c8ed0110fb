import JobDispatch.Proofs.Script.Reading
import JobDispatch.Proofs.Work.Ledger

/-!
What statements do to the rows of the results.

The key of a row is its primary key, so that a row cannot be written over. Rows come in as the
statement bears them, their time as tables keep it, and go out by deletions only, which take rows
from before their cutoff.

* `Statement.Permitted`: a statement that adds rows of one kind and deletes up to cutoffs of one
  kind.
* `Tables.answer_results`: what each query can do to the results.
* `Tables.Evolves`: what may have become of tables through permitted statements. It is about the
  waiting entries too, of which new ones bear new numbers.
* `Store.Evolves.perform`: each permitted statement keeps this, whatever faults strike.
  `Script.Abides.turn_evolves`: so does a turn of a script that sends no others.
-/

namespace JobDispatch

namespace Statement

/-- Rows that are added are of one kind, and so are the cutoffs of deletions. -/
def Permitted (inserts : ResultRow → Prop) (deletes : Instant → Prop) : Statement → Prop
  | .query (.insertResult row) => inserts row
  | .query (.deleteResults cutoff _) => deletes cutoff
  | _ => True

/-- The results are left alone. -/
def LeavesResults : Statement → Prop := Permitted (fun _ => False) fun _ => False

lemma Permitted.mono {inserts inserts' : ResultRow → Prop} {deletes deletes' : Instant → Prop}
    {q : Statement} (h : q.Permitted inserts deletes)
    (hinserts : ∀ row, inserts row → inserts' row)
    (hdeletes : ∀ cutoff, deletes cutoff → deletes' cutoff) : q.Permitted inserts' deletes' := by
  cases q with
  | control c => trivial
  | query q =>
      cases q with
      | insertResult row => exact hinserts row h
      | deleteResults cutoff limit => exact hdeletes cutoff h
      | _ => trivial

lemma Spares.leavesResults {q : Statement} (h : q.Spares) : q.LeavesResults := by
  cases q with
  | control c => trivial
  | query q => cases q <;> trivial

end Statement

namespace Tables

variable {t t' : Tables} {d : Draw}

/-- A row of the results is known by its key. -/
lemma eq_of_kept (hdistinct : t.kept.Nodup) {row row' : ResultRow} (hrow : row ∈ t.results)
    (hrow' : row' ∈ t.results) (hid : row.id = row'.id) : row = row' :=
  List.inj_on_of_nodup_map hdistinct hrow hrow' hid

/-- A deletion takes rows from before the cutoff only. -/
lemma results_deleteResults (hdistinct : t.kept.Nodup) {cutoff : Instant} {limit : Int}
    {row : ResultRow} (hrow : row ∈ t.results) :
    row ∈ (t.deleteResults d cutoff limit).2.results ∨ row.executedAt < cutoff.stored := by
  refine or_iff_not_imp_left.mpr fun hgone => ?_
  simp only [deleteResults, List.mem_filter, hrow, true_and, decide_eq_true_iff, not_not] at hgone
  obtain ⟨chosen, hchosen, hid⟩ := List.mem_map.mp hgone
  obtain ⟨hmem, hold⟩ := List.mem_filter.mp (List.mem_mergeSort.mp (List.mem_of_mem_take hchosen))
  rw [← t.eq_of_kept hdistinct hmem hrow hid]
  exact of_decide_eq_true hold

/-- What a query does to the results. -/
structure Turnover (q : Query) (t t' : Tables) : Prop where
  distinct : t'.kept.Nodup
  comes : ∀ row ∈ t'.results,
    row ∈ t.results ∨ ∃ new, q = .insertResult new ∧ row = storedResult new
  goes : ∀ row ∈ t.results, row ∈ t'.results ∨
    ∃ cutoff limit, q = .deleteResults cutoff limit ∧ row.executedAt < cutoff.stored

/-- A query that leaves the results as they are. -/
lemma Turnover.of_eq {q : Query} (hdistinct : t.kept.Nodup) (h : t'.results = t.results) :
    Turnover q t t' where
  distinct := by rw [kept, h]; exact hdistinct
  comes := fun _ hrow => .inl (h ▸ hrow)
  goes := fun _ hrow => .inl (h ▸ hrow)

/-- A row comes in only if its key is free. -/
lemma turnover_insertResult (hdistinct : t.kept.Nodup) {row : ResultRow}
    (hfree : ¬ (t.results.any fun r => r.id = row.id) = true) :
    Turnover (.insertResult row) t { t with results := t.results ++ [storedResult row] } := by
  have hnew : row.id ∉ t.kept := by
    intro hmem
    obtain ⟨r, hr, hid⟩ := List.mem_map.mp hmem
    exact hfree (List.any_eq_true.mpr ⟨r, hr, decide_eq_true hid⟩)
  refine ⟨?_, fun r hr => ?_, fun r hr => .inl (List.mem_append_left _ hr)⟩
  · rw [kept, List.map_append, List.map_singleton, ← List.concat_eq_append]
    exact hdistinct.concat hnew
  · exact (List.mem_append.mp hr).imp_right fun hr => ⟨row, rfl, List.mem_singleton.mp hr⟩

lemma turnover_deleteResults (hdistinct : t.kept.Nodup) (cutoff : Instant) (limit : Int) :
    Turnover (.deleteResults cutoff limit) t (t.deleteResults d cutoff limit).2 := by
  refine ⟨?_, fun r hr => .inl (List.mem_filter.mp hr).1, fun r hr => ?_⟩
  · exact hdistinct.sublist (List.filter_sublist.map _)
  · exact (results_deleteResults hdistinct hr).imp_right fun hold => ⟨cutoff, limit, rfl, hold⟩

lemma answer_results {q : Query} {reply : q.Reply} (hdistinct : t.kept.Nodup)
    (h : t.answer d q = .ok (reply, t')) : Turnover q t t' := by
  have hafter {reply' : q.Reply} {t'' : Tables} (h' : t.answer d q = .ok (reply', t'')) :
      t' = t'' := (Prod.mk.inj (Except.ok.inj (h.symm.trans h'))).2
  cases q with
  | insertResult row =>
      rw [answer] at h
      split at h
      · cases h
      · next hfree =>
        obtain ⟨-, rfl⟩ := Prod.mk.inj (Except.ok.inj h)
        exact turnover_insertResult hdistinct hfree
  | deleteResults cutoff limit =>
      obtain rfl := hafter rfl
      exact turnover_deleteResults hdistinct cutoff limit
  | insertLease holder renewedAt =>
      rw [answer] at h
      split at h
      · obtain ⟨-, rfl⟩ := Prod.mk.inj (Except.ok.inj h)
        exact .of_eq hdistinct rfl
      · cases h
  | updateLease holder renewedAt =>
      rw [answer] at h
      split at h
      · cases h
      · obtain ⟨-, rfl⟩ := Prod.mk.inj (Except.ok.inj h)
        exact .of_eq hdistinct rfl
  | claimNext now =>
      have ht : t' = (t.claim d now).2 := (congrArg Prod.snd (Except.ok.inj h)).symm
      refine .of_eq hdistinct ?_
      rw [ht, claim]
      split <;> rfl
  | _ =>
      obtain rfl := hafter rfl
      exact .of_eq hdistinct rfl

end Tables

/-! ### Evolution -/

variable {inserts : ResultRow → Prop} {deletes : Instant → Prop}

/-- What may have become of the tables `t₀` since the number `n₀` was drawn: entries that have come
bear numbers that were drawn since, rows that have come were permitted, and rows that have gone were
from before a cutoff that was permitted. -/
structure Tables.Evolves (inserts : ResultRow → Prop) (deletes : Instant → Prop) (t₀ : Tables)
    (n₀ : Nat) (t : Tables) (n : Nat) : Prop where
  waiting : ∀ id ∈ t.waiting, id ∈ t₀.waiting ∨ ∃ m, id = .drawn m ∧ n₀ < m ∧ m ≤ n
  distinct : t.kept.Nodup
  comes : ∀ row ∈ t.results, row ∈ t₀.results ∨ ∃ new, inserts new ∧ row = Tables.storedResult new
  goes : ∀ row ∈ t₀.results, row ∈ t.results ∨
    ∃ cutoff, deletes cutoff ∧ row.executedAt < cutoff.stored

namespace Tables.Evolves

variable {t₀ t t' : Tables} {n₀ n n' : Nat}

lemma refl (hdistinct : t.kept.Nodup) : Evolves inserts deletes t n t n where
  waiting := fun _ hid => .inl hid
  distinct := hdistinct
  comes := fun _ hrow => .inl hrow
  goes := fun _ hrow => .inl hrow

lemma later (h : Evolves inserts deletes t₀ n₀ t n) (hn : n ≤ n') :
    Evolves inserts deletes t₀ n₀ t n' where
  waiting := fun id hid => (h.waiting id hid).imp_right fun ⟨m, hm, hlow, hhigh⟩ =>
    ⟨m, hm, hlow, Nat.le_trans hhigh hn⟩
  distinct := h.distinct
  comes := h.comes
  goes := h.goes

lemma kept_subset (h : Evolves (fun _ => False) deletes t₀ n₀ t n) : t.kept ⊆ t₀.kept := by
  intro id hid
  obtain ⟨row, hrow, rfl⟩ := List.mem_map.mp hid
  obtain hold | ⟨-, hnone, -⟩ := h.comes row hrow
  · exact List.mem_map_of_mem hold
  · exact hnone.elim

/-- Without deletions, no row has come if no key has. -/
lemma of_subset (h : Evolves inserts (fun _ => False) t₀ n₀ t n) (hkept : t.kept ⊆ t₀.kept) :
    Evolves (fun _ => False) (fun _ => False) t₀ n₀ t n where
  waiting := h.waiting
  distinct := h.distinct
  comes := fun row hrow => by
    obtain ⟨old, hold, hid⟩ := List.mem_map.mp (hkept (List.mem_map_of_mem hrow))
    obtain hstays | ⟨-, hnone, -⟩ := h.goes old hold
    · exact .inl (t.eq_of_kept h.distinct hstays hrow hid ▸ hold)
    · exact hnone.elim
  goes := h.goes

lemma mono {inserts' : ResultRow → Prop} {deletes' : Instant → Prop}
    (h : Evolves inserts deletes t₀ n₀ t n) (hinserts : ∀ row, inserts row → inserts' row)
    (hdeletes : ∀ cutoff, deletes cutoff → deletes' cutoff) :
    Evolves inserts' deletes' t₀ n₀ t n where
  waiting := h.waiting
  distinct := h.distinct
  comes := fun row hrow => (h.comes row hrow).imp_right fun ⟨new, hnew, heq⟩ =>
    ⟨new, hinserts new hnew, heq⟩
  goes := fun row hrow => (h.goes row hrow).imp_right fun ⟨cutoff, hcutoff, hold⟩ =>
    ⟨cutoff, hdeletes cutoff hcutoff, hold⟩

/-- One more query is answered, with the number that is drawn next. -/
lemma answered {q : Query} {reply : q.Reply} {d : Draw} (h : Evolves inserts deletes t₀ n₀ t n)
    (hn : n₀ ≤ n) (hq : Statement.Permitted inserts deletes (.query q)) (hd : d.turn = n + 1)
    (hanswer : t.answer d q = .ok (reply, t')) : Evolves inserts deletes t₀ n₀ t' (n + 1) := by
  have hids := answer_ids hanswer
  have hrows := answer_results h.distinct hanswer
  refine ⟨fun id hid => ?_, hrows.distinct, fun row hrow => ?_, fun row hrow => ?_⟩
  · have hold (hmem : id ∈ t.waiting) := (h.later (Nat.le_succ n)).waiting id hmem
    cases hids with
    | none _ _ hwaiting hkept => exact hold (hwaiting ▸ hid)
    | claim now hwaiting hkept => exact hold (hwaiting.subset hid)
    | result row hwaiting hkept => exact hold (hwaiting ▸ hid)
    | deletion cutoff limit hwaiting hkept => exact hold (hwaiting ▸ hid)
    | entry name notBefore parameters hwaiting hkept =>
        rw [hwaiting, hd] at hid
        rcases List.mem_append.mp hid with hid | hid
        · exact hold hid
        · exact .inr ⟨n + 1, List.mem_singleton.mp hid, by omega, Nat.le_refl _⟩
  · rcases hrows.comes row hrow with hrow | ⟨new, rfl, heq⟩
    · exact h.comes row hrow
    · exact .inr ⟨new, hq, heq⟩
  · rcases h.goes row hrow with hrow | hgone
    · refine (hrows.goes row hrow).imp_right ?_
      rintro ⟨cutoff, limit, rfl, hold⟩
      exact ⟨cutoff, hq, hold⟩
    · exact .inr hgone

end Tables.Evolves

/-- The tables, and what they were when the open transaction began, have evolved from the same
earlier ones. -/
structure Store.Evolves (inserts : ResultRow → Prop) (deletes : Instant → Prop) (t₀ : Tables)
    (n₀ : Nat) (st : Store) : Prop where
  turn : n₀ ≤ st.turn
  now : t₀.Evolves inserts deletes n₀ st.tables st.turn
  saved : ∀ t, st.saved = some t → t₀.Evolves inserts deletes n₀ t st.turn

namespace Store.Evolves

variable {t₀ : Tables} {n₀ : Nat} {st : Store}

lemma refl (hsaved : st.saved = none) (hdistinct : st.tables.kept.Nodup) :
    st.Evolves inserts deletes st.tables st.turn where
  turn := Nat.le_refl _
  now := .refl hdistinct
  saved := by rw [hsaved]; exact nofun

lemma mono {inserts' : ResultRow → Prop} {deletes' : Instant → Prop}
    (h : st.Evolves inserts deletes t₀ n₀) (hinserts : ∀ row, inserts row → inserts' row)
    (hdeletes : ∀ cutoff, deletes cutoff → deletes' cutoff) :
    st.Evolves inserts' deletes' t₀ n₀ where
  turn := h.turn
  now := h.now.mono hinserts hdeletes
  saved := fun t ht => (h.saved t ht).mono hinserts hdeletes

lemma counted (h : st.Evolves inserts deletes t₀ n₀) (faults : List Fault) :
    (st.counted faults).Evolves inserts deletes t₀ n₀ where
  turn := Nat.le_succ_of_le h.turn
  now := h.now.later (Nat.le_succ _)
  saved := fun t ht => (h.saved t ht).later (Nat.le_succ _)

/-- What a transaction that is given up brings back. -/
lemma restored (h : st.Evolves inserts deletes t₀ n₀) :
    st.restored.Evolves inserts deletes t₀ n₀ where
  turn := h.turn
  now := by
    rw [Store.restored]
    cases ht : st.saved with
    | none => exact h.now
    | some t => exact h.saved t ht
  saved := nofun

/-- Every permitted statement goes on like this, struck by a fault or not. -/
lemma perform (h : st.Evolves inserts deletes t₀ n₀) {q : Statement}
    (hq : q.Permitted inserts deletes) : (st.perform q).2.Evolves inserts deletes t₀ n₀ := by
  obtain ⟨faults, -, hperform | ⟨-, -, fault, hperform⟩⟩ := st.perform_cases q
  · have hcounted := h.counted faults
    rw [hperform]
    cases q with
    | control c =>
        cases c with
        | begin =>
            exact ⟨hcounted.turn, hcounted.now, fun t ht => Option.some.inj ht ▸ hcounted.now⟩
        | commit => exact ⟨hcounted.turn, hcounted.now, nofun⟩
        | rollback => exact hcounted.restored
        | abandon => exact hcounted.restored
        | setIsolation => exact hcounted
        | setLockTimeout millis => exact ⟨hcounted.turn, hcounted.now, hcounted.saved⟩
    | query q =>
        rw [execute]
        cases hanswer : (st.counted faults).tables.apply (st.counted faults).draw q with
        | error fault => exact hcounted
        | ok answer =>
            have hnow := h.now.answered h.turn hq rfl (Tables.apply_eq_ok.mp hanswer).2
            exact ⟨hcounted.turn, hnow, hcounted.saved⟩
  · have hcounted := h.counted faults
    rw [hperform]
    cases q with
    | query q => exact hcounted
    | control c =>
        cases c with
        | commit => exact hcounted.restored
        | _ => exact hcounted

end Store.Evolves

/-- After a turn of a script that sends permitted statements only, the tables have evolved from
those before it. A transaction in which the script has come to its end is given up. -/
lemma Script.Abides.turn_evolves {α : Type} {p : Script α} {post : α → Prop} {s : Session}
    {inserts : ResultRow → Prop} (deletes : List Instant → Instant → Prop) {past : List Instant}
    (hp : p.Abides (fun readings => Statement.Permitted inserts (deletes readings)) past post)
    (hdeletes : ∀ readings now cutoff,
      deletes readings cutoff → deletes (readings ++ [now]) cutoff)
    (hfirst : s.readings = 0) (hsaved : s.store.saved = none)
    (hdistinct : s.store.tables.kept.Nodup) :
    (p.turn s).1.Abides (fun readings => Statement.Permitted inserts (deletes readings))
        (past ++ (p.turn s).2.seen) post ∧
      (p.turn s).2.store.restored.Evolves inserts (deletes (past ++ (p.turn s).2.seen))
        s.store.tables s.store.turn := by
  have hseen : past ++ s.seen = past := by
    rw [Session.seen, hfirst, List.range_zero, List.map_nil, List.append_nil]
  obtain ⟨habides, hevolves⟩ := Script.Abides.turn (s := s)
    (R := fun readings st => st.Evolves inserts (deletes readings) s.store.tables s.store.turn)
    (fun readings now st h => h.mono (fun _ h => h) (hdeletes readings now))
    (fun readings st q h hq => h.perform hq) (hseen.symm ▸ hp) (.refl hsaved hdistinct)
  exact ⟨habides, hevolves.restored⟩

end JobDispatch
