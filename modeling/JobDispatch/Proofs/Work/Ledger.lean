import JobDispatch.Proofs.Script.Turn
import JobDispatch.Proofs.Store.Queue
import JobDispatch.Proofs.Store.Transaction
import JobDispatch.Proofs.Work.Chores
import Mathlib.Data.List.Nodup
import Mathlib.Data.List.Perm.Subperm

/-!
What turns of scripts do to the identifiers in the tables.

Apart from claims, entries only come in, each under a number that has just been drawn. A row of
the results comes in only from a script that holds a credit for it, which it has for one row at
most. A transaction that fails gives back the credit that was used in it.

* `Tables.answer_ids`: what each query can do to the identifiers.
* `Credit.protocol`: no claims, and a row only against a credit.
* `Tables.Since`: what may have become of the identifiers since some earlier tables.
* `Script.Follows.turn_since`: it holds after a turn of a script that follows the protocol, whatever
  faults strike.
-/

namespace JobDispatch

namespace Tables

/-- The identifiers of the waiting entries. -/
def waiting (t : Tables) : List EntryId := t.queue.map Entry.id

/-- The identifiers of the results. -/
def kept (t : Tables) : List EntryId := t.results.map ResultRow.id

/-- An entry is taken out of the waiting ones. -/
lemma waiting_without {t : Tables} {id : EntryId} (hnodup : t.waiting.Nodup)
    (hid : id ∈ t.waiting) : ((t.without id).waiting ++ [id]).Perm t.waiting := by
  have hfilter : (t.without id).waiting = t.waiting.filter fun a => a ≠ id := by
    rw [waiting, without, waiting, List.filter_map]
    rfl
  have hsub : (t.without id).waiting.Nodup := hfilter ▸ hnodup.filter _
  refine (List.perm_ext_iff_of_nodup ?_ hnodup).mpr fun a => ?_
  · refine List.nodup_append.mpr ⟨hsub, List.nodup_singleton id, fun a ha b hb heq => ?_⟩
    rw [hfilter, List.mem_filter, heq, List.mem_singleton.mp hb] at ha
    simp at ha
  · rw [List.mem_append, hfilter, List.mem_filter, List.mem_singleton]
    by_cases ha : a = id
    · simp [ha, hid]
    · simp [ha]

/-- What a query with the draw `d` does to the identifiers. -/
inductive Renumbers (d : Draw) (t t' : Tables) : Query → Prop
  | none (q : Query) (hq : ∀ row, q ≠ .insertResult row) (hwaiting : t'.waiting = t.waiting)
      (hkept : t'.kept = t.kept) : Renumbers d t t' q
  | entry (name : String) (notBefore : Option Instant) (parameters : Json)
      (hwaiting : t'.waiting = t.waiting ++ [.drawn d.turn]) (hkept : t'.kept = t.kept) :
      Renumbers d t t' (.insertEntry name notBefore parameters)
  | claim (now : Instant) (hwaiting : t'.waiting.Sublist t.waiting) (hkept : t'.kept = t.kept) :
      Renumbers d t t' (.claimNext now)
  | result (row : ResultRow) (hwaiting : t'.waiting = t.waiting)
      (hkept : t'.kept = t.kept ++ [row.id]) : Renumbers d t t' (.insertResult row)
  | deletion (cutoff : Instant) (limit : Int) (hwaiting : t'.waiting = t.waiting)
      (hkept : t'.kept.Sublist t.kept) : Renumbers d t t' (.deleteResults cutoff limit)

variable {t t' : Tables} {d : Draw}

lemma answer_ids {q : Query} {reply : q.Reply} (h : t.answer d q = .ok (reply, t')) :
    Renumbers d t t' q := by
  have hafter {reply' : q.Reply} {t'' : Tables} (h' : t.answer d q = .ok (reply', t'')) :
      t' = t'' := (Prod.mk.inj (Except.ok.inj (h.symm.trans h'))).2
  cases q with
  | insertEntry name notBefore parameters =>
      obtain rfl := hafter rfl
      exact .entry _ _ _ (by simp [waiting]) rfl
  | reschedule id notBefore =>
      obtain rfl := hafter rfl
      refine .none _ (by rintro _ ⟨⟩) ?_ rfl
      simp only [waiting, List.map_map]
      refine List.map_congr_left fun e _ => ?_
      by_cases he : e.id = id <;> simp [he]
  | claimNext now =>
      have ht : t' = (t.claim d now).2 := (congrArg Prod.snd (Except.ok.inj h)).symm
      rw [ht, claim]
      split
      · exact .none _ (by rintro _ ⟨⟩) rfl rfl
      · exact .claim _ (List.filter_sublist.map _) rfl
  | insertLease holder renewedAt =>
      rw [answer] at h
      split at h
      · obtain ⟨-, rfl⟩ := Prod.mk.inj (Except.ok.inj h)
        exact .none _ (by rintro _ ⟨⟩) rfl rfl
      · cases h
  | updateLease holder renewedAt =>
      rw [answer] at h
      split at h
      · cases h
      · obtain ⟨-, rfl⟩ := Prod.mk.inj (Except.ok.inj h)
        exact .none _ (by rintro _ ⟨⟩) rfl rfl
  | insertResult row =>
      rw [answer] at h
      split at h
      · cases h
      · obtain ⟨-, rfl⟩ := Prod.mk.inj (Except.ok.inj h)
        exact .result row rfl (by simp [kept, storedResult])
  | deleteResults cutoff limit =>
      obtain rfl := hafter rfl
      exact .deletion _ _ rfl (List.filter_sublist.map _)
  | _ =>
      obtain rfl := hafter rfl
      exact .none _ (by rintro _ ⟨⟩) rfl rfl

end Tables

/-! ### Credits -/

/-- The row of the results that a script may still write, and the same as it was when the open
transaction began. -/
structure Credit where
  row : Option EntryId
  saved : Option (Option EntryId)
  deriving DecidableEq, Repr

namespace Credit

/-- The credit after a statement has been answered. -/
def after : Credit → (q : Statement) → Except StoreError q.Reply → Credit
  | c, .control .begin, .ok _ => ⟨c.row, some c.row⟩
  | c, .control .commit, .ok _ => ⟨c.row, none⟩
  | c, .control .commit, .error _ => ⟨c.saved.getD c.row, none⟩
  | c, .control .rollback, .ok _ => ⟨c.saved.getD c.row, none⟩
  | c, .control .abandon, _ => ⟨c.saved.getD c.row, none⟩
  | c, .query (.insertResult _), .ok _ => ⟨none, c.saved⟩
  | c, _, _ => c

/-- No claims, and a row only against a credit. -/
def Allows (c : Credit) : Statement → Prop
  | .query (.claimNext _) => False
  | .query (.insertResult row) => c.row = some row.id
  | _ => True

/-- The rules for credits. -/
def protocol : Protocol Credit := ⟨Allows, after⟩

end Credit

/-- What may have become of the identifiers in the tables `t₀` and of the credit `c₀` since the
number `n₀` was drawn: there are new entries with numbers drawn since, and the credit may have been
used for one new row. -/
structure Tables.Since (t₀ : Tables) (n₀ : Nat) (c₀ : Option EntryId) (t : Tables) (n : Nat)
    (c : Option EntryId) : Prop where
  waiting : ∃ fresh, t.waiting = t₀.waiting ++ fresh ∧ fresh.Nodup ∧
    ∀ id ∈ fresh, ∃ m, id = .drawn m ∧ n₀ < m ∧ m ≤ n
  kept : (c = c₀ ∧ t.kept.Subperm t₀.kept) ∨
    (c = none ∧ ∃ id, c₀ = some id ∧ t.kept.Subperm (id :: t₀.kept))

namespace Tables.Since

variable {t₀ t t' : Tables} {n₀ n n' : Nat} {c₀ c : Option EntryId}

lemma refl (t : Tables) (n : Nat) (c : Option EntryId) : t.Since n c t n c where
  waiting := ⟨[], (List.append_nil _).symm, List.nodup_nil, nofun⟩
  kept := .inl ⟨rfl, .refl _⟩

lemma mono (h : t₀.Since n₀ c₀ t n c) (hn : n ≤ n') : t₀.Since n₀ c₀ t n' c where
  waiting := by
    obtain ⟨fresh, ht, hfresh, hdrawn⟩ := h.waiting
    refine ⟨fresh, ht, hfresh, fun id hid => ?_⟩
    obtain ⟨m, rfl, hlow, hhigh⟩ := hdrawn id hid
    exact ⟨m, rfl, hlow, Nat.le_trans hhigh hn⟩
  kept := h.kept

/-- The number that is drawn next is a new one. -/
lemma draws (h : t₀.Since n₀ c₀ t n c) (hn : n₀ ≤ n)
    (hwaiting : t'.waiting = t.waiting ++ [.drawn (n + 1)]) (hkept : t'.kept = t.kept) :
    t₀.Since n₀ c₀ t' (n + 1) c where
  waiting := by
    obtain ⟨fresh, ht, hfresh, hdrawn⟩ := h.waiting
    refine ⟨fresh ++ [.drawn (n + 1)], by rw [hwaiting, ht, List.append_assoc], ?_, ?_⟩
    · refine List.nodup_append.mpr ⟨hfresh, List.nodup_singleton _, fun id hid id' hid' => ?_⟩
      obtain ⟨m, rfl, -, hhigh⟩ := hdrawn id hid
      rw [List.mem_singleton.mp hid']
      intro heq
      obtain rfl := EntryId.drawn.inj heq
      omega
    · intro id hid
      rcases List.mem_append.mp hid with hid | hid
      · obtain ⟨m, rfl, hlow, hhigh⟩ := hdrawn id hid
        exact ⟨m, rfl, hlow, by omega⟩
      · exact ⟨n + 1, List.mem_singleton.mp hid, by omega, Nat.le_refl _⟩
  kept := by rw [hkept]; exact h.kept

/-- A row is written against the credit for it. -/
lemma spends {id : EntryId} (h : t₀.Since n₀ c₀ t n (some id))
    (hwaiting : t'.waiting = t.waiting) (hkept : t'.kept = t.kept ++ [id]) :
    t₀.Since n₀ c₀ t' n none where
  waiting := by rw [hwaiting]; exact h.waiting
  kept := by
    obtain ⟨hc, hsub⟩ | ⟨hc, -⟩ := h.kept
    · refine .inr ⟨rfl, id, hc.symm, ?_⟩
      rw [hkept]
      exact (List.perm_append_singleton id t.kept).subperm.trans (List.subperm_cons id |>.mpr hsub)
    · cases hc

lemma keeps (h : t₀.Since n₀ c₀ t n c) (hwaiting : t'.waiting = t.waiting)
    (hkept : t'.kept.Sublist t.kept) : t₀.Since n₀ c₀ t' n c where
  waiting := by rw [hwaiting]; exact h.waiting
  kept := by
    obtain ⟨hc, hsub⟩ | ⟨hc, id, hid, hsub⟩ := h.kept
    · exact .inl ⟨hc, hkept.subperm.trans hsub⟩
    · exact .inr ⟨hc, id, hid, hkept.subperm.trans hsub⟩

end Tables.Since

namespace Credit

variable {t₀ : Tables} {n₀ : Nat} {c₀ : Option EntryId}

/-- The tables and the credit, and what they were when the open transaction began, have come from
the same earlier ones. -/
structure Books (t₀ : Tables) (n₀ : Nat) (c₀ : Option EntryId) (c : Credit) (st : Store) :
    Prop where
  turn : n₀ ≤ st.turn
  now : t₀.Since n₀ c₀ st.tables st.turn c.row
  saved : (st.saved = none ∧ c.saved = none) ∨ ∃ t row, st.saved = some t ∧ c.saved = some row ∧
    t₀.Since n₀ c₀ t st.turn row

variable {c : Credit} {st : Store}

lemma Books.counted (h : Books t₀ n₀ c₀ c st) (faults : List Fault) :
    Books t₀ n₀ c₀ c (st.counted faults) where
  turn := Nat.le_succ_of_le h.turn
  now := h.now.mono (Nat.le_succ _)
  saved := by
    obtain h | ⟨t, row, ht, hrow, h⟩ := h.saved
    · exact .inl h
    · exact .inr ⟨t, row, ht, hrow, h.mono (Nat.le_succ _)⟩

/-- What a transaction that is given up brings back. -/
lemma Books.restored (h : Books t₀ n₀ c₀ c st) :
    Books t₀ n₀ c₀ ⟨c.saved.getD c.row, none⟩ st.restored where
  turn := h.turn
  now := by
    obtain ⟨ht, hrow⟩ | ⟨t, row, ht, hrow, h⟩ := h.saved
    · rw [Store.restored, ht, hrow]
      exact h.now
    · rw [Store.restored, ht, hrow]
      exact h
  saved := .inl ⟨rfl, rfl⟩

/-- The books are right after a query that is answered. -/
lemma Books.answered {q : Query} {reply : q.Reply} {faults : List Fault} {t : Tables}
    (h : Books t₀ n₀ c₀ c st) (hallows : c.Allows (.query q))
    (ht : st.tables.apply (st.counted faults).draw q = .ok (reply, t)) :
    Books t₀ n₀ c₀ (c.after (.query q) (.ok reply)) { st.counted faults with tables := t } := by
  have hcounted := h.counted faults
  have hsame (hwaiting : t.waiting = st.tables.waiting) (hkept : t.kept.Sublist st.tables.kept) :
      Books t₀ n₀ c₀ c { st.counted faults with tables := t } :=
    ⟨hcounted.turn, hcounted.now.keeps hwaiting hkept, hcounted.saved⟩
  cases Tables.answer_ids (Tables.apply_eq_ok.mp ht).2 with
  | none _ hq hwaiting hkept =>
      have hafter : c.after (.query q) (.ok reply) = c := by
        cases q with
        | insertResult row => exact absurd rfl (hq row)
        | _ => rfl
      rw [hafter]
      exact hsame hwaiting (hkept ▸ List.Sublist.refl _)
  | entry name notBefore parameters hwaiting hkept =>
      exact ⟨hcounted.turn, h.now.draws h.turn hwaiting hkept, hcounted.saved⟩
  | claim now hwaiting hkept => exact hallows.elim
  | result row hwaiting hkept =>
      have hrow : c.row = some row.id := hallows
      have hnow := hcounted.now
      rw [hrow] at hnow
      exact ⟨hcounted.turn, hnow.spends hwaiting hkept, hcounted.saved⟩
  | deletion cutoff limit hwaiting hkept => exact hsame hwaiting hkept

/-- The books are right after every statement that is allowed. -/
lemma keeps_books : protocol.Keeps (Books t₀ n₀ c₀) := by
  intro c st q h hallows
  obtain ⟨faults, -, hq | ⟨-, habandon, fault, hq⟩⟩ := st.perform_cases q
  · have hcounted := h.counted faults
    rw [hq]
    cases q with
    | control control =>
        cases control with
        | begin => exact ⟨hcounted.turn, hcounted.now, .inr ⟨_, _, rfl, rfl, hcounted.now⟩⟩
        | commit => exact ⟨hcounted.turn, hcounted.now, .inl ⟨rfl, rfl⟩⟩
        | rollback => exact hcounted.restored
        | abandon => exact hcounted.restored
        | setIsolation => exact hcounted
        | setLockTimeout millis => exact ⟨hcounted.turn, hcounted.now, hcounted.saved⟩
    | query q =>
        rw [Store.execute]
        cases hanswer : (st.counted faults).tables.apply (st.counted faults).draw q with
        | error fault => cases q <;> exact hcounted
        | ok answer =>
            obtain ⟨reply, t⟩ := answer
            exact h.answered hallows hanswer
  · have hcounted := h.counted faults
    rw [hq]
    cases q with
    | query q => cases q <;> exact hcounted
    | control control =>
        cases control with
        | abandon => exact absurd rfl habandon
        | commit => exact hcounted.restored
        | _ => exact hcounted

/-- A session between two turns. -/
lemma Books.refl (hsaved : st.saved = none) : Books st.tables st.turn c₀ ⟨c₀, none⟩ st where
  turn := Nat.le_refl _
  now := .refl _ _ _
  saved := .inl ⟨hsaved, rfl⟩

end Credit

/-- After a turn of a script that follows the rules, the tables have come from those before it, and
what is left follows the rules with the credit that is left. A transaction in which the script has
come to its end is given up. -/
lemma Script.Follows.turn_since {α : Type} {p : Script α} {post : α → Prop} {s : Session}
    {c : Option EntryId} (hp : p.Follows Credit.protocol ⟨c, none⟩ fun v _ => post v)
    (hsaved : s.store.saved = none) :
    ∃ c', (p.turn s).1.Follows Credit.protocol ⟨c', none⟩ (fun v _ => post v) ∧
      s.store.turn ≤ (p.turn s).2.store.turn ∧
      s.store.tables.Since s.store.turn c (p.turn s).2.store.restored.tables
        (p.turn s).2.store.turn c' := by
  obtain ⟨y, hfollows, hbooks⟩ := hp.turn Credit.keeps_books (.refl hsaved)
  have hrestored := hbooks.restored
  refine ⟨y.saved.getD y.row, ?_, hrestored.turn, hrestored.now⟩
  rcases p.saved_turn s with hclosed | hended
  · obtain ⟨-, hy⟩ | ⟨t, row, ht, -, -⟩ := hbooks.saved
    · rw [hy]
      have hy' : y = ⟨y.row, none⟩ := by rw [← hy]
      exact hy' ▸ hfollows
    · rw [hclosed] at ht
      cases ht
  · exact hfollows.of_ended hended _

/-! ### Who follows the rules -/

/-- A script that sends tame statements only needs no credit. -/
lemma Script.Only.follows_credit {α : Type} {p : Script α} (hp : p.Only Statement.Tame)
    (c : Credit) : p.Follows Credit.protocol c fun _ _ => True := by
  refine hp.follows (fun c q hq => ?_) c
  cases q with
  | control control => trivial
  | query q =>
      cases q with
      | claimNext now => exact hq
      | insertResult row => exact hq.elim
      | _ => trivial

namespace Worker

variable {lockTimeout : Duration}

/-- The body of an entry ends with a row for that entry. -/
lemma execute_follows {r : Registration Body} {entry : Entry} {c : Credit}
    (hbody : (r.body (contextOf r entry)).Only Statement.Tame) :
    (execute r entry).Follows Credit.protocol c fun row _ => row.id = entry.id := by
  refine (Script.follows_bind _ _).mpr fun executedAt => ?_
  refine (Script.follows_bind _ _).mpr ((Script.follows_bind _ _).mpr ?_)
  refine (hbody.follows_credit c).mono fun ending y _ => ?_
  cases ending <;> rfl

/-- A row is written once, against the credit for it, or the credit is left. -/
lemma tryWrite_follows (row : ResultRow) :
    (tryWrite lockTimeout row).Follows Credit.protocol ⟨some row.id, none⟩
      (fun _ c => c = ⟨none, none⟩) fun _ c => c = ⟨some row.id, none⟩ := by
  refine Attempt.follows_committed (fun _ _ => trivial) ?_ ?_ (fun _ => rfl) ?_
  · rintro c y (rfl | ⟨millis, rfl⟩) <;> rfl
  · rintro c fault reply (rfl | ⟨millis, rfl⟩) <;> rfl
  · refine (Attempt.follows_bind _ _).mpr ((Attempt.follows_timed _ _).mpr
      (Attempt.follows_send.mpr ⟨rfl, fun _ => ?_, fun _ _ => rfl⟩))
    exact ⟨rfl, fun _ _ => rfl⟩

lemma writeWithin_follows (row : ResultRow) (attempts : Nat) :
    (writeWithin lockTimeout row attempts).Follows Credit.protocol ⟨some row.id, none⟩
      fun outcome c => outcome = .ok () ∨ c = ⟨some row.id, none⟩ := by
  induction attempts with
  | zero =>
      refine (Script.follows_bind _ _).mpr (Script.Follows.mono (tryWrite_follows row)
        fun outcome c h => ?_)
      cases outcome with
      | ok _ => exact .inl rfl
      | error fault => exact .inr h
  | succ attempts ih =>
      refine (Script.follows_bind _ _).mpr (Script.Follows.mono (tryWrite_follows row)
        fun outcome c h => ?_)
      cases outcome with
      | ok _ => exact .inl rfl
      | error fault =>
          obtain rfl : c = ⟨some row.id, none⟩ := h
          dsimp only
          by_cases htransient : fault.isTransient = true
          · rw [if_pos htransient]
            exact (Script.follows_bind _ _).mpr ih
          · rw [if_neg htransient]
            exact .inr rfl

/-- A result is written at most once, though it is tried several times. -/
lemma record_follows (row : ResultRow) :
    (record lockTimeout row).run.Follows Credit.protocol ⟨some row.id, none⟩
      fun _ _ => True := by
  refine (Script.follows_bind _ _).mpr ((writeWithin_follows row _).mono fun outcome c h => ?_)
  cases outcome with
  | ok _ => trivial
  | error fault =>
      dsimp only
      by_cases hfinal : row.isError = true ∨ fault.isTransient = true
      · rw [if_pos hfinal]
        trivial
      · rw [if_neg hfinal]
        obtain rfl : c = ⟨some row.id, none⟩ := h.resolve_left nofun
        refine (Script.follows_bind _ _).mpr
          ((writeWithin_follows (unstorable row fault) _).mono fun outcome c _ => ?_)
        cases outcome <;> trivial

end Worker

end JobDispatch
