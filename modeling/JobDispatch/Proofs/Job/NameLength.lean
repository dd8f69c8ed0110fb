import JobDispatch.Job.Request
import JobDispatch.Proofs.Job.Roster
import JobDispatch.Store.Tables

/-!
Which names a registry takes, and which a request may have.

A registry counts the bytes of a name, and a request and the columns of the tables count its
characters. No text has fewer bytes than characters, so each name that can be registered can be
asked for; but not the other way round.

* `TooManyBytes`: a name that is short enough by its characters and too long by its bytes.
* `Registry.accepts_iff_validates_iff`: the two checks agree about exactly the other names, and
  through no handle a job of such a name is found.
-/

namespace JobDispatch

/-! ### Bytes and characters -/

lemma Text.length_le_utf8ByteSize (s : String) : s.length ≤ s.utf8ByteSize := by
  have hlist (cs : List Char) : cs.length ≤ String.utf8Len cs := by
    induction cs with
    | nil => exact Nat.le_refl 0
    | cons c cs ih =>
        have hpos := c.utf8Size_pos
        rw [List.length_cons, String.utf8Len_cons]
        omega
  calc s.length = s.toList.length := String.length_toList.symm
    _ ≤ String.utf8Len s.toList := hlist _
    _ = s.utf8ByteSize := by rw [← String.utf8ByteSize_ofList, String.ofList_toList]

lemma Text.utf8ByteSize_eq_zero_iff (s : String) : s.utf8ByteSize = 0 ↔ s.length = 0 :=
  String.utf8ByteSize_eq_zero_iff.trans String.length_eq_zero_iff.symm

/-- The name has few enough characters for a request, and too many bytes for a registry. -/
def TooManyBytes (name : String) : Prop :=
  name.length ≤ maxNameLength ∧ maxNameLength < name.utf8ByteSize

lemma TooManyBytes.one_le_length {name : String} (h : TooManyBytes name) : 1 ≤ name.length := by
  have hempty := Text.utf8ByteSize_eq_zero_iff name
  have hbytes := h.2
  omega

/-- The name of so many letters `é`, each of two bytes. -/
def letters (count : Nat) : String := String.ofList (List.replicate count 'é')

lemma length_letters (count : Nat) : (letters count).length = count := by
  rw [letters, String.length_ofList, List.length_replicate]

lemma utf8ByteSize_letters (count : Nat) : (letters count).utf8ByteSize = 2 * count := by
  rw [letters, String.utf8ByteSize_ofList]
  induction count with
  | zero => rfl
  | succ count ih =>
      have hletter : 'é'.utf8Size = 2 := by decide
      rw [List.replicate_succ, String.utf8Len_cons, ih, hletter]
      omega

lemma tooManyBytes_letters (count : Nat) :
    TooManyBytes (letters count) ↔ count ≤ maxNameLength ∧ maxNameLength < 2 * count := by
  rw [TooManyBytes, length_letters, utf8ByteSize_letters]

/-- A name fits if a request may have it and its bytes are not too many. -/
lemma Registration.nameFits_iff (name : String) :
    NameFits name ↔ (1 ≤ name.length ∧ name.length ≤ maxNameLength) ∧ ¬ TooManyBytes name := by
  have hle := Text.length_le_utf8ByteSize name
  have hempty := Text.utf8ByteSize_eq_zero_iff name
  unfold NameFits TooManyBytes maxNameLength
  omega

lemma Request.validate_named_eq_ok (name : String) :
    (named name).validate = .ok ⟨⟩ ↔ 1 ≤ name.length ∧ name.length ≤ maxNameLength := by
  rw [validate, named]
  split_ifs with h
  · exact iff_of_true rfl h
  · exact iff_of_false nofun h

/-! ### Registered names -/

namespace Registry

variable {Body : Type}

/-- A registration with a good schedule and a free name succeeds exactly if the name fits. -/
lemma answer_eq_ok_iff {g : Registry Body} {c : Call Body} {name : String} {duty : Duty Body}
    (hoffer : c.offer? = some (name, .ok duty)) (hfree : g.find? name = none) :
    c.answer g = .ok ⟨⟩ ↔ Registration.NameFits name := by
  rw [Call.answer, Call.apply_eq, hoffer]
  dsimp only
  by_cases hfits : Registration.NameFits name
  · rw [add_of_free (r := duty.named name) hfits hfree]
    exact iff_of_true rfl hfits
  · rw [add_of_not_fits (r := duty.named name) hfits, Except.map]
    simp [hfits]

/-- No job of a name with too many bytes is ever found. -/
lemma Used.find?_of_tooManyBytes {log : Log Body} {h : Handles Body} (used : Used log h)
    {cell : Nat} (hcell : cell ∈ h.refs) {name : String} (hbytes : TooManyBytes name) :
    (h.cells cell).find? name = none := by
  have haccounted := used.accounted
  obtain rfl := haccounted.shared cell hcell
  rw [haccounted.agrees.find?, Option.map_eq_none_iff]
  by_contra hjob
  obtain ⟨duty, hduty⟩ := Option.ne_none_iff_exists'.mp hjob
  exact ((Registration.nameFits_iff name).mp (Roster.offered_of_ofCalls hduty).1).2 hbytes

/-- **The checks of a name agree except where a name has few characters and many bytes.** A request
may have a name exactly if the columns for names are wide enough for it and it is not empty. Each
name that a registry takes, with a good schedule or none, is one of these; and the converse holds
exactly for the names that do not have too many bytes. A job of any other name can be asked for, and
is never found. -/
theorem accepts_iff_validates_iff {g : Registry Body} {c : Call Body} {name : String}
    {duty : Duty Body} (hoffer : c.offer? = some (name, .ok duty)) (hfree : g.find? name = none) :
    ((Request.named name).validate = .ok ⟨⟩ ↔ 1 ≤ name.length ∧ name.length ≤ nameWidth) ∧
    (c.answer g = .ok ⟨⟩ → (Request.named name).validate = .ok ⟨⟩) ∧
    ((c.answer g = .ok ⟨⟩ ↔ (Request.named name).validate = .ok ⟨⟩) ↔ ¬ TooManyBytes name) ∧
    (TooManyBytes name → ∀ (log : Log Body) (h : Handles Body), Used log h →
      ∀ cell ∈ h.refs, (h.cells cell).find? name = none) := by
  have hvalid := Request.validate_named_eq_ok name
  have hanswer := answer_eq_ok_iff hoffer hfree
  rw [Registration.nameFits_iff, ← hvalid] at hanswer
  refine ⟨hvalid, fun hok => (hanswer.mp hok).1, ?_, ?_⟩
  · constructor
    · intro hagree hbytes
      have hok := hvalid.mpr ⟨hbytes.one_le_length, hbytes.1⟩
      exact (hanswer.mp (hagree.mpr hok)).2 hbytes
    · intro hbytes
      rw [hanswer]
      exact and_iff_left hbytes
  · intro hbytes log h used cell hcell
    exact used.find?_of_tooManyBytes hcell hbytes

/-- The checks agree about a name of 127 letters of two bytes each. -/
theorem accepts_iff_validates_iff_short :
    (Call.registerOnDemand (letters 127) .none 0).answer (empty : Registry Nat) = .ok ⟨⟩ ↔
      (Request.named (letters 127)).validate = .ok ⟨⟩ := by
  have hbytes : ¬ TooManyBytes (letters 127) := by
    rw [tooManyBytes_letters]
    decide
  have hoffer : (Call.registerOnDemand (letters 127) .none 0).offer? =
      some (letters 127, .ok ⟨none, .none, 0⟩) := by
    rw [Call.offer?]
  have hfree : (empty : Registry Nat).find? (letters 127) = none := List.find?_nil
  exact (accepts_iff_validates_iff hoffer hfree).2.2.1.mpr hbytes

/-- A request may have a name of 128 such letters, and the columns are wide enough for it. No
registry takes it. -/
theorem validates_and_not_accepts :
    (Request.named (letters 128)).validate = .ok ⟨⟩ ∧ (letters 128).length ≤ nameWidth ∧
    (Call.registerOnDemand (letters 128) .none 0).answer (empty : Registry Nat) =
      .error (.invalidName (letters 128)) ∧
    ¬ ((Call.registerOnDemand (letters 128) .none 0).answer (empty : Registry Nat) = .ok ⟨⟩ ↔
      (Request.named (letters 128)).validate = .ok ⟨⟩) := by
  have hlength := length_letters 128
  have hvalid : (Request.named (letters 128)).validate = .ok ⟨⟩ := by
    rw [Request.validate_named_eq_ok, hlength]
    decide
  have hfits : ¬ Registration.NameFits (letters 128) := by
    rw [Registration.NameFits, utf8ByteSize_letters]
    decide
  have hanswer : (Call.registerOnDemand (letters 128) .none 0).answer (empty : Registry Nat) =
      .error (.invalidName (letters 128)) := by
    have hadd := add_of_not_fits (g := empty) (r := ⟨letters 128, none, .none, 0⟩) hfits
    rw [Call.answer, Call.apply, registerOnDemand, hadd, Except.map]
  refine ⟨hvalid, by rw [hlength]; decide, hanswer, fun hagree => ?_⟩
  have hok := hagree.mpr hvalid
  rw [hanswer] at hok
  cases hok

end Registry

end JobDispatch
