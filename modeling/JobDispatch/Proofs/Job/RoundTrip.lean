import JobDispatch.Job.Request
import JobDispatch.Proofs.Time.RoundTrip

/-!
Requests that are written as JSON can be read back.

* `Json.firstFault?_eq_none`: a record in which every member fits its field has no fault.
* `Request.ofJson_toJson`: a request is read back as it was written, be it due at an instant that a
  clock can show or at once.
-/

namespace JobDispatch

namespace Json

/-! ### Records -/

/-- A value from which a field can be read has no fault in that field. -/
lemma Field.fault?_check {α : Type} {f : Field α} {v : Json} {a : α} (h : f.decode v = .ok a) :
    f.check.fault? v = none := by
  rw [check]
  dsimp only
  rw [h]

/-- A record has no fault if no member has one in the field of its name. -/
lemma firstFault?_eq_none {checks : List Check} {members : List (String × Json)}
    (h : ∀ m ∈ members, ∀ c ∈ checks, c.name = m.1 → c.fault? m.2 = none) :
    firstFault? checks members = none := by
  rw [firstFault?, List.findSome?_eq_none_iff]
  intro m hm
  rw [Option.bind_eq_none_iff]
  intro c hc
  exact h m hm c (List.mem_of_find?_eq_some hc) (by simpa using List.find?_some hc)

/-- A field is taken from the member of its name. -/
lemma Found.take_byName {α : Type} {t : RecordType} {f : Field α} {members : List (String × Json)}
    {v : Json} {a : α} (hfound : members.lookup f.name = some v) (h : f.decode v = .ok a) :
    (Found.byName members).take t f = .ok a := by
  rw [take, hfound]
  exact h

end Json

namespace Request

open Json (Found firstFault?)

/-! ### Requests -/

/-- The time of a request is read back, and so is that it has none. -/
lemma decode_instantJson {due : Option Instant} (h : ∀ t ∈ due, t.Representable) :
    notBeforeField.decode (instantJson due) = .ok due := by
  cases due with
  | none => rfl
  | some t =>
      show some <$> (Instant.parse t.text).mapError DecodeError.timestamp = .ok (some t)
      rw [Instant.parse_text (h t rfl)]
      rfl

/-- A request that was written has all its fields, and each is as it must be. -/
lemma firstFault?_toJson {r : Request} (h : ∀ t ∈ r.notBefore, t.Representable) :
    firstFault? recordType.checks [(nameField.name, .string r.jobName),
      (notBeforeField.name, instantJson r.notBefore), (parametersField.name, r.parameters)] =
      none := by
  refine Json.firstFault?_eq_none fun m hm c hc hname => ?_
  simp only [recordType, List.mem_cons, List.not_mem_nil, or_false] at hm hc
  rcases hm with rfl | rfl | rfl <;> rcases hc with rfl | rfl | rfl
  case inl.inl => rfl
  case inr.inl.inr.inl => exact Json.Field.fault?_check (decode_instantJson h)
  case inr.inr.inr.inr => rfl
  -- No two fields have one name.
  all_goals simp [Json.Field.check, nameField, notBeforeField, parametersField] at hname

/-- **Reading a request undoes writing it**, whatever its name and its parameters are, and whether
it is due at once or at an instant that a clock can show. Among these are the leap seconds that end
a minute; values that stand for a leap second within a minute, which no text names, are left out. -/
theorem ofJson_toJson {r : Request} (h : ∀ t ∈ r.notBefore, t.Representable) :
    ofJson r.toJson = .ok r := by
  rw [ofJson, toJson, Json.record, firstFault?_toJson h]
  dsimp only
  rw [Found.take_byName (v := .string r.jobName) (a := r.jobName) rfl rfl, Timestamp.ok_bind,
    Found.take_byName (v := instantJson r.notBefore) rfl (decode_instantJson h), Timestamp.ok_bind,
    Found.take_byName (v := r.parameters) rfl rfl, Timestamp.ok_bind]

/-- A request that is due half a second into a leap second at the end of the year before 0, without
parameters. -/
theorem ofJson_toJson_leapSecond :
    (⟨-62167219201, 1500000000⟩ : Instant).Representable ∧
    ofJson (toJson ⟨"echo", some ⟨-62167219201, 1500000000⟩, .null⟩) =
      .ok ⟨"echo", some ⟨-62167219201, 1500000000⟩, .null⟩ := by
  have hdue : (⟨-62167219201, 1500000000⟩ : Instant).Representable := by decide
  refine ⟨hdue, ofJson_toJson fun t ht => ?_⟩
  obtain rfl := Option.some.inj ht
  exact hdue

end Request

end JobDispatch
