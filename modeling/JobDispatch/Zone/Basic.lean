import JobDispatch.Time.Instant

/-!
Time zones: how far local clocks are ahead of UTC, and when that changes.

A `Zone` has an offset for the oldest times and an ascending list of changes, each with the minute
from which it holds. Local times are counted like instants, in seconds from 1970-01-01T00:00:00 on
the local clock.

* `Zone.offsetAt` is the offset in force at an instant, `Zone.localAt` the local time there.
* `Zone.instantsOf` lists every instant at which the local clock shows a given time: none inside a
  gap, two inside an overlap (`Zone.mem_instantsOf`).
* `Zone.hasDay` says whether a local day begins or ends outside a gap.
* `Zone.find?` looks a zone up by its exact name.
-/

namespace JobDispatch

/-- A time zone; offsets are in minutes east of UTC, times of change in minutes from
1970-01-01T00:00Z. -/
structure Zone where
  name : String
  oldest : Int
  changes : List (Int × Int)
  deriving DecidableEq, Repr

namespace Zone

/-- Seconds in one minute. -/
abbrev secsPerMinute : Int := 60

/-- The offset in force at `secs`, when `offset` is in force before the given changes. -/
def offsetFrom (offset : Int) : List (Int × Int) → Int → Int
  | [], _ => offset
  | (start, next) :: later, secs =>
    if start * secsPerMinute ≤ secs then offsetFrom next later secs else offset

/-- The offset in force at `secs`, in minutes. -/
def offsetAt (z : Zone) (secs : Int) : Int := offsetFrom z.oldest z.changes secs

/-- The local time at `secs`. -/
def localAt (z : Zone) (secs : Int) : Int := secs + z.offsetAt secs * secsPerMinute

/-- The instants at which the clock shows `shown`, among those from `since` on, when `offset` is in
force from there until the given changes. -/
def instantsFrom (since : Option Int) (offset : Int) (shown : Int) :
    List (Int × Int) → List Int
  | [] =>
    let secs := shown - offset * secsPerMinute
    if since.all (· ≤ secs) then [secs] else []
  | (start, next) :: later =>
    let secs := shown - offset * secsPerMinute
    let rest := instantsFrom (some (start * secsPerMinute)) next shown later
    if since.all (· ≤ secs) && secs < start * secsPerMinute then secs :: rest else rest

/-- The instants at which the local clock shows `shown`. -/
def instantsOf (z : Zone) (shown : Int) : List Int :=
  instantsFrom none z.oldest shown z.changes

/-- The changes come in ascending order. -/
def Ordered (z : Zone) : Prop := (z.changes.map Prod.fst).Pairwise (· < ·)

instance (z : Zone) : Decidable z.Ordered := by unfold Ordered; infer_instance

/-- Among the instants from `since` on, where no change comes earlier, exactly those are found at
which the clock shows the given time. -/
theorem mem_instantsFrom {changes : List (Int × Int)} {shown t : Int}
    (ordered : (changes.map Prod.fst).Pairwise (· < ·)) (since : Option Int) (offset : Int)
    (later : ∀ s ∈ since, ∀ c ∈ changes, s ≤ c.1 * secsPerMinute) :
    t ∈ instantsFrom since offset shown changes ↔
      (∀ s ∈ since, s ≤ t) ∧ t + offsetFrom offset changes t * secsPerMinute = shown := by
  induction changes generalizing since offset with
  | nil =>
    simp only [instantsFrom, offsetFrom, Option.all_eq_true, decide_eq_true_eq]
    cases since <;> simp <;> grind
  | cons change rest ih =>
    obtain ⟨start, next⟩ := change
    simp only [List.map_cons, List.pairwise_cons] at ordered
    have found := ih ordered.2 (some (start * secsPerMinute)) next (by
      intro s hs c hc
      have := ordered.1 c.1 (List.mem_map_of_mem hc)
      cases hs
      simp only [secsPerMinute]; omega)
    have first : ∀ s ∈ since, s ≤ start * secsPerMinute := fun s hs =>
      later s hs (start, next) List.mem_cons_self
    simp only [instantsFrom, offsetFrom]
    cases since <;> simp at first found ⊢ <;> grind

/-- Exactly the instants are found at which the local clock shows the given time. -/
theorem mem_instantsOf {z : Zone} (h : z.Ordered) {shown t : Int} :
    t ∈ z.instantsOf shown ↔ z.localAt t = shown := by
  simp [instantsOf, mem_instantsFrom h none z.oldest, localAt, offsetAt]

/-- The local day, counted from 1970-01-01, begins or ends outside a gap. -/
def hasDay (z : Zone) (day : Int) : Bool :=
  !(z.instantsOf (day * secsPerDay)).isEmpty ||
    !(z.instantsOf (day * secsPerDay + (secsPerDay - 1))).isEmpty

/-- The zone with exactly this name, among those that there are. -/
def find? (zones : List Zone) (name : String) : Option Zone := zones.find? (·.name == name)

/-- Why a name names no zone. -/
def unknownMessage (name : String) : String := s!"'{name}' is not a valid timezone"

end Zone

end JobDispatch
