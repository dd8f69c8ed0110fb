import JobDispatch.Job.Registry
import JobDispatch.Proofs.Text.Utf8
import Mathlib.Data.Set.Card
import Mathlib.Logic.Function.Basic

/-!
A registry is a partial map in which the first registration of a name stays.

A `Roster` maps names to the `Duty` that a job has apart from its name. `Roster.next` says what a
call answers and which roster it leaves, without a look at how a registry keeps its jobs. Clones of
a registry are handles on one cell; a call goes through any of them.

* `Registry.Agrees`: the jobs come in the order of their names, and they are those of the roster.
  `Registry.Agrees.called` says that every call keeps this and answers as the roster does.
* `Registry.Shows`: what can be seen of a registry is what the roster holds. It follows from
  `Registry.Agrees`.
* `Registry.Log.roster`: the roster of the calls in a log.
* `Registry.standing`: the registrations that have succeeded since the registry was last cleared.
* `Registry.Enrolled`: the jobs have names of their own and schedules that can be read, which holds
  for every registry (`Registry.Used.enrolled`).
* `Registry.Used.refines`: through every handle the roster of all calls is seen.
-/

namespace JobDispatch

/-! ### Rosters -/

/-- What a job has apart from its name. -/
structure Duty (Body : Type) where
  schedule : Option Schedule
  capabilities : Capabilities
  body : Body

/-- The job with a name and what it has besides. -/
def Duty.named {Body : Type} (name : String) (d : Duty Body) : Registration Body :=
  ⟨name, d.schedule, d.capabilities, d.body⟩

/-- What a job has apart from its name. -/
def Registration.duty {Body : Type} (r : Registration Body) : Duty Body :=
  ⟨r.schedule, r.capabilities, r.body⟩

/-- Which names have a job, and what those jobs have besides. -/
abbrev Roster (Body : Type) : Type := String → Option (Duty Body)

namespace Registry

variable {Body : Type}

/-- A call that may change a registry. -/
inductive Call (Body : Type) where
  | register (name expression : String) (capabilities : Capabilities) (body : Body)
  | registerOnDemand (name : String) (capabilities : Capabilities) (body : Body)
  | clear
  deriving DecidableEq

namespace Call

/-- The registry after the call, unless it is refused. -/
def apply (g : Registry Body) : Call Body → Except RegistryError (Registry Body)
  | register name expression capabilities body => g.register name expression capabilities body
  | registerOnDemand name capabilities body => g.registerOnDemand name capabilities body
  | clear => .ok .empty

/-- What the caller gets. -/
def answer (g : Registry Body) (c : Call Body) : Except RegistryError Unit :=
  (c.apply g).map fun _ => ⟨⟩

/-- What the registry is after the call. A refused call leaves it as it is. -/
def after (g : Registry Body) (c : Call Body) : Registry Body :=
  match c.apply g with
  | .ok g' => g'
  | .error _ => g

/-- The name that a call registers, with its duty unless the schedule cannot be read. -/
def offer? : Call Body → Option (String × Except ScheduleError (Duty Body))
  | register name expression capabilities body =>
    some (name, (Schedule.parse expression).map fun s => ⟨some s, capabilities, body⟩)
  | registerOnDemand name capabilities body => some (name, .ok ⟨none, capabilities, body⟩)
  | clear => none

lemma apply_eq (g : Registry Body) (c : Call Body) :
    c.apply g = match c.offer? with
      | none => .ok .empty
      | some (name, .error fault) => .error (.invalidSchedule name fault)
      | some (name, .ok duty) => g.add (duty.named name) := by
  cases c with
  | register name expression capabilities body =>
      rw [apply, Registry.register, offer?]
      cases Schedule.parse expression <;> rfl
  | registerOnDemand name capabilities body => rfl
  | clear => rfl

end Call

end Registry

namespace Roster

variable {Body : Type}

/-- No name has a job. -/
def empty : Roster Body := fun _ => none

/-- What a call answers on a roster, and the roster after it. Clearing empties it. A job is added
exactly if its schedule can be read, its name fits and the name is free; the first of the three that
fails is what the answer names, and the roster stays as it is. -/
def next (m : Roster Body) (c : Registry.Call Body) :
    Except RegistryError Unit × Roster Body :=
  match c.offer? with
  | none => (.ok ⟨⟩, empty)
  | some (name, .error fault) => (.error (.invalidSchedule name fault), m)
  | some (name, .ok duty) =>
    if ¬ Registration.NameFits name then (.error (.invalidName name), m)
    else if (m name).isSome then (.error (.duplicateJob name), m)
    else (.ok ⟨⟩, Function.update m name (some duty))

/-- A call clears the roster, is refused, or adds a job to a free name. -/
lemma next_cases (m : Roster Body) (c : Registry.Call Body) :
    (c.offer? = none ∧ m.next c = (.ok ⟨⟩, empty)) ∨
    (c.offer? ≠ none ∧ ∃ refusal, m.next c = (.error refusal, m)) ∨
    (∃ name duty, c.offer? = some (name, .ok duty) ∧ Registration.NameFits name ∧ m name = none ∧
      m.next c = (.ok ⟨⟩, Function.update m name (some duty))) := by
  rw [next]
  cases c.offer? with
  | none => exact .inl ⟨rfl, rfl⟩
  | some offer =>
      obtain ⟨name, fault | duty⟩ := offer
      · exact .inr (.inl ⟨Option.some_ne_none _, _, rfl⟩)
      · dsimp only
        split_ifs with hfits htaken
        · exact .inr (.inl ⟨Option.some_ne_none _, _, rfl⟩)
        · exact .inr (.inr ⟨name, duty, rfl, hfits, by simpa using htaken, rfl⟩)
        · exact .inr (.inl ⟨Option.some_ne_none _, _, rfl⟩)

/-- The roster after calls, from the empty one on. -/
def ofCalls (calls : List (Registry.Call Body)) : Roster Body :=
  calls.foldl (fun m c => (m.next c).2) empty

lemma ofCalls_concat (calls : List (Registry.Call Body)) (c : Registry.Call Body) :
    ofCalls (calls ++ [c]) = ((ofCalls calls).next c).2 := by
  rw [ofCalls, List.foldl_append]
  rfl

/-- Whatever has been called, a name that has a job fits, and a call has offered the job. -/
lemma offered_of_ofCalls {calls : List (Registry.Call Body)} {name : String}
    {duty : Duty Body} (h : ofCalls calls name = some duty) :
    Registration.NameFits name ∧ ∃ c ∈ calls, c.offer? = some (name, .ok duty) := by
  induction calls using List.reverseRecOn with
  | nil => cases h
  | append_singleton calls c ih =>
      have hearlier (h : ofCalls calls name = some duty) : Registration.NameFits name ∧
          ∃ c' ∈ calls ++ [c], c'.offer? = some (name, .ok duty) := by
        obtain ⟨hfits, c', hc', hoffer⟩ := ih h
        exact ⟨hfits, c', List.mem_append_left _ hc', hoffer⟩
      rw [ofCalls_concat] at h
      obtain ⟨-, hnext⟩ | ⟨-, refusal, hnext⟩ | ⟨key, offered, hoffer, hfits, -, hnext⟩ :=
        (ofCalls calls).next_cases c
      · rw [hnext] at h
        cases h
      · rw [hnext] at h
        exact hearlier h
      · rw [hnext] at h
        dsimp only at h
        by_cases hname : name = key
        · subst hname
          rw [Function.update_self] at h
          obtain rfl : offered = duty := Option.some.inj h
          exact ⟨hfits, c, List.mem_append_right _ (List.mem_singleton_self c), hoffer⟩
        · rw [Function.update_of_ne hname] at h
          exact hearlier h

end Roster

namespace Registry

variable {Body : Type}

/-! ### Jobs in order -/

lemma mem_insertSorted {r s : Registration Body} {jobs : List (Registration Body)} :
    s ∈ insertSorted r jobs ↔ s = r ∨ s ∈ jobs := by
  induction jobs with
  | nil => simp [insertSorted]
  | cons t rest ih =>
      rw [insertSorted]
      split
      · exact List.mem_cons
      · rw [List.mem_cons, ih, List.mem_cons]
        exact or_left_comm

/-- A job with a new name finds its place. -/
lemma pairwise_insertSorted {r : Registration Body} {jobs : List (Registration Body)}
    (hsorted : jobs.Pairwise fun s t => s.name < t.name) (hnew : ∀ s ∈ jobs, s.name ≠ r.name) :
    (insertSorted r jobs).Pairwise fun s t => s.name < t.name := by
  induction jobs with
  | nil => exact List.pairwise_singleton _ _
  | cons t rest ih =>
      obtain ⟨hfirst, hrest⟩ := List.pairwise_cons.mp hsorted
      obtain ⟨hne, hothers⟩ := List.forall_mem_cons.mp hnew
      rw [insertSorted]
      split
      · next hlt =>
          refine List.pairwise_cons.mpr ⟨fun s hs => ?_, hsorted⟩
          rcases List.mem_cons.mp hs with rfl | hs
          · exact hlt
          · exact lt_trans hlt (hfirst s hs)
      · next hnot =>
          refine List.pairwise_cons.mpr ⟨fun s hs => ?_, ih hrest hothers⟩
          rcases mem_insertSorted.mp hs with rfl | hs
          · exact lt_of_le_of_ne (not_lt.mp hnot) hne
          · exact hfirst s hs

section Add

variable {g : Registry Body} {r : Registration Body}

lemma add_of_not_fits (h : ¬ Registration.NameFits r.name) :
    g.add r = .error (.invalidName r.name) :=
  if_pos h

lemma add_of_taken (hfits : Registration.NameFits r.name) (h : (g.find? r.name).isSome) :
    g.add r = .error (.duplicateJob r.name) :=
  (if_neg (not_not.mpr hfits)).trans (if_pos h)

lemma add_of_free (hfits : Registration.NameFits r.name) (h : g.find? r.name = none) :
    g.add r = .ok ⟨insertSorted r g.jobs⟩ :=
  (if_neg (not_not.mpr hfits)).trans (if_neg (by simp [h]))

end Add

/-- The jobs come in the order of their names, and they are those of the roster. -/
structure Agrees (g : Registry Body) (m : Roster Body) : Prop where
  sorted : g.jobs.Pairwise fun r s => r.name < s.name
  mem : ∀ r, r ∈ g.jobs ↔ m r.name = some r.duty

lemma agrees_empty : (empty : Registry Body).Agrees Roster.empty where
  sorted := .nil
  mem := fun _ => ⟨nofun, nofun⟩

section Agrees

variable {g : Registry Body} {m : Roster Body} (h : g.Agrees m)
include h

lemma Agrees.find? (name : String) : g.find? name = (m name).map (Duty.named name) := by
  cases hfound : g.find? name with
  | some r =>
      have hjobs : g.jobs.find? (fun s => s.name == name) = some r := hfound
      have hduty := (h.mem r).mp (List.mem_of_find?_eq_some hjobs)
      have hname : r.name = name := by simpa using List.find?_some hjobs
      rw [← hname, hduty]
      rfl
  | none =>
      cases hduty : m name with
      | none => rfl
      | some duty =>
          have hmem : duty.named name ∈ g.jobs := (h.mem _).mpr hduty
          have hne := List.find?_eq_none.mp hfound _ hmem
          exact absurd (beq_self_eq_true name) hne

/-- A new job keeps its place among the others, and the roster has it besides. -/
lemma Agrees.insertSorted {r : Registration Body} (hfree : m r.name = none) :
    Agrees ⟨insertSorted r g.jobs⟩ (Function.update m r.name (some r.duty)) := by
  have hnew : ∀ s ∈ g.jobs, s.name ≠ r.name := by
    intro s hs hname
    have hduty := (h.mem s).mp hs
    rw [hname, hfree] at hduty
    exact nomatch hduty
  refine ⟨pairwise_insertSorted h.sorted hnew, fun s => ?_⟩
  rw [mem_insertSorted, h.mem]
  by_cases hname : s.name = r.name
  · obtain ⟨name, schedule, capabilities, body⟩ := s
    obtain rfl : name = r.name := hname
    rw [Function.update_self, hfree]
    cases r
    simp [Registration.duty, eq_comm]
  · rw [Function.update_of_ne hname]
    exact or_iff_right (fun heq => hname (congrArg _ heq))

/-- A call on a registry answers as it does on the roster, and leaves what the roster has then. -/
lemma Agrees.called (c : Call Body) :
    c.answer g = (m.next c).1 ∧ (c.after g).Agrees (m.next c).2 := by
  rw [Call.answer, Call.after, Call.apply_eq, Roster.next]
  cases c.offer? with
  | none => exact ⟨rfl, agrees_empty⟩
  | some offer =>
      obtain ⟨name, fault | duty⟩ := offer
      · exact ⟨rfl, h⟩
      · have hfind := h.find? name
        dsimp only
        split_ifs with hfits htaken
        · have hsome : (g.find? name).isSome := by rwa [hfind, Option.isSome_map]
          rw [add_of_taken (r := duty.named name) hfits hsome]
          exact ⟨rfl, h⟩
        · have hfree : m name = none := by simpa using htaken
          have hnone : g.find? name = none := by rw [hfind, hfree, Option.map_none]
          rw [add_of_free (r := duty.named name) hfits hnone]
          exact ⟨rfl, h.insertSorted hfree⟩
        · rw [add_of_not_fits (r := duty.named name) hfits]
          exact ⟨rfl, h⟩

end Agrees

/-! ### What can be seen -/

/-- What can be seen of a registry is what the roster holds: a lookup finds the job of the name; the
names, strictly ascending by their bytes, are those that have a job; the jobs that fire by a
schedule are listed in the same order of their names; the size is the number of names. -/
structure Shows (g : Registry Body) (m : Roster Body) : Prop where
  find? : ∀ name, g.find? name = (m name).map (Duty.named name)
  names_sorted : g.names.Pairwise fun s t => Text.utf8 s < Text.utf8 t
  mem_names : ∀ name, name ∈ g.names ↔ m name ≠ none
  periodic_sorted : g.periodic.Pairwise fun r s => Text.utf8 r.name < Text.utf8 s.name
  mem_periodic : ∀ r, r ∈ g.periodic ↔ m r.name = some r.duty ∧ r.schedule ≠ none
  size : g.size = {name | m name ≠ none}.encard
  isEmpty : g.isEmpty = true ↔ {name | m name ≠ none}.encard = 0

section Shows

variable {g : Registry Body} {m : Roster Body} (h : g.Agrees m)
include h

lemma Agrees.mem_names (name : String) : name ∈ g.names ↔ m name ≠ none := by
  refine List.mem_map.trans ⟨?_, fun hsome => ?_⟩
  · rintro ⟨r, hr, rfl⟩
    rw [(h.mem r).mp hr]
    exact Option.some_ne_none _
  · obtain ⟨duty, hduty⟩ := Option.ne_none_iff_exists'.mp hsome
    exact ⟨duty.named name, (h.mem _).mpr hduty, rfl⟩

lemma Agrees.size_eq : g.size = {name | m name ≠ none}.encard := by
  have hnodup : g.names.Nodup := List.pairwise_map.mpr (h.sorted.imp ne_of_lt)
  have hset : {name | m name ≠ none} = (g.names.toFinset : Set String) := by
    ext name
    simp [h.mem_names]
  have hlength : g.names.length = g.size := List.length_map _
  rw [hset, Set.encard_coe_eq_coe_finsetCard, List.toFinset_card_of_nodup hnodup, hlength]

lemma Agrees.shows : g.Shows m := by
  have hsorted : g.jobs.Pairwise fun r s => Text.utf8 r.name < Text.utf8 s.name :=
    h.sorted.imp Text.utf8_lt_utf8
  exact {
    find? := h.find?
    names_sorted := List.pairwise_map.mpr hsorted
    mem_names := h.mem_names
    periodic_sorted := hsorted.filter _
    mem_periodic := fun r => by
      rw [periodic, List.mem_filter, h.mem, Registration.isPeriodic, Option.isSome_iff_ne_none]
    size := h.size_eq
    isEmpty := by rw [← h.size_eq, isEmpty, beq_iff_eq, Nat.cast_eq_zero] }

end Shows

/-! ### Clones -/

/-- The registries in memory, and for each handle the one that it refers to. -/
structure Handles (Body : Type) where
  cells : Nat → Registry Body
  refs : List Nat

/-- Calls with their answers, the first of them first. -/
abbrev Log (Body : Type) : Type := List (Call Body × Except RegistryError Unit)

/-- The roster of the calls. -/
def Log.roster (log : Log Body) : Roster Body := Roster.ofCalls (log.map Prod.fst)

lemma Log.roster_concat (log : Log Body) (c : Call Body) (answer : Except RegistryError Unit) :
    Log.roster (log ++ [(c, answer)]) = (log.roster.next c).2 := by
  rw [roster, List.map_append]
  exact Roster.ofCalls_concat _ c

/-- What has been made of one registry: its handle is cloned, and calls go through any of the
handles. -/
inductive Used : Log Body → Handles Body → Prop where
  | created : Used [] ⟨fun _ => .empty, [0]⟩
  | cloned {log : Log Body} {h : Handles Body} {cell : Nat}
      (used : Used log h) (href : cell ∈ h.refs) : Used log { h with refs := h.refs ++ [cell] }
  | called {log : Log Body} {h : Handles Body} {cell : Nat}
      (used : Used log h) (href : cell ∈ h.refs) (c : Call Body) :
      Used (log ++ [(c, c.answer (h.cells cell))])
        { h with cells := Function.update h.cells cell (c.after (h.cells cell)) }

/-- The registrations that stand after one more call. -/
def standingAfter (standing : List (String × Duty Body)) :
    Call Body × Except RegistryError Unit → List (String × Duty Body)
  | (c, answer) =>
    match c.offer?, answer with
    | none, _ => []
    | some (name, .ok duty), .ok _ => standing ++ [(name, duty)]
    | some _, _ => standing

/-- The registrations that have succeeded since the last clearing, the first of them first. -/
def standing (log : Log Body) : List (String × Duty Body) :=
  log.foldl standingAfter []

/-- What stands after a call is what the roster has then, if it was so before. -/
lemma lookup_standingAfter {m : Roster Body} {regs : List (String × Duty Body)}
    (h : ∀ name, regs.lookup name = m name) (c : Call Body) (name : String) :
    (standingAfter regs (c, (m.next c).1)).lookup name = (m.next c).2 name := by
  obtain ⟨hoffer, hnext⟩ | ⟨hoffer, refusal, hnext⟩ | ⟨key, duty, hoffer, -, hfree, hnext⟩ :=
    m.next_cases c
  · simp only [standingAfter, hoffer, hnext]
    rfl
  · obtain ⟨offer, hsome⟩ := Option.ne_none_iff_exists'.mp hoffer
    simp only [standingAfter, hsome, hnext]
    exact h name
  · simp only [standingAfter, hoffer, hnext]
    rw [List.lookup_append, h, List.lookup_cons]
    by_cases hname : name = key
    · rw [hname, Function.update_self, hfree, beq_self_eq_true]
      rfl
    · rw [Function.update_of_ne hname, beq_false_of_ne hname]
      exact Option.or_none

/-- Every handle refers to the one registry, which agrees with the roster of all calls; each answer
is the one of the roster of the calls before; and what stands is what the roster has. -/
structure Accounted (log : Log Body) (h : Handles Body) : Prop where
  shared : ∀ cell ∈ h.refs, cell = 0
  agrees : (h.cells 0).Agrees log.roster
  answers : ∀ (before : Log Body) c answer rest, log = before ++ (c, answer) :: rest →
    answer = (before.roster.next c).1
  standing : ∀ name, (standing log).lookup name = log.roster name

lemma Used.accounted {log : Log Body} {h : Handles Body} (used : Used log h) :
    Accounted log h := by
  induction used with
  | created =>
      exact {
        shared := fun cell hcell => List.mem_singleton.mp hcell
        agrees := agrees_empty
        answers := fun before c answer rest hlog => by simp at hlog
        standing := fun _ => rfl }
  | cloned _ href ih =>
      refine { ih with shared := fun cell hcell => ?_ }
      rcases List.mem_append.mp hcell with hcell | hcell
      · exact ih.shared cell hcell
      · rw [List.mem_singleton.mp hcell]
        exact ih.shared _ href
  | @called log h cell _ href c ih =>
      obtain rfl := ih.shared cell href
      obtain ⟨hanswer, hagrees⟩ := ih.agrees.called c
      refine { shared := ih.shared, agrees := ?_, answers := ?_, standing := fun name => ?_ }
      · simpa only [Log.roster_concat, Function.update_self] using hagrees
      · intro before c' answer rest hlog
        rcases List.eq_nil_or_concat rest with rfl | ⟨rest, last, rfl⟩
        · -- The call is the last one, and the calls before it are the log so far.
          obtain ⟨rfl, hlast⟩ := List.append_inj' hlog rfl
          cases hlast
          exact hanswer
        · rw [List.concat_eq_append, ← List.cons_append, ← List.append_assoc] at hlog
          exact ih.answers before c' answer rest (List.append_inj' hlog rfl).1
      · rw [Log.roster_concat, hanswer, Registry.standing, List.foldl_append]
        exact lookup_standingAfter ih.standing c name

/-- The jobs have names of their own that fit, and schedules that have been read. -/
structure Enrolled (g : Registry Body) : Prop where
  distinct : (g.jobs.map Registration.name).Nodup
  fits : ∀ r ∈ g.jobs, Registration.NameFits r.name
  parsed : ∀ r ∈ g.jobs, ∀ schedule, r.schedule = some schedule →
    ∃ text, Schedule.parse text = .ok schedule

/-- So are the jobs of every registry, whatever has been called. -/
theorem Used.enrolled {log : Log Body} {h : Handles Body} (used : Used log h) {cell : Nat}
    (hcell : cell ∈ h.refs) : (h.cells cell).Enrolled := by
  have haccounted := used.accounted
  obtain rfl := haccounted.shared cell hcell
  have hagrees := haccounted.agrees
  refine ⟨List.pairwise_map.mpr (hagrees.sorted.imp ne_of_lt), fun r hr => ?_,
    fun r hr schedule hschedule => ?_⟩
  · exact (Roster.offered_of_ofCalls ((hagrees.mem r).mp hr)).1
  · obtain ⟨-, c, -, hoffer⟩ := Roster.offered_of_ofCalls ((hagrees.mem r).mp hr)
    cases c with
    | clear => cases hoffer
    | registerOnDemand name capabilities body =>
        obtain ⟨-, hduty⟩ := Prod.mk.inj (Option.some.inj hoffer)
        have hnone : none = r.schedule := congrArg Duty.schedule (Except.ok.inj hduty)
        rw [hschedule] at hnone
        cases hnone
    | register name expression capabilities body =>
        obtain ⟨-, hduty⟩ := Prod.mk.inj (Option.some.inj hoffer)
        cases hparse : Schedule.parse expression with
        | error fault =>
            rw [hparse] at hduty
            cases hduty
        | ok read =>
            rw [hparse] at hduty
            have hsome : some read = r.schedule := congrArg Duty.schedule (Except.ok.inj hduty)
            rw [hschedule] at hsome
            exact ⟨expression, hparse.trans (congrArg Except.ok (Option.some.inj hsome))⟩

/-- **A registry is a partial map in which the first registration of a name stays.** Whatever
handles have been cloned and whichever of them the calls have gone through, each call has answered
as the roster of the calls before it says, and through every handle the roster of all calls is seen.
What a lookup finds is the first registration of the name that has succeeded since the last
clearing. -/
theorem Used.refines {log : Log Body} {h : Handles Body} (used : Used log h) :
    (∀ (before : Log Body) c answer rest, log = before ++ (c, answer) :: rest →
      answer = (before.roster.next c).1) ∧
    ∀ cell ∈ h.refs, (h.cells cell).Shows log.roster ∧
      ∀ name, (h.cells cell).find? name = ((standing log).lookup name).map (Duty.named name) := by
  have haccounted := used.accounted
  refine ⟨haccounted.answers, fun cell hcell => ?_⟩
  obtain rfl := haccounted.shared cell hcell
  refine ⟨haccounted.agrees.shows, fun name => ?_⟩
  rw [haccounted.standing]
  exact haccounted.agrees.find? name

/-- A name that has a job keeps it through a clone, and a schedule is looked at before the name. -/
theorem Used.refines_taken :
    let first : Call Nat := .register "tidy" "@hourly" .none 1
    let second : Call Nat := .registerOnDemand "tidy" .none 2
    let third : Call Nat := .register "" "" .none 3
    ∃ (log : Log Nat) (h : Handles Nat), Used log h ∧ h.refs = [0, 0] ∧
      log = [(first, .ok ⟨⟩), (second, .error (.duplicateJob "tidy")),
        (third, .error (.invalidSchedule "" .empty))] ∧
      (h.cells 0).Shows log.roster ∧
      ((h.cells 0).find? "tidy").map Registration.body = some 1 := by
  intro first second third
  have used := (((Used.created.cloned (List.mem_singleton_self 0)).called
    (List.mem_cons_self ..) first).called (List.mem_cons_self ..) second).called
    (List.mem_cons_self ..) third
  have hshows := (Used.refines used).2 0 (List.mem_cons_self ..)
  refine ⟨_, _, used, rfl, ?_, hshows.1, ?_⟩
  · decide +kernel
  · decide +kernel

end Registry

end JobDispatch
