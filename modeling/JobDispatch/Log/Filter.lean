import JobDispatch.Log.Directive
import JobDispatch.Log.Notice

/-!
Which log lines are let through.

A filter is a list of directives. The one that is closest to a line decides, the last of several
alike; it lets the line through up to its own level. A line that no directive is about is not let
through.

* `Filter.ofLevel?` is the filter of a configured level and `Filter.ofVariable` the one of an
  environment variable; `Filter.choose?` says which of them counts.
* `Filter.lets` says which lines a filter lets through.
-/

namespace JobDispatch

/-- Which log lines are let through. -/
abbrev Filter := List Directive

namespace Filter

/-- The texts of the directives, which commas separate; empty ones do not count. -/
def pieces (text : String) : List (List Char) :=
  ((text.splitOn ",").map String.toList).filter fun s => !s.isEmpty

/-- The directives that can be read, the others left out; nothing if a part of one cannot be cut
out. -/
def readable? : List (List Char) → Option (List Directive)
  | [] => some []
  | s :: rest =>
    match Directive.parse s with
    | .ok d => (readable? rest).map (d :: ·)
    | .error .malformed => readable? rest
    | .error .splitCharacter => none

/-- The filter of a configured level. Directives that cannot be read are left out, and if none is
left, errors are let through. -/
def ofLevel? (text : String) : Option Filter :=
  (readable? (pieces text)).map fun directives =>
    if directives.isEmpty then [⟨none, .anyLine, some .error⟩] else directives

/-- The filter of an environment variable, if every directive can be read; without directives it
lets nothing through. -/
def ofVariable (text : String) : Except DirectiveFault Filter := do
  let directives ← (pieces text).mapM Directive.parse
  .ok (if directives.isEmpty then [⟨none, .anyLine, none⟩] else directives)

/-- The filter of the variable, and the one of the configured level if there is no variable or it is
malformed. There is none if a part of a directive cannot be cut out. -/
def choose? (level : String) (override : Option String) : Option Filter :=
  match override.map ofVariable with
  | some (.ok f) => some f
  | some (.error .splitCharacter) => none
  | some (.error .malformed) | none => ofLevel? level

/-- The directive that decides on lines of the given target and fields. -/
def directiveFor? (f : Filter) (target : String) (fields : List String) : Option Directive :=
  f.foldl (fun best d =>
    if d.covers target fields && best.all fun b => b.yieldsTo d then some d else best) none

/-- The filter lets a line of the given target, fields and level through. -/
def lets (f : Filter) (target : String) (fields : List String) (level : Level) : Bool :=
  (f.directiveFor? target fields).any fun d => d.lets level

/-- The log lines that the filter lets through. -/
def apply (f : Filter) (notices : List Notice) : List Notice :=
  notices.filter fun n => f.lets n.target n.fields n.level

end Filter

end JobDispatch
