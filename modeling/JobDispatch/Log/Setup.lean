import JobDispatch.Json.Writer
import JobDispatch.Log.Filter

/-!
How the program keeps its log: which lines it prints, and in which form.
-/

namespace JobDispatch

/-- The form in which log lines are written. -/
inductive LogFormat where
  | json | pretty
  deriving DecidableEq, Repr

namespace LogFormat

/-- The form with the given name; `json` alone is a name of the first one. -/
def ofText (name : String) : LogFormat := if name = "json" then json else pretty

/-- A log line as it is printed. -/
def render (f : LogFormat) (n : Notice) : String :=
  match f with
  | json =>
    (Json.object [("fields", .object [("message", .string n.message)]),
      ("level", .string n.level.text), ("target", .string n.target)]).text
  | pretty => n.level.text ++ " " ++ n.target ++ ": " ++ n.message

end LogFormat

/-- Which log lines are printed, and in which form. -/
structure LogSetup where
  format : LogFormat
  filter : Filter
  deriving DecidableEq, Repr

/-- The setup for a configured level and form, and for the environment variable that overrides the
level; none if there is no filter. -/
def LogSetup.ofConfig? (level format : String) (override : Option String) : Option LogSetup :=
  (Filter.choose? level override).map fun filter => ⟨.ofText format, filter⟩

end JobDispatch
