/-!
Reports: an error message with the causes behind it.

`Report.text` writes a report as it is logged: the message, and below it the causes, the nearest
first. A single cause is only indented; several are numbered from 0. Further lines of a cause stand
under its first line.
-/

namespace JobDispatch

/-- An error message and its causes, the nearest first. -/
structure Report where
  message : String
  causes : List String
  deriving DecidableEq, Repr

namespace Report

/-- A text with `first` before its first line and `other` before the others. -/
def indented (first other : String) (text : String) : String :=
  first ++ ("\n" ++ other).intercalate (text.splitOn "\n")

/-- The number of a cause, in five places. -/
def numberText (n : Nat) : String :=
  let digits := toString n
  "".pushn ' ' (5 - digits.length) ++ digits ++ ": "

/-- The causes, one below the other. -/
def causesText : List String → String
  | [cause] => indented "    " "    " cause
  | causes =>
    "\n".intercalate (causes.zipIdx.map fun (cause, n) => indented (numberText n) "       " cause)

/-- The message and the causes. -/
def text (r : Report) : String :=
  if r.causes.isEmpty then r.message
  else r.message ++ "\n\nCaused by:\n" ++ causesText r.causes

/-- The report with a message put before it. -/
def within (r : Report) (message : String) : Report := ⟨message, r.message :: r.causes⟩

end Report

end JobDispatch
