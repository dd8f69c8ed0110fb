import JobDispatch.Config.Load
import JobDispatch.Text.Alphanumeric

/-!
Files of variables: lines such as `NAME=value`, which set variables that are not set yet.

A value may be quoted, quotes may go over several lines, and `$NAME` or `${NAME}` stands for the
value of a variable. Everything from the first line at fault on is left out.

* `VariableFile.joinedLines` splits a text into lines, those that quotes hold together being one.
* `VariableFile.value?` reads a value.
* `VariableFile.load` sets variables from a text.
-/

namespace JobDispatch.Config.VariableFile

/-! ### Lines -/

/-- Where a line stands while its end is being looked for. -/
inductive LineState where
  | plain
  | blank
  | escaped
  | quoted (quote : Char)
  | quotedEscaped (quote : Char)
  deriving DecidableEq, Repr

/-- The state after a character that stands outside of quotes. -/
def LineState.afterPlain (c : Char) : LineState :=
  if c = '\\' then .escaped
  else if c = '"' ∨ c = '\'' then .quoted c
  else .plain

/-- The state after a character. -/
def LineState.next (state : LineState) (c : Char) : LineState :=
  match state with
  | .plain => if Text.isBlank c ∧ c ≠ '\n' ∧ c ≠ '\r' then .blank else .afterPlain c
  | .blank => .afterPlain c
  | .escaped => .plain
  | .quoted quote =>
    if c = '\\' then .quotedEscaped quote else if c = quote then .plain else .quoted quote
  | .quotedEscaped quote => .quoted quote

/-- How a line ends: at a line break, before a comment, with the text, or not before the text. -/
inductive LineEnd where
  | broken
  | comment
  | complete
  | unfinished
  deriving DecidableEq, Repr

/-- Reads up to a line break outside of quotes, or a comment. -/
def lineFrom : LineState → List Char → List Char × LineEnd × List Char
  | state, [] => ([], if state = .plain then .complete else .unfinished, [])
  | state, c :: rest =>
    if state = .blank ∧ c = '#' then ([], .comment, rest.dropWhile (· ≠ '\n') |>.drop 1)
    else
      let after := state.next c
      if c = '\n' ∧ after = .plain then ([], .broken, rest)
      else
        let (line, fate, rest) := lineFrom after rest
        (c :: line, fate, rest)

/-- A line without the carriage return before its line break. -/
def withoutReturn (line : List Char) : List Char :=
  if line.getLast? = some '\r' then line.dropLast else line

/-- The lines of a text, as far as they end; `room` bounds their number. -/
def linesFrom : Nat → List Char → List (List Char)
  | 0, _ => []
  | room + 1, s =>
    if s.isEmpty then []
    else if (Text.dropBlanks (s.takeWhile (· ≠ '\n'))).head? = some '#' then
      linesFrom room ((s.dropWhile (· ≠ '\n')).drop 1)
    else
      match lineFrom .plain s with
      | (_, .unfinished, _) => []
      | (line, .broken, rest) => withoutReturn line :: linesFrom room rest
      | (line, _, rest) => line :: linesFrom room rest

/-- The lines of a text, those that quotes hold together being one. A text that ends inside quotes,
after a backslash or after a blank loses its last line. -/
def joinedLines (s : List Char) : List (List Char) := linesFrom (s.length + 1) s

/-! ### Values -/

/-- Where a value stands while it is being read. -/
inductive ValueState where
  | bare
  | double
  | single
  | escaped (inside : Bool)
  | name (inside : Bool) (read : List Char)
  | braced (inside : Bool) (read : List Char)
  | ended
  deriving DecidableEq, Repr

/-- The state between other parts of a value, inside double quotes or not. -/
def ValueState.resume (inside : Bool) : ValueState := if inside then .double else .bare

/-- What a backslash and the character after it stand for. -/
def escape? (c : Char) : Option Char :=
  if c = 'n' then some '\n'
  else if ['\\', '\'', '"', '$', ' '].contains c then some c
  else none

/-- The value of the variable with the given name; nothing stands for the others. -/
def valueOf (env : Texts) (name : List Char) : List Char :=
  ((env.lookup (String.ofList name)).getD "").toList

/-- Takes up one character of a value: what it adds, and the state after it. -/
def ValueState.next? (env : Texts) (state : ValueState) (c : Char) :
    Option (List Char × ValueState) :=
  match state with
  | .bare =>
    if c = '$' then some ([], .name false [])
    else if c = '\'' then some ([], .single)
    else if c = '"' then some ([], .double)
    else if c = '\\' then some ([], .escaped false)
    else if c = ' ' ∨ c = '\t' then some ([], .ended)
    else some ([c], .bare)
  | .double =>
    if c = '$' then some ([], .name true [])
    else if c = '"' then some ([], .bare)
    else if c = '\\' then some ([], .escaped true)
    else some ([c], .double)
  | .single => if c = '\'' then some ([], .bare) else some ([c], .single)
  | .escaped inside => (escape? c).map fun d => ([d], .resume inside)
  | .name inside read =>
    if Text.isAlphanumeric c then some ([], .name inside (read ++ [c]))
    else if c = '\x7b' ∧ read.isEmpty then some ([], .braced inside [])
    else if c = '$' then some (valueOf env read, .name inside [])
    else some (valueOf env read ++ [c], .resume inside)
  | .braced inside read =>
    if c = '\x7d' then some (valueOf env read, .resume inside)
    else some ([], .braced inside (read ++ [c]))
  | .ended => if c = ' ' ∨ c = '\t' then some ([], .ended) else none

/-- What the end of a value adds, if the value may end there. -/
def ValueState.finish? (env : Texts) : ValueState → Option (List Char)
  | .bare | .escaped false | .ended => some []
  | .name false read => some (valueOf env read)
  | _ => none

/-- Reads a value up to its end or a comment. -/
def valueFrom? (env : Texts) : ValueState → List Char → Option (List Char)
  | state, [] => state.finish? env
  | state, c :: rest =>
    if state = .ended ∧ c = '#' then some []
    else do
      let (added, state) ← state.next? env c
      some (added ++ (← valueFrom? env state rest))

/-- Reads a value. -/
def value? (env : Texts) (s : List Char) : Option String :=
  (valueFrom? env .bare s).map String.ofList

/-! ### Assignments -/

/-- Reads a name, and the text after it without blanks. -/
def name? (s : List Char) : Option (String × List Char) :=
  match s with
  | [] => none
  | c :: _ =>
    if c.isAlpha ∨ c = '_' then
      let run := s.takeWhile fun c => c.isAlphanum || c == '_' || c == '.'
      some (String.ofList run, Text.dropBlanks (s.drop run.length))
    else none

/-- Reads the name that a line sets, and the text after its equality sign without blanks; the word
`export` may stand before the name. -/
def assigned? (s : List Char) : Option (String × List Char) := do
  match ← name? s with
  | (name, '=' :: rest) => some (name, Text.dropBlanks rest)
  | ("export", rest) =>
    match ← name? rest with
    | (name, '=' :: rest) => some (name, Text.dropBlanks rest)
    | _ => none
  | _ => none

/-- What a line sets: nothing if it is blank or a comment. Blanks at its two ends do not count. -/
def line? (env : Texts) (s : List Char) : Option (Option (String × String)) :=
  match Text.trim s with
  | [] | '#' :: _ => some none
  | s => do
    let (name, rest) ← assigned? s
    match rest with
    | [] | '#' :: _ => some (some (name, ""))
    | rest => some (some (name, ← value? env rest))

/-- Sets the variables of several lines, up to the first line at fault. -/
def setAll (env : Texts) : List (List Char) → Texts
  | [] => env
  | line :: rest =>
    match line? env line with
    | none => env
    | some none => setAll env rest
    | some (some (name, value)) =>
      if (env.lookup name).isSome then setAll env rest
      else setAll (env ++ [(name, value)]) rest

/-- The variables with those that a text sets, where they are not set yet. -/
def load (env : Texts) (text : String) : Texts :=
  setAll env (joinedLines (withoutMark text).toList)

end JobDispatch.Config.VariableFile
