import JobDispatch.Log.Level
import JobDispatch.Log.Pattern
import JobDispatch.Text.Alphanumeric
import JobDispatch.Text.Blank
import JobDispatch.Text.Bytes

/-!
Directives: the parts of a log filter, such as `info`, `worker=debug` or `worker[{job}]=trace`.

A directive names a target, what it is about, or a level, or several of these in this order. What
it is about stands in brackets: the name of a span, a field in braces, or both. A field has a name
and may have a value after `=`, which is a truth value, a number or a regular expression.

* `Directive` is a directive and `Directive.covers` says which lines it is about.
* `Directive.parse` reads one.

Blanks around a directive do not count for its form. But its parts are found by their places from
the first character that is not blank, and are then cut out of the text with its blanks, so that
blanks at the start shift every part.
-/

namespace JobDispatch

/-- What a directive is about: any line, lines with a named field, or lines inside a span, of which
this program has none. -/
inductive Subject where
  | anyLine
  | withField (name : String)
  | insideSpan
  deriving DecidableEq, Repr

/-- Lets the lines that it is about through up to a level; without a level none, and without a
target lines of all targets. -/
structure Directive where
  target : Option String
  subject : Subject
  level : Option Level
  deriving DecidableEq, Repr

/-- Why a text is no directive. A part of it that begins or ends inside a character cannot even be
cut out. -/
inductive DirectiveFault where
  | malformed
  | splitCharacter
  deriving DecidableEq, Repr

namespace Subject

/-- The line is one of those that a directive is about; `fields` are the names of its fields. -/
def includes (fields : List String) : Subject → Bool
  | anyLine => true
  | withField name => fields.contains name
  | insideSpan => false

/-- The field that lines must have. -/
def field? : Subject → Option String
  | withField name => some name
  | anyLine | insideSpan => none

end Subject

namespace Directive

/-- The directive is about lines of the given target and fields. -/
def covers (d : Directive) (target : String) (fields : List String) : Bool :=
  d.target.all (fun t => target.startsWith t) && d.subject.includes fields

/-- The directive lets a line of the given level through. -/
def lets (d : Directive) (level : Level) : Bool := d.level.any fun most => level.rank ≤ most.rank

/-- The length of the target. -/
def targetSize (d : Directive) : Nat := (d.target.map String.utf8ByteSize).getD 0

/-- Of two directives about the same line, the second is at least as close to it: its target is
longer, or as long and it is about a field, later fields in the order of names being closer. -/
def yieldsTo (d e : Directive) : Bool :=
  if d.targetSize = e.targetSize then
    match d.subject.field?, e.subject.field? with
    | none, _ => true
    | some _, none => false
    | some f, some g => f ≤ g
  else d.targetSize < e.targetSize

/-! ### Levels -/

/-- The levels by name, in lower case; `off` is no level. -/
def levelNames : List (String × Option Level) :=
  ("off", none) :: Level.all.map fun l => (l.text.toLower, some l)

/-- The level with a number; there is none for `0`. -/
def levelOfNumber? (n : Nat) : Option (Option Level) :=
  if n = 0 then some none else (Level.all.find? fun l => l.rank = n).map some

/-- Reads a level: a name in any case, or a number. -/
def level? (s : List Char) : Option (Option Level) :=
  let digits := match s with
    | '+' :: rest => rest
    | _ => s
  let number := digits.foldl (fun n c => 10 * n + (c.toNat - '0'.toNat)) 0
  let numbered := if digits.isEmpty || !digits.all Char.isDigit then none else levelOfNumber? number
  numbered.or (levelNames.lookup (String.ofList s).toLower)

/-! ### Reading -/

/-- The outcome of reading. -/
abbrev Reading (α : Type) := Except DirectiveFault α

/-- A part of the whole text by its places. -/
def part (whole : List Char) (start stop : Nat) : Reading (List Char) :=
  match Text.between? start stop whole with
  | some s => .ok s
  | none => .error .splitCharacter

/-- The rest of the whole text by its place. -/
def restFrom (whole : List Char) (start : Nat) : Reading (List Char) :=
  match Text.from? start whole with
  | some s => .ok s
  | none => .error .splitCharacter

/-- Goes on to the first of some characters: its place, the character, and what comes after it. -/
def find? (marks : List Char) (place : Nat) (s : List Char) : Option (Nat × Char × List Char) :=
  match s.span fun c => !marks.contains c with
  | (_, []) => none
  | (before, c :: rest) => some (place + Text.bytes before, c, rest)

/-- Goes on to the first of some characters, which has to be there. -/
def find (marks : List Char) (place : Nat) (s : List Char) : Reading (Nat × Char × List Char) :=
  match find? marks place s with
  | some found => .ok found
  | none => .error .malformed

/-- A target can start with the character. -/
def startsTarget (c : Char) : Bool := Text.isAlphanumeric c || c == '-' || c == ':' || c == '_'

/-- Reads a directive that is a single word: a level, or else a target with all its levels. -/
def ofWord (s : List Char) : Directive :=
  match level? s with
  | some level => ⟨none, .anyLine, level⟩
  | none => ⟨some (String.ofList s), .anyLine, some .trace⟩

/-- Reads the level at the end; none written means all. -/
def withLevel (whole : List Char) (d : Directive) (start : Nat) : Reading Directive := do
  let s ← restFrom whole start
  if s.isEmpty then .ok { d with level := some .trace }
  else
    match level? s with
    | some level => .ok { d with level }
    | none => .error .malformed

/-- Reads what follows brackets: a level or nothing. -/
def afterBrackets (whole : List Char) (d : Directive) (place : Nat) : List Char → Reading Directive
  | [] => .ok { d with level := some .trace }
  | c :: _ => if c = '=' then withLevel whole d (place + 1) else .error .malformed

/-- Reads a field. One with a value can only be asked of a span. -/
def field (s : List Char) : Reading Subject :=
  if s.isEmpty then .error .malformed
  else
    match s.span (· ≠ '=') with
    | (name, []) => .ok (.withField (String.ofList name))
    | (_, _ :: rest) =>
      if Pattern.isFieldValue (rest.takeWhile (· ≠ '=')) then .ok .insideSpan else .error .malformed

/-- Reads what stands in brackets and what follows them. -/
def brackets (whole : List Char) (target : Option String) (start : Nat) (s : List Char) :
    Reading Directive := do
  let (stop, c, rest) ← find [']', '\x7b'] start s
  let span ← part whole start stop
  if c = ']' then afterBrackets whole ⟨target, .insideSpan, none⟩ (stop + 1) rest
  else
    let start := stop + 1
    let (stop, _, rest) ← find ['\x7d'] start rest
    let asked ← field (← part whole start stop)
    let subject := if span.isEmpty then asked else .insideSpan
    match rest with
    | ']' :: rest => afterBrackets whole ⟨target, subject, none⟩ (stop + 2) rest
    | _ => .error .malformed

/-- Reads a directive. -/
def parse (whole : List Char) : Reading Directive :=
  match Text.trim whole with
  | [] => .error .malformed
  | c :: rest =>
    if c = '[' then brackets whole none 1 rest
    else if !startsTarget c then .error .malformed
    else
      match find? ['=', '['] c.utf8Size rest with
      | none => .ok (ofWord whole)
      | some (stop, mark, rest) => do
        let target := some (String.ofList (← part whole 0 stop))
        if mark = '[' then brackets whole target (stop + 1) rest
        else withLevel whole ⟨target, .anyLine, none⟩ (stop + 1)

end Directive

end JobDispatch
