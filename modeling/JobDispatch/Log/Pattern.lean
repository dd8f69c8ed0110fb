import JobDispatch.Text.Alphanumeric
import JobDispatch.Text.Blank

/-!
Values with which a log filter compares fields: truth values, numbers and regular expressions.

Since no line of this program is compared with such a value, all that matters is which texts are
one.

* `Pattern.isExpression` says whether a text is a regular expression: a sequence of alternatives
  with groups, repetitions, character classes and escapes. There are no tables of the Unicode
  properties, so that what depends on them is refused unless the mode `u` is switched off.
* `Pattern.isSignedNumber` covers the numbers that are no regular expression.
* `Pattern.isFieldValue` puts both together.
-/

namespace JobDispatch.Pattern

/-! ### Modes -/

/-- The modes of an expression: letters match in any case, characters are those of Unicode, and
blanks do not count. -/
structure Modes where
  anyCase : Bool
  unicode : Bool
  spaced : Bool
  deriving DecidableEq, Repr

namespace Modes

/-- The modes at the start of an expression. -/
def standard : Modes := ⟨false, true, false⟩

/-- The modes after one more flag is set; some flags do not matter here. -/
def set (m : Modes) (flag : Char) (value : Bool) : Modes :=
  match flag with
  | 'i' => { m with anyCase := value }
  | 'u' => { m with unicode := value }
  | 'x' => { m with spaced := value }
  | _ => m

/-- Drops blanks, and comments from `#` to the end of their line. -/
def dropSpace (inComment : Bool) : List Char → List Char
  | [] => []
  | c :: rest =>
    if inComment then dropSpace (c != '\n') rest
    else if c = '#' then dropSpace true rest
    else if Text.isBlank c then dropSpace false rest
    else c :: rest

/-- Drops what does not count. -/
def skip (m : Modes) (s : List Char) : List Char := if m.spaced then dropSpace false s else s

/-- A single byte, or a character in a class, can stand for itself: beyond the ASCII characters only
as a character of Unicode. -/
def takes (m : Modes) (c : Char) : Bool := if m.unicode then !m.anyCase else c.toNat < 0x80

/-- Characters outside of classes can stand for themselves. -/
def takesLiterals (m : Modes) : Bool := !(m.unicode && m.anyCase)

end Modes

/-! ### Escapes -/

/-- What an escape stands for; a character given by two digits is a single byte. -/
inductive Escape where
  | literal (c : Char)
  | byte (c : Char)
  | set
  | position
  deriving DecidableEq, Repr

/-- The value of a hexadecimal digit. -/
def hexValue? (c : Char) : Option Nat :=
  if c.isDigit then some (c.toNat - '0'.toNat)
  else if 'a' ≤ c ∧ c ≤ 'f' then some (c.toNat - 'a'.toNat + 10)
  else if 'A' ≤ c ∧ c ≤ 'F' then some (c.toNat - 'A'.toNat + 10)
  else none

/-- Reads so many hexadecimal digits; `value` is the number before them. -/
def hex? (m : Modes) (value : Nat) : Nat → List Char → Option (Char × List Char)
  | 0, s => if value.isValidChar then some (Char.ofNat value, s) else none
  | digits + 1, s =>
    match s with
    | [] => none
    | c :: rest => do hex? m (16 * value + (← hexValue? c)) digits (m.skip rest)

/-- The letters that stand for a control character after a backslash. -/
def controls : List (Char × Char) :=
  [('a', '\x07'), ('f', '\x0c'), ('t', '\t'), ('n', '\n'), ('r', '\r'), ('v', '\x0b')]

/-- Reads what follows a backslash. -/
def escape? (m : Modes) (s : List Char) : Option (Escape × List Char) :=
  match s with
  | [] => none
  | c :: rest =>
    if c = 'x' then (hex? m 0 2 (m.skip rest)).map fun (d, rest) => (.byte d, rest)
    else if c = 'u' then (hex? m 0 4 (m.skip rest)).map fun (d, rest) => (.literal d, rest)
    else if c = 'U' then (hex? m 0 8 (m.skip rest)).map fun (d, rest) => (.literal d, rest)
    else if ['d', 's', 'w'].contains c then if m.unicode then none else some (.set, rest)
    else if ['b', 'B', '<', '>'].contains c then if m.unicode then none else some (.position, rest)
    else if ['A', 'z'].contains c then some (.position, rest)
    else
      match controls.lookup c with
      | some d => some (.literal d, rest)
      | none => if c.toNat < 0x80 && !c.isAlphanum then some (.literal c, rest) else none

/-! ### Character classes -/

/-- The names of classes of ASCII characters. -/
def namedClasses : List String :=
  ["alnum", "alpha", "ascii", "blank", "cntrl", "digit", "graph", "lower", "print", "punct",
    "space", "upper", "word", "xdigit"]

/-- Reads the name of a class after `[:`, and whether it is negated. -/
def namedClass? (s : List Char) : Option (Bool × List Char) :=
  let (negated, s) := match s with
    | '^' :: rest => (true, rest)
    | _ => (false, s)
  match s.span fun c => c ≠ ':' with
  | (name, ':' :: ']' :: rest) =>
    if namedClasses.contains (String.ofList name) then some (negated, rest) else none
  | _ => none

/-- Reads the start of a class after its bracket: whether it is negated, and the hyphens or the
closing bracket that stand for themselves. -/
def classStart (m : Modes) (s : List Char) : Bool × List Char :=
  let (negated, s) := match m.skip s with
    | '^' :: rest => (true, m.skip rest)
    | s => (false, s)
  match s with
  | ']' :: rest => (negated, rest)
  | _ => (negated, dropHyphens s.length s)
where
  /-- Drops hyphens; the number bounds them. -/
  dropHyphens : Nat → List Char → List Char
    | 0, s => s
    | room + 1, s =>
      match s with
      | '-' :: rest => dropHyphens room (m.skip rest)
      | _ => s

/-- The character that an escape stands for, if it can be in a class. -/
def Escape.character? (m : Modes) : Escape → Option Char
  | literal c | byte c => if m.takes c then some c else none
  | set | position => none

/-- Reads one member of a class. -/
def member? (m : Modes) (s : List Char) : Option (Escape × List Char) :=
  match s with
  | [] => none
  | '\\' :: rest => escape? m rest
  | c :: rest => some (.literal c, rest)

/-- Reads a member of a class or a range of them. -/
def classItem? (m : Modes) (s : List Char) : Option (List Char) := do
  let (first, rest) ← member? m s
  let rest := m.skip rest
  let single := if first = .set then some rest else (first.character? m).map fun _ => rest
  match rest with
  | '-' :: after =>
    match m.skip after with
    | [] => none
    | ']' :: _ | '-' :: _ => single
    | after =>
      let (last, rest) ← member? m after
      let first ← first.character? m
      let last ← last.character? m
      if first ≤ last then some rest else none
  | _ => single

/-- The pairs of characters that join two parts of a class. -/
def operators : List (List Char) := [['&', '&'], ['-', '-'], ['~', '~']]

/-- Reads the rest of a class with so many brackets open; `room` bounds its length. -/
def classRest? (m : Modes) : Nat → Nat → List Char → Option (List Char)
  | 0, _, _ => none
  | room + 1, nested, s =>
    match m.skip s with
    | [] => none
    | '[' :: rest =>
      let named := match rest with
        | ':' :: rest => namedClass? rest
        | _ => none
      match named with
      | some (negated, rest) =>
        if negated && !m.unicode then none else classRest? m room nested rest
      | none => classRest? m room (nested + 1) (classStart m rest).2
    | ']' :: rest => if nested = 0 then some rest else classRest? m room (nested - 1) rest
    | s =>
      if operators.contains (s.take 2) then classRest? m room nested (s.drop 2)
      else do classRest? m room nested (← classItem? m s)

/-- Reads a class after its bracket. -/
def class? (m : Modes) (s : List Char) : Option (List Char) :=
  let (negated, rest) := classStart m s
  if m.unicode && m.anyCase || negated && !m.unicode then none
  else classRest? m (s.length + 1) 0 rest

/-! ### Groups -/

/-- The letters of the flags. -/
def flagLetters : List Char := ['i', 'm', 's', 'U', 'u', 'R', 'x']

/-- Reads flags up to the character that ends them. A flag or a minus sign is given only once, and
no minus sign stands at the end. -/
def flags? (m : Modes) (given : List Char) : List Char → Option (Modes × Char × List Char)
  | [] => none
  | c :: rest =>
    if c = ':' ∨ c = ')' then
      if given.head? = some '-' ∨ c = ')' ∧ given.isEmpty then none else some (m, c, rest)
    else if given.contains c then none
    else if c = '-' then flags? m (c :: given) rest
    else if flagLetters.contains c then flags? (m.set c (!given.contains '-')) (c :: given) rest
    else none

/-- Reads the name of a group, to its closing angle. -/
def groupName? (s : List Char) : Option (List Char × List Char) :=
  match s.span fun c => c ≠ '>' with
  | (c :: name, _ :: rest) =>
    let begins := c == '_' || (Text.isAlphanumeric c && !c.isDigit)
    let goesOn := name.all fun d => ['_', '.', '[', ']'].contains d || Text.isAlphanumeric d
    if begins && goesOn then some (c :: name, rest) else none
  | _ => none

/-- How a group begins. -/
inductive GroupStart where
  | group (modes : Modes) (name : Option (List Char))
  | flags (modes : Modes)
  deriving DecidableEq, Repr

/-- Reads the start of a group after its parenthesis. -/
def groupStart? (m : Modes) (s : List Char) : Option (GroupStart × List Char) :=
  match m.skip s with
  | '?' :: '=' :: _ | '?' :: '!' :: _ | '?' :: '<' :: '=' :: _ | '?' :: '<' :: '!' :: _ => none
  | '?' :: 'P' :: '<' :: rest | '?' :: '<' :: rest =>
    (groupName? rest).map fun (name, rest) => (.group m (some name), rest)
  | '?' :: rest =>
    (flags? m [] rest).map fun (inner, ending, rest) =>
      if ending = ':' then (.group inner none, rest) else (.flags inner, rest)
  | rest => some (.group m none, rest)

/-! ### Expressions -/

/-- Where the reading of an expression stands: the modes, those outside of each open group, whether
something that can be repeated came last, and the names of groups so far. -/
structure Progress where
  modes : Modes
  outer : List Modes
  repeatable : Bool
  names : List (List Char)
  deriving DecidableEq, Repr

/-- Reads the start of a group. -/
def Progress.enter? (p : Progress) (s : List Char) : Option (Progress × List Char) := do
  let (start, rest) ← groupStart? p.modes s
  match start with
  | .flags modes => some ({ p with modes, repeatable := false }, rest)
  | .group modes name =>
    let names := name.toList
    if names.any p.names.contains then none
    else
      some (⟨modes, p.modes :: p.outer, false, names ++ p.names⟩, rest)

/-- Reads the next part of an expression, which begins with the given character. -/
def Progress.next? (p : Progress) (c : Char) (rest : List Char) :
    Option (Progress × List Char) :=
  let done (rest : List Char) := ({ p with repeatable := true }, rest)
  match c with
  | '(' => p.enter? rest
  | ')' =>
    match p.outer with
    | [] => none
    | modes :: outer => some ({ p with modes, outer, repeatable := true }, rest)
  | '|' => some ({ p with repeatable := false }, rest)
  | '[' => (class? p.modes rest).map done
  | '?' | '*' | '+' =>
    if p.repeatable then some (done (if rest.head? = some '?' then rest.drop 1 else rest)) else none
  | '\x7b' => none
  | '.' => if p.modes.unicode then some (done rest) else none
  | '^' | '$' => some (done rest)
  | '\\' => do
    let (escape, rest) ← escape? p.modes rest
    let taken := match escape with
      | .literal _ => p.modes.takesLiterals
      | .byte d => p.modes.takes d
      | .set | .position => true
    if taken then some (done rest) else none
  | _ => if p.modes.takesLiterals then some (done rest) else none

/-- The text is the rest of an expression; `room` bounds its length. -/
def isRest : Nat → Progress → List Char → Bool
  | 0, _, _ => false
  | room + 1, p, s =>
    match p.modes.skip s with
    | [] => p.outer.isEmpty
    | c :: rest =>
      match p.next? c rest with
      | some (p, rest) => isRest room p rest
      | none => false

/-- The text is a regular expression. -/
def isExpression (s : List Char) : Bool := isRest (s.length + 1) ⟨.standard, [], false, []⟩ s

/-! ### Numbers -/

/-- The text is empty or an exponent. -/
def isExponent (s : List Char) : Bool :=
  match s with
  | [] => true
  | c :: rest =>
    let digits := match rest with
      | '+' :: digits | '-' :: digits => digits
      | digits => digits
    (c == 'e' || c == 'E') && !digits.isEmpty && digits.all Char.isDigit

/-- The text is a number without a sign. -/
def isNumber (s : List Char) : Bool :=
  let (whole, rest) := s.span Char.isDigit
  match rest with
  | '.' :: rest =>
    let (decimals, rest) := rest.span Char.isDigit
    !(whole.isEmpty && decimals.isEmpty) && isExponent rest
  | rest => !whole.isEmpty && isExponent rest

/-- The text is a number with a plus sign. -/
def isSignedNumber (s : List Char) : Bool :=
  match s with
  | '+' :: rest =>
    isNumber rest || ["inf", "infinity", "nan"].contains (String.ofList rest).toLower
  | _ => false

/-- The text is a value with which a field can be compared. -/
def isFieldValue (s : List Char) : Bool := isSignedNumber s || isExpression s

end JobDispatch.Pattern
