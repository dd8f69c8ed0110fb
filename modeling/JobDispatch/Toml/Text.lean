import JobDispatch.Json.Reader

/-!
Blanks, comments, strings and keys of TOML documents.

Every reader takes the text that is left and gives what it read with the text after it, or nothing
if the text is at fault; no reader says what the fault is.

* `Toml.string?` reads a string in any of the four spellings.
* `Toml.key?` reads a key, which is a path of simple keys.
-/

namespace JobDispatch.Toml

/-- A space or a tab. -/
def isSpace (c : Char) : Bool := c == ' ' || c == '\t'

/-- The text without the spaces and tabs it starts with. -/
def dropSpaces (s : List Char) : List Char := s.dropWhile isSpace

/-- The character may stand in a comment or a literal string: no control character but the tab. -/
def isPlain (c : Char) : Bool := c == '\t' || (0x20 ≤ c.toNat && c.toNat != 0x7F)

/-- Reads a line break. -/
def newline? : List Char → Option (List Char)
  | '\n' :: rest => some rest
  | '\r' :: '\n' :: rest => some rest
  | _ => none

/-- The text without the comment it may start with. -/
def dropComment : List Char → List Char
  | '#' :: rest => rest.dropWhile isPlain
  | s => s

/-- Reads the rest of a line: spaces, perhaps a comment, and the end of the line or the text. -/
def lineEnd? (s : List Char) : Option (List Char) :=
  match dropComment (dropSpaces s) with
  | [] => some []
  | s => newline? s

/-- The text without the spaces, comments and line breaks it starts with; `room` bounds their
number. -/
def dropLines : Nat → List Char → List Char
  | 0, s => s
  | room + 1, s =>
    let s := dropComment (dropSpaces s)
    match newline? s with
    | some rest => dropLines room rest
    | none => s

/-- The text without the spaces, comments and line breaks it starts with. -/
def dropGap (s : List Char) : List Char := dropLines (s.length + 1) s

/-! ### Strings -/

/-- The letters after a backslash, with what each stands for. -/
def shortEscapes : List (Char × Char) :=
  [('b', '\x08'), ('t', '\t'), ('n', '\n'), ('f', '\x0c'), ('r', '\r'), ('"', '"'), ('\\', '\\')]

/-- Reads a character's number in the given count of hexadecimal digits. -/
def charNumber? (digits : Nat) (s : List Char) : Option (Char × List Char) := do
  let run := s.take digits
  let values ← run.mapM Json.Reader.hexDigit?
  let number := values.foldl (fun n d => 16 * n + d) 0
  if run.length = digits ∧ number.isValidChar then some (Char.ofNat number, s.drop digits)
  else none

/-- Reads what follows a backslash. -/
def escape? : List Char → Option (Char × List Char)
  | 'u' :: rest => charNumber? 4 rest
  | 'U' :: rest => charNumber? 8 rest
  | c :: rest => (shortEscapes.lookup c).map fun d => (d, rest)
  | [] => none

/-- Reads the rest of a string on one line, after its opening quote; `room` bounds its length. -/
def lineString? (quote : Char) : Nat → List Char → Option (List Char × List Char)
  | 0, _ => none
  | room + 1, s =>
    match s with
    | [] => none
    | c :: rest =>
      if c = quote then some ([], rest)
      else do
        let (c, rest) ←
          if c = '\\' ∧ quote = '"' then escape? rest
          else if isPlain c then some (c, rest)
          else none
        let (cs, rest) ← lineString? quote room rest
        some (c :: cs, rest)

/-- The text without the blank lines and spaces it starts with; `room` bounds their number. -/
def dropBlankLines : Nat → List Char → List Char
  | 0, s => s
  | room + 1, s =>
    let s := dropSpaces s
    match newline? s with
    | some rest => dropBlankLines room rest
    | none => s

/-- The text after a backslash that ends its line: the string goes on at the next character that is
no blank. -/
def foldedLine? (s : List Char) : Option (List Char) :=
  (newline? (dropSpaces s)).map fun rest => dropBlankLines (rest.length + 1) rest

/-- Reads the rest of a string over several lines, after its opening quotes; `room` bounds its
length. Up to two quotes may stand before the closing ones. -/
def linesString? (quote : Char) : Nat → List Char → Option (List Char × List Char)
  | 0, _ => none
  | room + 1, s =>
    let run := (s.takeWhile (· = quote)).length
    if 3 ≤ run then
      let inner := min (run - 3) 2
      some (List.replicate inner quote, s.drop (inner + 3))
    else
      match s with
      | [] => none
      | c :: rest =>
        if c = '\\' ∧ quote = '"' then
          match foldedLine? rest with
          | some rest => linesString? quote room rest
          | none => do
            let (c, rest) ← escape? rest
            let (cs, rest) ← linesString? quote room rest
            some (c :: cs, rest)
        else
          match newline? (c :: rest) with
          | some rest => do
            let (cs, rest) ← linesString? quote room rest
            some ('\n' :: cs, rest)
          | none =>
            if isPlain c then do
              let (cs, rest) ← linesString? quote room rest
              some (c :: cs, rest)
            else none

/-- Reads a string on one line, after its opening quote. -/
def simpleString? (quote : Char) (s : List Char) : Option (String × List Char) := do
  let (cs, rest) ← lineString? quote (s.length + 1) s
  some (String.ofList cs, rest)

/-- Reads a string, after its first quote. -/
def string? (quote : Char) (s : List Char) : Option (String × List Char) :=
  if s.take 2 = [quote, quote] then do
    let s := s.drop 2
    let s := (newline? s).getD s
    let (cs, rest) ← linesString? quote (s.length + 1) s
    some (String.ofList cs, rest)
  else simpleString? quote s

/-! ### Keys -/

/-- The character may stand in a key without quotes. -/
def isBare (c : Char) : Bool := c.isAlphanum || c == '-' || c == '_'

/-- Reads a simple key. -/
def simpleKey? (s : List Char) : Option (String × List Char) :=
  match s with
  | [] => none
  | c :: rest =>
    if c = '"' ∨ c = '\'' then simpleString? c rest
    else
      let run := s.takeWhile isBare
      if run.isEmpty then none else some (String.ofList run, s.drop run.length)

/-- A key has fewer simple keys than this, and arrays and inline tables nest less deeply. -/
abbrev depthBound : Nat := 80

/-- Reads simple keys with points between them, at most `room`. -/
def keyParts? : Nat → List Char → Option (List String × List Char)
  | 0, _ => none
  | room + 1, s => do
    let (part, rest) ← simpleKey? (dropSpaces s)
    match dropSpaces rest with
    | '.' :: rest => do
      let (parts, rest) ← keyParts? room rest
      some (part :: parts, rest)
    | rest => some ([part], rest)

/-- Reads a key with the spaces around it. -/
def key? (s : List Char) : Option (List String × List Char) := keyParts? (depthBound - 1) s

end JobDispatch.Toml
