import JobDispatch.Toml.Number
import JobDispatch.Toml.Table

/-!
TOML documents.

`Toml.parse?` reads a document as an object. Dates and times become strings, and a floating number
may be infinite or not-a-number. A document at fault gives nothing.

* `Toml.value?` reads a value: the two kinds that nest, arrays and inline tables, go through
  `Toml.items?` and `Toml.pairs?`.
* `Toml.Draft.line?` takes one line of a document into the tables read so far.
-/

namespace JobDispatch.Toml

/-- Reads `true` or `false`. -/
def bool? : List Char → Option (Json × List Char)
  | 't' :: 'r' :: 'u' :: 'e' :: rest => some (.bool true, rest)
  | 'f' :: 'a' :: 'l' :: 's' :: 'e' :: rest => some (.bool false, rest)
  | _ => none

/-- Reads a value that does not nest. -/
def scalar? (s : List Char) : Option (Json × List Char) :=
  match s with
  | [] => none
  | c :: rest =>
    if c = '"' ∨ c = '\'' then (string? c rest).map fun (text, rest) => (.string text, rest)
    else if c = 't' ∨ c = 'f' then bool? s
    else if startsDateTime s then dateTime? s
    else number? s

/-- Puts a value where a key says. -/
def assign? (key : List String) (value : Json) (members : Members) : Option Members :=
  match key.getLast? with
  | some last => members.put? key.dropLast last (.value value)
  | none => none

mutual

/-- Reads a value inside `depth` arrays and inline tables; `room` bounds the calls. -/
def value? (depth : Nat) : Nat → List Char → Option (Json × List Char)
  | 0, _ => none
  | room + 1, s =>
    match s with
    | '[' :: rest =>
      if depthBound ≤ depth + 1 then none
      else do
        let (items, rest) ← items? (depth + 1) room rest
        some (.array items, rest)
    | '\x7b' :: rest =>
      if depthBound ≤ depth + 1 then none
      else
        match dropSpaces rest with
        | '\x7d' :: rest => some (.emptyObject, rest)
        | rest => do
          let (members, rest) ← pairs? (depth + 1) room [] rest
          some (members.toJson, rest)
    | _ => scalar? s

/-- Reads the items of an array, to its end; a comma may follow the last one. -/
def items? (depth : Nat) : Nat → List Char → Option (List Json × List Char)
  | 0, _ => none
  | room + 1, s =>
    match dropGap s with
    | ']' :: rest => some ([], rest)
    | s => do
      let (item, rest) ← value? depth room s
      match dropGap rest with
      | ',' :: rest => do
        let (items, rest) ← items? depth room rest
        some (item :: items, rest)
      | ']' :: rest => some ([item], rest)
      | _ => none

/-- Reads the keys and values of an inline table, to its end, on one line. -/
def pairs? (depth : Nat) : Nat → Members → List Char → Option (Members × List Char)
  | 0, _, _ => none
  | room + 1, members, s => do
    let (key, rest) ← key? s
    let (value, rest) ← value? depth room (dropSpaces (← mark? '=' rest))
    let members ← assign? key value members
    match dropSpaces rest with
    | ',' :: rest => pairs? depth room members rest
    | '\x7d' :: rest => some (members, rest)
    | _ => none

end

/-- A document under reading: its tables so far, and the header that the next keys belong under. -/
structure Draft where
  root : Members
  header : List String

namespace Draft

/-- The document before its first line. -/
def empty : Draft := ⟨[], []⟩

/-- Acts on a header; `open?` says how on the table above its last key. -/
def under? (d : Draft) (path : List String)
    (open? : List String → String → Members → Option Members) : Option Draft := do
  some ⟨← open? path.dropLast (← path.getLast?) d.root, path⟩

/-- Gives a key its value under the present header. -/
def assign? (d : Draft) (key : List String) (value : Json) : Option Draft :=
  let add (_ : Making) (members : Members) : Option Members := Toml.assign? key value members
  (Members.change? .implied add .stated d.header d.root).map fun root => ⟨root, d.header⟩

/-- Takes up a line that is not blank. -/
def line? (d : Draft) (s : List Char) : Option (Draft × List Char) := do
  match s with
  | '[' :: '[' :: rest =>
    let (path, rest) ← key? rest
    let rest ← mark? ']' (← mark? ']' rest)
    some (← d.under? path fun path key members => members.openItem? path key, rest)
  | '[' :: rest =>
    let (path, rest) ← key? rest
    let rest ← mark? ']' rest
    some (← d.under? path fun path key members => members.openTable? path key, rest)
  | _ =>
    let (key, rest) ← key? s
    let s := dropSpaces (← mark? '=' rest)
    let (value, rest) ← value? 0 (2 * s.length + 2) s
    some (← d.assign? key value, rest)

/-- Takes up all lines of a text; `room` bounds their number. -/
def lines? : Nat → Draft → List Char → Option Draft
  | 0, _, _ => none
  | room + 1, d, s =>
    match dropGap s with
    | [] => some d
    | s => do
      let (d, rest) ← d.line? s
      lines? room d (← lineEnd? rest)

end Draft

/-- Reads a document. -/
def parse? (text : String) : Option Json := do
  let d ← Draft.lines? (text.length + 1) .empty text.toList
  some d.root.toJson

end JobDispatch.Toml
