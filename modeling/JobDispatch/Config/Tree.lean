import JobDispatch.Json.Value

/-!
Layered configuration values.

A `Tree` is a value together with where it was set. Trees from several sources are laid over each
other along paths.

* `Tree.insert` lays a value under a key: tables merge key by key, and every other value replaces
  what was there.
* `Tree.insertAt` does so at the end of a path and makes the tables and arrays on the way.
* `Tree.Path.parse?` reads a path such as `section.field` or `section[2]`.
-/

namespace JobDispatch.Config

/-- Where a value was set. -/
inductive Origin where
  | environment
  | file (path : String)
  deriving DecidableEq, Repr

/-- How an origin is called in messages. -/
def Origin.text : Origin → String
  | .environment => "the environment"
  | .file path => path

/-- A value without parts. -/
inductive Scalar where
  | null
  | bool (value : Bool)
  | int (value : Int)
  | float (value : Binary64)
  | string (value : String)
  deriving DecidableEq, Repr

/-- A configuration value and where it was set; tables and arrays that came about by merging have
no origin. -/
inductive Tree where
  | leaf (origin : Option Origin) (value : Scalar)
  | array (origin : Option Origin) (items : List Tree)
  | table (origin : Option Origin) (members : List (String × Tree))

/-- A key in lower case. The sign for kelvin is the one letter outside the ASCII characters whose
lower case is inside. -/
def lowerCase (key : String) : String :=
  key.map fun c => if c = '\u212a' then 'k' else c.toLower

namespace Tree

/-- No value. -/
def null : Tree := leaf none .null

/-- The table without members. -/
def empty : Tree := table none []

/-- The members of a table; other values have none. -/
def members : Tree → List (String × Tree)
  | table _ members => members
  | _ => []

/-- The value under a key of a table. -/
def get? (key : String) (t : Tree) : Option Tree := t.members.lookup key

/-- The value itself if it is a table, and the empty table otherwise. -/
def asTable : Tree → Tree
  | t@(table _ _) => t
  | _ => empty

/-- The value itself if it is an array, and the empty array otherwise. -/
def asArray : Tree → Tree
  | t@(array _ _) => t
  | _ => array none []

mutual

/-- A value as it stands in a file; integers of more than 63 bits become floating numbers. -/
def ofJson (origin : Origin) : Json → Tree
  | .null => leaf (some origin) .null
  | .bool b => leaf (some origin) (.bool b)
  | .int n => leaf (some origin) (if n < int64Bound then .int n else .float (Binary64.ofInt n))
  | .float x => leaf (some origin) (.float x)
  | .string s => leaf (some origin) (.string s)
  | .array items => array (some origin) (itemsOfJson origin items)
  | .object members => table (some origin) (membersOfJson origin members)

/-- The items of an array in a file. -/
def itemsOfJson (origin : Origin) : List Json → List Tree
  | [] => []
  | item :: rest => ofJson origin item :: itemsOfJson origin rest

/-- The members of a table in a file. -/
def membersOfJson (origin : Origin) : List (String × Json) → List (String × Tree)
  | [] => []
  | (key, value) :: rest => (lowerCase key, ofJson origin value) :: membersOfJson origin rest

end

/-! ### Laying values over each other -/

/-- Changes the value under a key, which may be absent before. -/
def alterMember (key : String) (f : Option Tree → Tree) :
    List (String × Tree) → List (String × Tree)
  | [] => [(key, f none)]
  | (k, t) :: rest => if k = key then (k, f (some t)) :: rest else (k, t) :: alterMember key f rest

/-- Changes the value under a key; what is no table becomes one first. -/
def alter (key : String) (f : Option Tree → Tree) (t : Tree) : Tree :=
  match t.asTable with
  | table origin members => table origin (alterMember key f members)
  | other => other

mutual

/-- Lays a value under a key. -/
def insert (root : Tree) (key : String) (value : Tree) : Tree :=
  match value with
  | table _ incoming => root.alter key fun present => insertAll (present.getD empty) incoming
  | value => root.alter key fun _ => value

/-- Lays several values under their keys. -/
def insertAll (root : Tree) : List (String × Tree) → Tree
  | [] => root
  | (key, value) :: rest => insertAll (insert root key value) rest

end

/-! ### Paths -/

/-- One step of a path: to a key of a table, or to an item of an array. -/
inductive Step where
  | key (name : String)
  | item (index : Int)
  deriving DecidableEq, Repr

/-- The place of an item by its index; negative ones count from the end. -/
def place (index : Int) (length : Nat) : Nat :=
  if 0 ≤ index then index.toNat else length - index.natAbs

/-- Changes an item of an array, which is made long enough first; what is no array becomes one. -/
def alterItem (index : Int) (f : Tree → Tree) (t : Tree) : Tree :=
  match t.asArray with
  | array origin items =>
    let i := place index items.length
    let items := items ++ List.replicate (i + 1 - items.length) null
    array origin (items.modify i f)
  | other => other

/-- Lays a value at the end of a path. -/
def insertAt (root : Tree) (path : List Step) (value : Tree) : Tree :=
  match path with
  | [] => value
  | [.key name] => root.insert name value
  | .key name :: path => root.alter name fun present => (present.getD null).insertAt path value
  | .item index :: path => root.alterItem index fun present => present.insertAt path value

namespace Path

/-- The character may stand in a key of a path. -/
def isKeyChar (c : Char) : Bool := c.isAlphanum || c == ' ' || c == '_' || c == '-'

/-- Reads a key. -/
def key? (s : List Char) : Option (Step × List Char) :=
  let run := s.takeWhile isKeyChar
  if run.isEmpty then none else some (.key (String.ofList run), s.drop run.length)

/-- The index with which items are counted, with blanks around it. -/
def index? (s : List Char) : Option (Int × List Char) :=
  let blank (c : Char) : Bool := c == ' ' || c == '\t'
  let s := s.dropWhile blank
  let (negative, s) := match s with
    | '-' :: rest => (true, rest)
    | _ => (false, s)
  let run := s.takeWhile Char.isDigit
  let size : Int := run.foldl (fun n c => 10 * n + (c.toNat - '0'.toNat)) 0
  let index := if negative then -size else size
  if run.isEmpty ∨ index < -int64Bound ∨ int64Bound ≤ index then none
  else some (index, (s.drop run.length).dropWhile blank)

/-- Reads the steps after the first key; `room` bounds their number. -/
def steps? : Nat → List Char → Option (List Step)
  | 0, _ => none
  | room + 1, s =>
    match s with
    | [] => some []
    | '.' :: rest => do
      let (step, rest) ← key? rest
      some (step :: (← steps? room rest))
    | '[' :: rest => do
      let (index, rest) ← index? rest
      match rest with
      | ']' :: rest => some (.item index :: (← steps? room rest))
      | _ => none
    | _ => none

/-- Reads a path. -/
def parse? (text : String) : Option (List Step) := do
  let (step, rest) ← key? text.toList
  some (step :: (← steps? (rest.length + 1) rest))

end Path

/-- Lays a value where a key of a source says; a key that is no path counts as it stands. -/
def assign (root : Tree) (key : String) (value : Tree) : Tree :=
  root.insertAt ((Path.parse? key).getD [.key key]) value

end Tree

end JobDispatch.Config
