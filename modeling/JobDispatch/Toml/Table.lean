import JobDispatch.Json.Value

/-!
Tables of a TOML document under construction.

A table remembers how it came about, since that decides who may add to it: `Making.stated` tables
have a header of their own, `Making.implied` ones stand on the path of a header, `Making.dotted`
ones on the path of a key. Inline tables and arrays are closed values.

* `Members.change?` changes the table at the end of a path, and makes the tables on the way.
* `Members.put?` gives a key its value, once.
* `Members.openTable?` and `Members.openItem?` act on headers.
* `Members.toJson` is the finished table.
-/

namespace JobDispatch.Toml

/-- How a table came about. -/
inductive Making where
  | stated | implied | dotted
  deriving DecidableEq, Repr

/-- What a key stands for: a closed value, a table, or an array of tables, the last of which is
open. -/
inductive Node where
  | value (value : Json)
  | table (making : Making) (members : List (String × Node))
  | tables (items : List (List (String × Node)))

/-- The keys of a table, in the order of their first appearance. -/
abbrev Members := List (String × Node)

namespace Members

/-- Gives a key its node, in place of any that it had. -/
def set (key : String) (node : Node) : Members → Members
  | [] => [(key, node)]
  | (k, n) :: rest => if k = key then (k, node) :: rest else (k, n) :: set key node rest

/-- Changes the table at the end of a path. Tables missing on the way are made with the given
making; a path of dotted keys does not enter stated tables. -/
def change? (onWay : Making) (f : Making → Members → Option Members) :
    Making → List String → Members → Option Members
  | making, [], members => f making members
  | _, key :: path, members =>
    match members.lookup key with
    | none => do some (set key (.table onWay (← change? onWay f onWay path [])) members)
    | some (.value _) => none
    | some (.table making inner) =>
      if onWay = .dotted ∧ making = .stated then none
      else do some (set key (.table making (← change? onWay f making path inner)) members)
    | some (.tables items) => do
      let last ← items.getLast?
      let last ← change? onWay f .stated path last
      some (set key (.tables (items.dropLast ++ [last])) members)

/-- Gives a key its value in the table at the end of a path of dotted keys. The path must end in a
table made by dotted keys, and no key gets a value twice. -/
def put? (path : List String) (key : String) (node : Node) (members : Members) : Option Members :=
  let add (making : Making) (members : Members) : Option Members :=
    if (making = .dotted) = path.isEmpty then none
    else if (members.lookup key).isSome then none
    else some (set key node members)
  change? .dotted add .stated path members

/-- Acts on the header of a table: it must be new, or implied by headers before. -/
def openTable? (path : List String) (key : String) (members : Members) : Option Members :=
  let add (_ : Making) (members : Members) : Option Members :=
    match members.lookup key with
    | none => some (set key (.table .stated []) members)
    | some (.table .implied inner) => some (set key (.table .stated inner) members)
    | _ => none
  change? .implied add .stated path members

/-- Acts on the header of a further item of an array of tables. -/
def openItem? (path : List String) (key : String) (members : Members) : Option Members :=
  let add (_ : Making) (members : Members) : Option Members :=
    match members.lookup key with
    | none => some (set key (.tables [[]]) members)
    | some (.tables items) => some (set key (.tables (items ++ [[]])) members)
    | _ => none
  change? .implied add .stated path members

end Members

mutual

/-- The value of a node. -/
def Node.toJson : Node → Json
  | .value v => v
  | .table _ members => .ofMembers (membersJson members)
  | .tables items => .array (itemsJson items)

/-- The values of the keys of a table. -/
def membersJson : List (String × Node) → List (String × Json)
  | [] => []
  | (key, node) :: rest => (key, node.toJson) :: membersJson rest

/-- The items of an array of tables. -/
def itemsJson : List (List (String × Node)) → List Json
  | [] => []
  | item :: rest => .ofMembers (membersJson item) :: itemsJson rest

end

/-- The finished table. -/
def Members.toJson (members : Members) : Json := .ofMembers (membersJson members)

end JobDispatch.Toml
