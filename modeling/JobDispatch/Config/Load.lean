import JobDispatch.Config.Decode
import JobDispatch.Json.Reader
import JobDispatch.Toml.Document

/-!
Loading the configuration.

Three sources are laid over each other, a later one counting more: the file `config/default`, which
has to exist, the file `config/local`, and the variables of the environment. A file has the ending
`.toml` or `.json`.

* `Config.fileSource` and `Config.environmentSource` are the values that a source sets.
* `Config.load` reads and validates the configuration.
-/

namespace JobDispatch.Config

/-- Named texts: the files of the folder `config`, or the variables of the environment. -/
abbrev Texts := List (String × String)

/-- What a source sets: values under keys, which may be paths. -/
abbrev Layer := List (String × Tree)

/-- The text of a file without the mark of byte order it may start with. -/
def withoutMark (text : String) : String :=
  match text.toList with
  | '\ufeff' :: rest => String.ofList rest
  | _ => text

/-- What a file sets. -/
def fileLayer (path : String) (content : Option Json) : Except LoadError Layer :=
  match content with
  | some (.object members) => .ok (Tree.membersOfJson (.file path) members)
  | _ => .error (.unreadable path)

/-- What the file with the given name sets, with either ending; nothing if there is none. -/
def fileSource (files : Texts) (name : String) : Except LoadError (Option Layer) :=
  let path (ending : String) : String := "config/" ++ name ++ ending
  match files.lookup (name ++ ".toml"), files.lookup (name ++ ".json") with
  | some text, _ => some <$> fileLayer (path ".toml") (Toml.parse? (withoutMark text))
  | none, some text => some <$> fileLayer (path ".json") (Json.parse (withoutMark text)).toOption
  | none, none => .ok none

/-- What the names of variables start with, in lower case. -/
def variableMark : String := "jc__"

/-- The key that a variable sets, if it sets one. Case does not count in names, and two underscores
separate the steps of a path. -/
def variableKey? (name : String) : Option String :=
  let name := lowerCase name
  if name.startsWith variableMark then
    let rest := String.ofList (name.toList.drop variableMark.length)
    some (".".intercalate (rest.splitOn "__"))
  else none

/-- What the variables of the environment set. -/
def environmentSource (env : Texts) : Layer :=
  env.filterMap fun (name, value) =>
    (variableKey? name).map fun key => (key, .leaf (some .environment) (.string value))

/-- Lays what a source sets over what is set already. -/
def layOver (layer : Layer) (t : Tree) : Tree :=
  layer.foldl (fun t entry => t.assign entry.1 entry.2) t

/-- The values of all sources together. -/
def gather (files env : Texts) : Except LoadError Tree := do
  match ← fileSource files "default" with
  | none => .error (.fileMissing "config/default")
  | some base =>
    let overrides := (← fileSource files "local").getD []
    .ok (layOver (environmentSource env) (layOver overrides (layOver base .empty)))

/-- Reads and validates the configuration. -/
def load (zones : List Zone) (files env : Texts) : Except LoadError Config := do
  let c ← ofTree (← gather files env)
  match c.validate zones with
  | .ok _ => .ok c
  | .error fault => .error (.refused fault)

end JobDispatch.Config
