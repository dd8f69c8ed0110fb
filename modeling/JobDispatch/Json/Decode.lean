import JobDispatch.Json.Value
import JobDispatch.Number.Shortest
import JobDispatch.Text.Quoted
import JobDispatch.Time.Timestamp

/-!
Typed reading of JSON values.

A decoder turns a value into a typed one or says why the value does not fit. A record is written as
an object, whose unknown members are ignored, or as an array of its fields in order.

* `DecodeError` lists the reasons and `DecodeError.message` words them.
* `Json.asString`, `Json.asNatural` and the like read the simple types.
* `Json.record` reads a record, whose `Json.Field`s are then taken one by one by `Json.Found.take`.
-/

namespace JobDispatch

/-- Why a value does not have the expected type. -/
inductive DecodeError where
  | invalidType (found : Json) (expected : String)
  | invalidInteger (found : Int) (expected : String)
  | invalidLength (length : Nat) (expected : String)
  | missingField (name : String)
  | unknownVariant (name : String) (known : List String)
  | timestamp (fault : TimestampError)
  deriving DecidableEq, Repr

namespace DecodeError

/-- What a value is called when it does not fit. -/
def describe : Json → String
  | .null => "null"
  | .bool value => s!"boolean `{value}`"
  | .int n => s!"integer `{n}`"
  | .float x => s!"floating point `{x.compact}`"
  | .string s => s!"string {Text.quoted s}"
  | .array _ => "sequence"
  | .object _ => "map"

/-- The names of the known variants, with `or` between two of them. -/
def alternatives : List String → String
  | [] => "there are no variants"
  | [a] => s!"expected `{a}`"
  | [a, b] => s!"expected `{a}` or `{b}`"
  | many => "expected one of " ++ ", ".intercalate (many.map fun name => s!"`{name}`")

/-- The wording of each reason. -/
def message : DecodeError → String
  | invalidType found expected => s!"invalid type: {describe found}, expected {expected}"
  | invalidInteger found expected => s!"invalid value: integer `{found}`, expected {expected}"
  | invalidLength length expected => s!"invalid length {length}, expected {expected}"
  | missingField name => s!"missing field `{name}`"
  | unknownVariant name known => s!"unknown variant `{name}`, {alternatives known}"
  | timestamp fault => fault.message

end DecodeError

namespace Json

/-- The outcome of decoding. -/
abbrev Decoded (α : Type) := Except DecodeError α

/-! ### Simple types -/

/-- Reads a text. -/
def asString : Json → Decoded String
  | string s => .ok s
  | other => .error (.invalidType other "a string")

/-- Reads a truth value. -/
def asBool : Json → Decoded Bool
  | bool b => .ok b
  | other => .error (.invalidType other "a boolean")

/-- Reads an integer between two bounds. -/
def asIntegerWithin (low high : Int) (expected : String) : Json → Decoded Int
  | int n =>
    if low ≤ n ∧ n ≤ high then .ok n else .error (.invalidInteger n expected)
  | other => .error (.invalidType other expected)

/-- Reads a natural number of at most `bits` bits. -/
def asNatural (bits : Nat) (v : Json) : Decoded Nat := do
  let n ← v.asIntegerWithin 0 (twoTo bits - 1) s!"u{bits}"
  .ok n.toNat

/-- Reads a signed integer of at most 64 bits. -/
def asInteger (v : Json) : Decoded Int := v.asIntegerWithin (-int64Bound) (int64Bound - 1) "i64"

/-- Reads an instant. -/
def asInstant : Json → Decoded Instant
  | string s => (Instant.parse s).mapError .timestamp
  | other => .error (.invalidType other "an RFC 3339 formatted date and time string")

/-- Reads a value that may be absent, which `null` says. -/
def asOption {α : Type} (decode : Json → Decoded α) : Json → Decoded (Option α)
  | null => .ok none
  | other => some <$> decode other

/-- Reads the items of an array. -/
def asList {α : Type} (decode : Json → Decoded α) : Json → Decoded (List α)
  | array items => items.mapM decode
  | other => .error (.invalidType other "a sequence")

/-! ### Records -/

/-- A field of a record: how its value is read, and what it is when absent. -/
structure Field (α : Type) where
  name : String
  decode : Json → Decoded α
  absent : Option α

/-- The test of a field's value, without the value. -/
structure Check where
  name : String
  fault? : Json → Option DecodeError

/-- The test that a field makes. -/
def Field.check {α : Type} (f : Field α) : Check where
  name := f.name
  fault? v := match f.decode v with
    | .ok _ => none
    | .error e => some e

/-- A type of record by its name and its fields, in order. -/
structure RecordType where
  name : String
  checks : List Check

/-- What messages call a record that has too few fields. -/
def RecordType.expected (t : RecordType) : String :=
  let count := t.checks.length
  let noun := if count = 1 then "element" else "elements"
  s!"{t.name} with {count} {noun}"

/-- The fields of a record as they were found: by name or by place. -/
inductive Found where
  | byName (members : List (String × Json))
  | byPlace (items : List Json)

/-- The first fault among the members that are fields. -/
def firstFault? (checks : List Check) (members : List (String × Json)) : Option DecodeError :=
  members.findSome? fun m =>
    (checks.find? fun c => c.name == m.1).bind fun c => c.fault? m.2

/-- Reads a record of named fields, from an object or from an array of all fields in order. Among
members the first fault in the order of the keys counts, before any missing field. -/
def record {α : Type} (t : RecordType) (build : Found → Decoded α) : Json → Decoded α
  | object members =>
    match firstFault? t.checks members with
    | some fault => .error fault
    | none => build (.byName members)
  | array items => do
    let built ← build (.byPlace items)
    if t.checks.length < items.length then
      .error (.invalidLength items.length "fewer elements in array")
    else .ok built
  | other => .error (.invalidType other t.name)

/-- Takes a field of a record, or its value when absent. -/
def Found.take {α : Type} (found : Found) (t : RecordType) (f : Field α) : Decoded α :=
  match found with
  | .byName members =>
    match members.lookup f.name, f.absent with
    | some v, _ => f.decode v
    | none, some absent => .ok absent
    | none, none => .error (.missingField f.name)
  | .byPlace items =>
    let place := t.checks.findIdx fun c => c.name == f.name
    match items[place]?, f.absent with
    | some v, _ => f.decode v
    | none, some absent => .ok absent
    | none, none => .error (.invalidLength place t.expected)

end Json

end JobDispatch
