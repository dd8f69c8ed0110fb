import JobDispatch.Json.Decode

/-!
Typed payloads that job bodies read from their parameters.

* `Greeting` is a record of two fields.
* `Shape` is one of two records, told apart by the member `kind`; as an array it has the kind first
  and then the fields.
* `Payload.bytes`, `Payload.text` and `Payload.pair` read simpler forms.
-/

namespace JobDispatch

/-- A word and how often to say it. -/
structure Greeting where
  word : String
  times : Nat
  deriving DecidableEq, Repr

namespace Greeting

/-- The field for the word. -/
def wordField : Json.Field String := ⟨"word", Json.asString, none⟩

/-- The field for the number of times. -/
def timesField : Json.Field Nat := ⟨"times", Json.asNatural 32, none⟩

/-- The fields of a greeting. -/
def recordType : Json.RecordType := ⟨"struct Greeting", [wordField.check, timesField.check]⟩

/-- Reads a greeting. -/
def ofJson : Json → Json.Decoded Greeting :=
  Json.record recordType fun found => do
    let word ← found.take recordType wordField
    let times ← found.take recordType timesField
    .ok { word, times }

/-- The greeting as JSON. -/
def toJson (g : Greeting) : Json :=
  Json.ofMembers [("word", .string g.word), ("times", .int g.times)]

/-- The word said as often as asked. -/
def said (g : Greeting) : String := String.join (List.replicate g.times g.word)

end Greeting

/-- A circle or a square. -/
inductive Shape where
  | circle (radius : Int)
  | square (side : Nat) (label : Option String)
  deriving DecidableEq, Repr

namespace Shape

/-- The member that tells the shapes apart. -/
def kindField : Json.Field Json := ⟨"kind", .ok, none⟩

/-- The field for the radius of a circle. -/
def radiusField : Json.Field Int := ⟨"radius", Json.asInteger, none⟩

/-- The field for the side of a square. -/
def sideField : Json.Field Nat := ⟨"side", Json.asNatural 8, none⟩

/-- The field for the label of a square. -/
def labelField : Json.Field (Option String) :=
  ⟨"label", Json.asOption Json.asString, some none⟩

/-- The fields of a circle. -/
def circleType : Json.RecordType := ⟨"struct variant Shape::Circle", [radiusField.check]⟩

/-- The fields of a square. -/
def squareType : Json.RecordType :=
  ⟨"struct variant Shape::Square", [sideField.check, labelField.check]⟩

/-- Takes a circle from its fields. -/
def circleOf (found : Json.Found) : Json.Decoded Shape := do
  .ok (.circle (← found.take circleType radiusField))

/-- Takes a square from its fields. -/
def squareOf (found : Json.Found) : Json.Decoded Shape := do
  let side ← found.take squareType sideField
  let label ← found.take squareType labelField
  .ok (.square side label)

/-- Reads the fields after the kind, which may stand in an array. -/
def fieldsOf (t : Json.RecordType) (build : Json.Found → Json.Decoded Shape) :
    Json.Found → Json.Decoded Shape
  | .byName members =>
    match Json.firstFault? t.checks members with
    | some fault => .error fault
    | none => build (.byName members)
  | .byPlace items => do
    let shape ← build (.byPlace items)
    let count := t.checks.length
    let noun := if count = 1 then "element" else "elements"
    if count < items.length then
      .error (.invalidLength items.length s!"{count} {noun} in sequence")
    else .ok shape

/-- Reads the shape of the given kind. -/
def ofKind (kind : Json) (found : Json.Found) : Json.Decoded Shape :=
  match kind with
  | .string name =>
    if name = "circle" then fieldsOf circleType circleOf found
    else if name = "square" then fieldsOf squareType squareOf found
    else .error (.unknownVariant name ["circle", "square"])
  | other => .error (.invalidType other "variant identifier")

/-- Reads a shape. -/
def ofJson : Json → Json.Decoded Shape
  | .object members =>
    match members.lookup kindField.name with
    | some kind => ofKind kind (.byName (members.filter fun m => m.1 != kindField.name))
    | none => .error (.missingField kindField.name)
  | .array (kind :: items) => ofKind kind (.byPlace items)
  | .array [] => .error (.missingField kindField.name)
  | other => .error (.invalidType other "internally tagged enum Shape")

/-- The shape as JSON. -/
def toJson : Shape → Json
  | circle radius => .object [("circle", .int radius)]
  | square side label =>
    Json.ofMembers [("square", .int side), ("label", (label.map Json.string).getD .null)]

end Shape

namespace Payload

/-- Reads an array of bytes. -/
def bytes : Json → Json.Decoded (List Nat) := Json.asList (Json.asNatural 8)

/-- Reads a text or `null`. -/
def text : Json → Json.Decoded (Option String) := Json.asOption Json.asString

/-- What messages call a pair. -/
def pairName : String := "a tuple of size 2"

/-- Reads an integer and a truth value, in an array of two items. -/
def pair : Json → Json.Decoded (Int × Bool)
  | .array items => do
    let first ← match items[0]? with
      | some v => v.asInteger
      | none => .error (.invalidLength 0 pairName)
    let second ← match items[1]? with
      | some v => v.asBool
      | none => .error (.invalidLength 1 pairName)
    if 2 < items.length then .error (.invalidLength items.length "fewer elements in array")
    else .ok (first, second)
  | other => .error (.invalidType other pairName)

end Payload

end JobDispatch
