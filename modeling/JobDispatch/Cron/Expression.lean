import JobDispatch.Cron.Fields

/-!
Recurrence expressions: `0 9 * * MON-FRI`, `*/5 * * * *`, `@daily`.

An expression has six or seven fields, seconds first and an optional year last, or is one of five
keywords. A field is a list of items separated by commas. Reading is ordered choice without going
back over a run of digits or letters, so that fields which cannot be mistaken need no blank between
them.

* `Item` and `Values` are what a field is made of; `Item.values?` gives the values that an item
  stands for, or nothing when a value is out of range, a name is unknown or a step is zero.
* `expression?` reads a whole expression into `Fields`.
-/

namespace JobDispatch.Cron

/-! ### Items -/

/-- A set of values as written. -/
inductive Values where
  | every
  | one (value : Nat)
  | range (first last : Nat)
  | named (first last : List Char)
  deriving DecidableEq, Repr

/-- One item of a field. -/
inductive Item where
  | plain (values : Values)
  | stepped (values : Values) (step : Nat)
  | alone (called : List Char)
  deriving DecidableEq, Repr

/-- The months, with the names of each. -/
def monthNames : List (List String) :=
  [["jan", "january"], ["feb", "february"], ["mar", "march"], ["apr", "april"], ["may"],
    ["jun", "june"], ["jul", "july"], ["aug", "august"], ["sep", "september"], ["oct", "october"],
    ["nov", "november"], ["dec", "december"]]

/-- The days of the week, with the names of each. -/
def weekdayNames : List (List String) :=
  [["sun", "sunday"], ["mon", "monday"], ["tue", "tues", "tuesday"], ["wed", "wednesday"],
    ["thu", "thurs", "thursday"], ["fri", "friday"], ["sat", "saturday"]]

/-- The place of a name in a list of names, counted from 1; letter case is ignored. -/
def placeOf (names : List (List String)) (name : List Char) : Option Nat :=
  (names.findIdx? fun same => same.any fun n => n.toList == name.map Char.toLower).map (· + 1)

namespace CalendarUnit

/-- The value that a name stands for. -/
def valueOf (u : CalendarUnit) (name : List Char) : Option Nat :=
  match u with
  | month => placeOf monthNames name
  | weekday => placeOf weekdayNames name
  | _ => none

/-- The value is one of the unit's. -/
def Has (u : CalendarUnit) (value : Nat) : Prop := u.low ≤ value ∧ value ≤ u.high

instance (u : CalendarUnit) (value : Nat) : Decidable (u.Has value) := by unfold Has; infer_instance

/-- The values of a range, when both ends are the unit's and in order. -/
def range? (u : CalendarUnit) (first last : Nat) : Option (List Nat) :=
  if u.Has first ∧ u.Has last ∧ first ≤ last then some (between first last) else none

end CalendarUnit

/-- The values that a set as written stands for. -/
def Values.values? (u : CalendarUnit) : Values → Option (List Nat)
  | .every => some u.values
  | .one value => if u.Has value then some [value] else none
  | .range first last => u.range? first last
  | .named first last => do u.range? (← u.valueOf first) (← u.valueOf last)

/-- The set that a step runs through: a single value stands for itself and all later ones. -/
def Values.base? (u : CalendarUnit) : Values → Option (List Nat)
  | .one value => if u.Has value then some (CalendarUnit.between value u.high) else none
  | values => values.values? u

/-- The first value and every `step`-th one after it. -/
def everyNth (step : Nat) (values : List Nat) : List Nat :=
  (values.zipIdx.filter fun p => p.2 % step = 0).map Prod.fst

/-- The values that an item stands for. -/
def Item.values? (u : CalendarUnit) : Item → Option (List Nat)
  | .plain values => values.values? u
  | .stepped values step => if step = 0 then none else (values.base? u).map (everyNth step)
  | .alone called => (u.valueOf called).map ([·])

/-- The values of a field, ascending and without repetition. -/
def fieldValues? (u : CalendarUnit) (items : List Item) : Option (List Nat) := do
  let sets ← items.mapM (Item.values? u)
  some (u.values.filter fun v => sets.any (·.contains v))

/-! ### Reading -/

/-- The blanks of an expression. -/
def isGap (c : Char) : Bool := c == ' ' || c == '\t' || c == '\r' || c == '\n'

/-- The text without the blanks it starts with. -/
def dropGap (s : List Char) : List Char := s.dropWhile isGap

/-- Reads one given character. -/
def mark? (c : Char) : List Char → Option (List Char)
  | [] => none
  | d :: rest => if d = c then some rest else none

/-- Reads a number of at most 32 bits, with the blanks around it. -/
def ordinal? (s : List Char) : Option (Nat × List Char) :=
  let s := dropGap s
  let digits := s.takeWhile Char.isDigit
  let value := digits.foldl (fun n c => 10 * n + (c.toNat - '0'.toNat)) 0
  if digits.isEmpty ∨ UInt32.size ≤ value then none
  else some (value, dropGap (s.drop digits.length))

/-- Reads a run of letters, with the blanks around it. -/
def name? (s : List Char) : Option (List Char × List Char) :=
  let s := dropGap s
  let letters := s.takeWhile Char.isAlpha
  if letters.isEmpty then none else some (letters, dropGap (s.drop letters.length))

/-- Units whose fields may be a question mark, which stands for all values. -/
def CalendarUnit.takesAny : CalendarUnit → Bool
  | day | weekday => true
  | _ => false

/-- Reads a star. -/
def every? (s : List Char) : Option (Values × List Char) :=
  (mark? '*' s).map fun rest => (.every, rest)

/-- Reads a question mark where the unit allows one. -/
def any? (u : CalendarUnit) (s : List Char) : Option (Values × List Char) :=
  if u.takesAny then (mark? '?' s).map fun rest => (.every, rest) else none

/-- Reads two numbers joined by a hyphen. -/
def range? (s : List Char) : Option (Values × List Char) := do
  let (first, s) ← ordinal? s
  let (last, s) ← ordinal? (← mark? '-' s)
  some (.range first last, s)

/-- Reads two names joined by a hyphen. -/
def namedRange? (s : List Char) : Option (Values × List Char) := do
  let (first, s) ← name? s
  let (last, s) ← name? (← mark? '-' s)
  some (.named first last, s)

/-- Reads a set of values: the first of the five forms that fits. -/
def values? (u : CalendarUnit) (s : List Char) : Option (Values × List Char) :=
  any? u s <|> every? s <|> range? s <|>
    ((ordinal? s).map fun (value, rest) => (.one value, rest)) <|> namedRange? s

/-- Reads a set of values with a step. -/
def stepped? (u : CalendarUnit) (s : List Char) : Option (Item × List Char) := do
  let (values, s) ← values? u s
  let (step, s) ← ordinal? (← mark? '/' s)
  some (.stepped values step, s)

/-- Reads one item: the first of the three forms that fits. -/
def item? (u : CalendarUnit) (s : List Char) : Option (Item × List Char) :=
  stepped? u s <|> ((values? u s).map fun (values, rest) => (.plain values, rest)) <|>
    ((name? s).map fun (called, rest) => (.alone called, rest))

/-- Reads further items, each after a comma; `room` bounds their number. -/
def moreItems (u : CalendarUnit) : Nat → List Char → List Item × List Char
  | 0, s => ([], s)
  | room + 1, s =>
    match mark? ',' s >>= item? u with
    | none => ([], s)
    | some (item, rest) =>
      let (items, rest) := moreItems u room rest
      (item :: items, rest)

/-- Reads a field and gives its values. -/
def field? (u : CalendarUnit) (s : List Char) : Option (List Nat × List Char) := do
  let (item, rest) ← item? u (dropGap s)
  let (items, rest) := moreItems u rest.length rest
  some (← fieldValues? u (item :: items), dropGap rest)

/-- The fields of an expression in six or seven columns. -/
def columns? (s : List Char) : Option Fields := do
  let (seconds, s) ← field? .second s
  let (minutes, s) ← field? .minute s
  let (hours, s) ← field? .hour s
  let (days, s) ← field? .day s
  let (months, s) ← field? .month s
  let (weekdays, s) ← field? .weekday s
  let (years, s) := (field? .year s).getD (CalendarUnit.year.values, s)
  if s.isEmpty then some { seconds, minutes, hours, days, months, weekdays, years } else none

/-- Fires at midnight of every day. -/
def Fields.daily : Fields where
  seconds := [0]
  minutes := [0]
  hours := [0]
  days := CalendarUnit.day.values
  months := CalendarUnit.month.values
  weekdays := CalendarUnit.weekday.values
  years := CalendarUnit.year.values

/-- The keywords, each with the fields it stands for. -/
def keywords : List (String × Fields) :=
  [("@yearly", { Fields.daily with days := [1], months := [1] }),
    ("@monthly", { Fields.daily with days := [1] }),
    ("@weekly", { Fields.daily with weekdays := [1] }),
    ("@daily", Fields.daily),
    ("@hourly", { Fields.daily with hours := CalendarUnit.hour.values })]

/-- The text between the blanks at its ends. -/
def trimGap (s : List Char) : List Char := (dropGap (dropGap s).reverse).reverse

/-- The fields of an expression. -/
def expression? (s : List Char) : Option Fields :=
  match keywords.find? fun k => k.1.toList == trimGap s with
  | some k => some k.2
  | none => columns? s

end JobDispatch.Cron
