import JobDispatch.Json.Value

/-!
Reading JSON text.

A text can be at fault in three ways: it ends too early, it is not JSON, or (when the shape is
given) its shape does not fit. The reader goes from left to right and the first fault counts.

* `Json.Reader.number` reads a number: digits that fit 64 bits are the significand, further ones
  only move the exponent, and the significand is then scaled by a power of ten.
* `Json.Reader.value` reads a value. A `skimmed` value is read only to be passed over: it may nest
  without bound, pair surrogates wrongly and hold numbers of any size.
* `Json.parse` reads a whole text.
-/

namespace JobDispatch.Json

/-- What can be wrong with a text. -/
inductive TextFault where
  | cutShort
  | malformed
  | unfit
  deriving DecidableEq, Repr

namespace Reader

/-- The blanks between tokens. -/
def isGap (c : Char) : Bool := c == ' ' || c == '\n' || c == '\t' || c == '\r'

/-- The text without the blanks it starts with. -/
def dropGap (s : List Char) : List Char := s.dropWhile isGap

/-- Reads one given character after blanks. -/
def mark (c : Char) (s : List Char) : Except TextFault (List Char) :=
  match dropGap s with
  | [] => .error .cutShort
  | d :: rest => if d = c then .ok rest else .error .malformed

/-- Reads the given characters. -/
def exactly : List Char → List Char → Except TextFault (List Char)
  | [], s => .ok s
  | _ :: _, [] => .error .cutShort
  | c :: cs, d :: rest => if c = d then exactly cs rest else .error .malformed

/-! ### Numbers -/

/-- The bound on significands. -/
abbrev significandBound : Nat := UInt64.size

/-- A decimal digit's value. -/
def digit (c : Char) : Nat := c.toNat - '0'.toNat

/-- A number under reading: its significand, the power of ten it is scaled by, and whether all its
digits so far are in the significand. -/
structure Scaled where
  significand : Nat
  exponent : Int
  full : Bool

/-- Takes up a digit before the point. -/
def Scaled.addWhole (n : Scaled) (c : Char) : Scaled :=
  let next := 10 * n.significand + digit c
  if n.full ∨ significandBound ≤ next then { n with exponent := n.exponent + 1, full := true }
  else { n with significand := next }

/-- Takes up a digit after the point. -/
def Scaled.addDecimal (n : Scaled) (c : Char) : Scaled :=
  let next := 10 * n.significand + digit c
  if n.full ∨ significandBound ≤ next then { n with full := true }
  else { n with significand := next, exponent := n.exponent - 1 }

/-- The fault of a number whose next digit is missing: an early end, unless it is only skimmed. -/
def missingDigit (skim : Bool) (s : List Char) : TextFault :=
  if s.isEmpty && !skim then .cutShort else .malformed

/-- The digits that a text starts with, at least one, and the rest. -/
def digits (skim : Bool) (s : List Char) : Except TextFault (List Char × List Char) :=
  let run := s.takeWhile Char.isDigit
  if run.isEmpty then .error (missingDigit skim s) else .ok (run, s.drop run.length)

/-- Reads the digits before the point: no further digit follows a leading zero. -/
def wholeDigits (skim : Bool) (s : List Char) : Except TextFault (List Char × List Char) := do
  let (run, rest) ← digits skim s
  if run.head? = some '0' ∧ 1 < run.length then .error .malformed else .ok (run, rest)

/-- Reads the digits after a point; none without a point. -/
def decimals? (skim : Bool) (s : List Char) : Except TextFault (Option (List Char) × List Char) :=
  match s with
  | '.' :: rest => do
    let (run, rest) ← digits skim rest
    .ok (some run, rest)
  | _ => .ok (none, s)

/-- The integer that a run of digits writes. -/
def digitsValue (run : List Char) : Nat := run.foldl (fun n c => 10 * n + digit c) 0

/-- Reads an exponent; none without its mark. -/
def exponent? (skim : Bool) (s : List Char) : Except TextFault (Option Int × List Char) :=
  match s with
  | c :: rest =>
    if c = 'e' ∨ c = 'E' then do
      let (negative, rest) := match rest with
        | '-' :: rest => (true, rest)
        | '+' :: rest => (false, rest)
        | _ => (false, rest)
      let (run, rest) ← digits skim rest
      let size : Int := digitsValue run
      .ok (some (if negative then -size else size), rest)
    else .ok (none, s)
  | [] => .ok (none, s)

/-- The value of a number from its parts; nothing when it is too large. -/
def numberOf? (negative : Bool) (whole : List Char) (decimals : Option (List Char))
    (exponent : Option Int) : Option Json :=
  let n := whole.foldl Scaled.addWhole ⟨0, 0, false⟩
  if decimals.isNone ∧ exponent.isNone ∧ ¬ n.full then
    if ¬ negative then some (int n.significand)
    else if n.significand = 0 ∨ int64Bound < n.significand then
      some (float (Binary64.ofNat n.significand).neg)
    else some (int (-(n.significand : Int)))
  else
    let n := (decimals.getD []).foldl Scaled.addDecimal { n with full := false }
    let x := (Binary64.ofNat n.significand).scaled? (n.exponent + exponent.getD 0)
    x.map fun x => float (if negative then x.neg else x)

/-- Reads a number. -/
def number (skim : Bool) (s : List Char) : Except TextFault (Json × List Char) := do
  let (negative, s) := match s with
    | '-' :: rest => (true, rest)
    | _ => (false, s)
  let (whole, s) ← wholeDigits skim s
  let (decimals, s) ← decimals? skim s
  let (exponent, s) ← exponent? skim s
  if skim then .ok (null, s)
  else
    match numberOf? negative whole decimals exponent with
    | some v => .ok (v, s)
    | none => .error .malformed

/-! ### Strings -/

/-- The value of a hexadecimal digit. -/
def hexDigit? (c : Char) : Option Nat :=
  if c.isDigit then some (c.toNat - '0'.toNat)
  else if 'a' ≤ c ∧ c ≤ 'f' then some (c.toNat - 'a'.toNat + 10)
  else if 'A' ≤ c ∧ c ≤ 'F' then some (c.toNat - 'A'.toNat + 10)
  else none

/-- Reads four hexadecimal digits. A text is too short for them by its count of bytes. -/
def hexFour (s : List Char) : Except TextFault (Nat × List Char) :=
  if (String.ofList (s.take 4)).utf8ByteSize < 4 then .error .cutShort
  else
    match (s.take 4).mapM hexDigit? with
    | some [a, b, c, d] => .ok (((a * 16 + b) * 16 + c) * 16 + d, s.drop 4)
    | _ => .error .malformed

/-- Reads the second half of a pair of surrogates. -/
def lowSurrogate (high : Nat) (s : List Char) : Except TextFault (Char × List Char) :=
  match s with
  | [] => .error .cutShort
  | c :: rest =>
    if c ≠ '\\' then .error .malformed
    else
      match rest with
      | [] => .error .cutShort
      | d :: rest =>
        if d ≠ 'u' then .error .malformed
        else do
          let (low, rest) ← hexFour rest
          if 0xDC00 ≤ low ∧ low ≤ 0xDFFF then
            .ok (Char.ofNat (0x10000 + (high - 0xD800) * 0x400 + (low - 0xDC00)), rest)
          else .error .malformed

/-- The characters after a backslash, with what each stands for. -/
def shortEscapes : List (Char × Char) :=
  [('"', '"'), ('\\', '\\'), ('/', '/'), ('b', '\x08'), ('f', '\x0c'), ('n', '\n'), ('r', '\r'),
    ('t', '\t')]

/-- Reads what follows a backslash. -/
def escape (skim : Bool) (s : List Char) : Except TextFault (Char × List Char) :=
  match s with
  | [] => .error .cutShort
  | c :: rest =>
    if c = 'u' then do
      let (unit, rest) ← hexFour rest
      if skim then .ok (' ', rest)
      else if 0xD800 ≤ unit ∧ unit ≤ 0xDBFF then lowSurrogate unit rest
      else if 0xDC00 ≤ unit ∧ unit ≤ 0xDFFF then .error .malformed
      else .ok (Char.ofNat unit, rest)
    else
      match shortEscapes.lookup c with
      | some d => .ok (d, rest)
      | none => .error .malformed

/-- Reads the rest of a string, after its opening quote; `room` bounds its length. -/
def stringRest (skim : Bool) : Nat → List Char → Except TextFault (List Char × List Char)
  | 0, _ => .error .cutShort
  | room + 1, s =>
    match s with
    | [] => .error .cutShort
    | c :: rest =>
      if c = '"' then .ok ([], rest)
      else if c.toNat < 0x20 then .error .malformed
      else do
        let (c, rest) ← if c = '\\' then escape skim rest else .ok (c, rest)
        let (cs, rest) ← stringRest skim room rest
        .ok (c :: cs, rest)

/-- Reads a string, after its opening quote. -/
def string (skim : Bool) (s : List Char) : Except TextFault (String × List Char) := do
  let (cs, rest) ← stringRest skim (s.length + 1) s
  .ok (String.ofList cs, rest)

/-! ### Values -/

/-- The number of arrays and objects around a value may not exceed this. -/
abbrev deepest : Nat := 127

/-- Reads what stands before the next item of an array or object, `close` being its end: nothing
before the first one, a comma before the others. Gives nothing at the end. -/
def nextItem (close : Char) (first : Bool) (s : List Char) :
    Except TextFault (Option (List Char)) :=
  match dropGap s with
  | [] => .error .cutShort
  | c :: rest =>
    if c = close then .ok none
    else if first then .ok (some (c :: rest))
    else if c = ',' then
      match dropGap rest with
      | [] => .error .cutShort
      | d :: rest => if d = close then .error .malformed else .ok (some (d :: rest))
    else .error .malformed

/-- Reads a key and the colon after it. -/
def key (skim : Bool) (s : List Char) : Except TextFault (String × List Char) :=
  match s with
  | '"' :: rest => do
    let (k, rest) ← string skim rest
    .ok (k, ← mark ':' rest)
  | _ => .error .malformed

mutual

/-- Reads a value that stands inside `depth` arrays and objects; `room` bounds the calls. -/
def value (skim : Bool) (depth : Nat) : Nat → List Char → Except TextFault (Json × List Char)
  | 0, _ => .error .cutShort
  | room + 1, s =>
    match dropGap s with
    | [] => .error .cutShort
    | c :: rest =>
      if c = 'n' then do .ok (null, ← exactly ['u', 'l', 'l'] rest)
      else if c = 't' then do .ok (bool true, ← exactly ['r', 'u', 'e'] rest)
      else if c = 'f' then do .ok (bool false, ← exactly ['a', 'l', 's', 'e'] rest)
      else if c = '-' ∨ c.isDigit then number skim (c :: rest)
      else if c = '"' then do
        let (text, rest) ← string skim rest
        .ok (.string text, rest)
      else if c = '[' then
        if depth = deepest ∧ ¬ skim then .error .malformed
        else do
          let (items, rest) ← items skim (depth + 1) true room rest
          .ok (array items, rest)
      else if c = '{' then
        if depth = deepest ∧ ¬ skim then .error .malformed
        else do
          let (members, rest) ← members skim (depth + 1) true room rest
          .ok (ofMembers members, rest)
      else .error .malformed

/-- Reads the items of an array, to its end. -/
def items (skim : Bool) (depth : Nat) (first : Bool) :
    Nat → List Char → Except TextFault (List Json × List Char)
  | 0, _ => .error .cutShort
  | room + 1, s => do
    match ← nextItem ']' first s with
    | none => .ok ([], (dropGap s).drop 1)
    | some s =>
      let (item, rest) ← value skim depth room s
      let (others, rest) ← items skim depth false room rest
      .ok (item :: others, rest)

/-- Reads the members of an object, to its end. -/
def members (skim : Bool) (depth : Nat) (first : Bool) :
    Nat → List Char → Except TextFault (List (String × Json) × List Char)
  | 0, _ => .error .cutShort
  | room + 1, s => do
    match ← nextItem '\x7d' first s with
    | none => .ok ([], (dropGap s).drop 1)
    | some s =>
      let (k, rest) ← key skim s
      let (v, rest) ← value skim depth room rest
      let (others, rest) ← members skim depth false room rest
      .ok ((k, v) :: others, rest)

end

/-- Reads a value inside `depth` arrays and objects. -/
def anyValue (depth : Nat) (s : List Char) : Except TextFault (Json × List Char) :=
  value false depth (2 * s.length + 2) s

/-- Passes over a value. -/
def passOver (s : List Char) : Except TextFault (List Char) := do
  let (_, rest) ← value true 0 (2 * s.length + 2) s
  .ok rest

/-- Nothing but blanks is left. -/
def finish (s : List Char) : Except TextFault Unit :=
  if (dropGap s).isEmpty then .ok ⟨⟩ else .error .malformed

end Reader

/-- Reads a whole text. -/
def parse (text : String) : Except TextFault Json := do
  let (v, rest) ← Reader.anyValue 0 text.toList
  Reader.finish rest
  .ok v

end JobDispatch.Json
