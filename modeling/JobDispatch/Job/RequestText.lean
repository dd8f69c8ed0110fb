import JobDispatch.Job.Request
import JobDispatch.Json.Reader

/-!
Requests read directly from JSON text.

The text is read once from left to right and its first fault is the one reported: an early end, a
text that is not JSON, or a shape that is not a request. A member that no request has is passed
over, and a field given twice is a fault of shape.
-/

namespace JobDispatch.Request

open JobDispatch.Json (TextFault)
open JobDispatch.Json.Reader

/-- Reads a value that has the wrong type, to find whether it is at least JSON. -/
def misfit (s : List Char) : Except TextFault Unit :=
  match dropGap s with
  | [] => .error .cutShort
  | c :: _ =>
    if c = '[' ∨ c = '\x7b' then .error .unfit
    else do
      let _ ← anyValue 0 s
      .error .unfit

/-- Reads a string. -/
def stringValue (s : List Char) : Except TextFault (String × List Char) :=
  match dropGap s with
  | '"' :: rest => string false rest
  | s => do
    misfit s
    .error .unfit

/-- Reads an instant or `null`. -/
def instantValue (s : List Char) : Except TextFault (Option Instant × List Char) :=
  match dropGap s with
  | 'n' :: rest => do .ok (none, ← exactly ['u', 'l', 'l'] rest)
  | s => do
    let (text, rest) ← stringValue s
    match Instant.parse text with
    | .ok t => .ok (some t, rest)
    | .error _ => .error .unfit

/-- The fields of a request read so far. -/
structure Gathered where
  jobName : Option String
  notBefore : Option (Option Instant)
  parameters : Option Json

/-- The request that the fields make; only the name must be there. -/
def Gathered.finish (p : Gathered) : Except TextFault Request :=
  match p.jobName with
  | none => .error .unfit
  | some jobName =>
    .ok { jobName, notBefore := p.notBefore.getD none,
          parameters := p.parameters.getD Json.emptyObject }

/-- Reads the value of a field that was not given before. -/
def once {α : Type} (known : Option α) (s : List Char)
    (read : List Char → Except TextFault (α × List Char)) : Except TextFault (α × List Char) :=
  match known with
  | some _ => .error .unfit
  | none => do read (← mark ':' s)

/-- Reads one member: its value, and the colon before it. -/
def Gathered.member (p : Gathered) (name : String) (s : List Char) :
    Except TextFault (Gathered × List Char) :=
  if name = nameField.name then do
    let (v, rest) ← once p.jobName s stringValue
    .ok ({ p with jobName := some v }, rest)
  else if name = notBeforeField.name then do
    let (v, rest) ← once p.notBefore s instantValue
    .ok ({ p with notBefore := some v }, rest)
  else if name = parametersField.name then do
    let (v, rest) ← once p.parameters s (anyValue 1)
    .ok ({ p with parameters := some v }, rest)
  else do
    let rest ← passOver (← mark ':' s)
    .ok (p, rest)

/-- Reads the members of an object, to its end; `room` bounds their number. -/
def Gathered.members (p : Gathered) (first : Bool) : Nat → List Char →
    Except TextFault (Request × List Char)
  | 0, _ => .error .cutShort
  | room + 1, s => do
    match ← nextItem '\x7d' first s with
    | none => .ok (← p.finish, (dropGap s).drop 1)
    | some ('"' :: rest) =>
      let (name, rest) ← string false rest
      let (p, rest) ← p.member name rest
      p.members false room rest
    | some _ => .error .malformed

/-- Reads the end of an array. -/
def arrayEnd (s : List Char) : Except TextFault (List Char) := mark ']' s

/-- Reads the items of an array: the fields in order, of which only the name must be there. -/
def items (s : List Char) : Except TextFault (Request × List Char) := do
  match ← nextItem ']' true s with
  | none => .error .unfit
  | some s =>
    let (jobName, s) ← stringValue s
    match ← nextItem ']' false s with
    | none => .ok (named jobName, ← arrayEnd s)
    | some s =>
      let (notBefore, s) ← instantValue s
      match ← nextItem ']' false s with
      | none => .ok ({ named jobName with notBefore }, ← arrayEnd s)
      | some s =>
        let (parameters, s) ← anyValue 1 s
        .ok ({ jobName, notBefore, parameters }, ← arrayEnd s)

/-- Reads a request from a whole text. -/
def parse (text : String) : Except TextFault Request := do
  let s := text.toList
  let (request, rest) ← match dropGap s with
    | '[' :: rest => items rest
    | '\x7b' :: rest => Gathered.members ⟨none, none, none⟩ true (rest.length + 1) rest
    | s => do
      misfit s
      .error .unfit
  finish rest
  .ok request

end JobDispatch.Request
