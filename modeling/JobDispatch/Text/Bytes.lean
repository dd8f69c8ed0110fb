/-!
Places in a text, counted in the bytes of its encoding.

A place between two characters splits a text in two; a place inside a character, or past the end,
does not.

* `bytes` is the length of a text.
* `between?` is the part of a text between two places.
-/

namespace JobDispatch.Text

/-- The number of bytes of a text. -/
def bytes : List Char → Nat
  | [] => 0
  | c :: rest => c.utf8Size + bytes rest

/-- What comes before a place and what comes after it. -/
def splitAt? : Nat → List Char → Option (List Char × List Char)
  | 0, s => some ([], s)
  | _ + 1, [] => none
  | place + 1, c :: rest =>
    if place + 1 < c.utf8Size then none
    else (splitAt? (place + 1 - c.utf8Size) rest).map fun (before, after) => (c :: before, after)
  termination_by _ s => s

/-- What comes after a place. -/
def from? (start : Nat) (s : List Char) : Option (List Char) := (splitAt? start s).map Prod.snd

/-- What stands between two places, the second not before the first. -/
def between? (start stop : Nat) (s : List Char) : Option (List Char) := do
  (← splitAt? (stop - start) (← from? start s)).1

end JobDispatch.Text
