/-!
Blank characters: the characters with the Unicode property `White_Space`.

* `trim` drops them at both ends of a text and `dropBlanks` at its start.
* `pieces` are the maximal runs of characters that are not blank.
-/

namespace JobDispatch.Text

/-- The character has the property `White_Space`. -/
def isBlank (c : Char) : Bool :=
  let n := c.toNat
  (9 ≤ n && n ≤ 13) || n == 0x20 || n == 0x85 || n == 0xA0 || n == 0x1680 ||
    (0x2000 ≤ n && n ≤ 0x200A) || n == 0x2028 || n == 0x2029 || n == 0x202F || n == 0x205F ||
    n == 0x3000

/-- The text without the blanks it starts with. -/
def dropBlanks (s : List Char) : List Char := s.dropWhile isBlank

/-- The text without the blanks at its two ends. -/
def trim (s : List Char) : List Char := (dropBlanks (dropBlanks s).reverse).reverse

/-- The maximal runs of characters that are not blank; `run` is the run being read. -/
def piecesFrom (run : List Char) : List Char → List (List Char)
  | [] => if run.isEmpty then [] else [run]
  | c :: rest =>
    if isBlank c then
      if run.isEmpty then piecesFrom [] rest else run :: piecesFrom [] rest
    else piecesFrom (run ++ [c]) rest

/-- The maximal runs of characters that are not blank. -/
def pieces (s : List Char) : List (List Char) := piecesFrom [] s

/-- No text starts with a blank once its blanks are dropped. -/
theorem isBlank_head_dropBlanks {s : List Char} {c : Char} {rest : List Char}
    (h : dropBlanks s = c :: rest) : isBlank c = false := by
  have h' := List.head?_dropWhile_not isBlank s
  rw [show s.dropWhile isBlank = c :: rest from h] at h'
  simpa using h'

/-- Text that starts with a character that is not blank has no blanks to drop. -/
theorem dropBlanks_cons {c : Char} (rest : List Char) (h : isBlank c = false) :
    dropBlanks (c :: rest) = c :: rest := by
  simp [dropBlanks, h]

end JobDispatch.Text
