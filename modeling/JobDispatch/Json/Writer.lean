import JobDispatch.Json.Value
import JobDispatch.Number.Shortest

/-!
JSON values as text, without blanks.

`Json.text` writes a value on one line. Strings escape the quote, the backslash and control
characters, and nothing else.
-/

namespace JobDispatch.Json

/-- The characters with a short escape, and the letter of each. -/
def escapeLetters : List (Char × Char) :=
  [('"', '"'), ('\\', '\\'), ('\x08', 'b'), ('\x0c', 'f'), ('\n', 'n'), ('\r', 'r'), ('\t', 't')]

/-- A character inside a string. -/
def stringChar (c : Char) : List Char :=
  match escapeLetters.lookup c with
  | some letter => ['\\', letter]
  | none =>
    if c.toNat < 0x20 then
      let digits := Nat.toDigits 16 c.toNat
      '\\' :: 'u' :: List.replicate (4 - digits.length) '0' ++ digits
    else [c]

/-- A string between its quotes. -/
def stringText (s : String) : String :=
  String.ofList ('"' :: s.toList.flatMap stringChar ++ ['"'])

mutual

/-- The value as text. -/
def text : Json → String
  | null => "null"
  | bool true => "true"
  | bool false => "false"
  | int n => toString n
  | float x => x.compact
  | string s => stringText s
  | array items => "[" ++ itemsText true items ++ "]"
  | object members => "\x7b" ++ membersText true members ++ "\x7d"

/-- The items of an array, with commas between them. -/
def itemsText (first : Bool) : List Json → String
  | [] => ""
  | item :: rest => (if first then "" else ",") ++ text item ++ itemsText false rest

/-- The members of an object, with commas between them. -/
def membersText (first : Bool) : List (String × Json) → String
  | [] => ""
  | (key, value) :: rest =>
    (if first then "" else ",") ++ stringText key ++ ":" ++ text value ++ membersText false rest

end

end JobDispatch.Json
