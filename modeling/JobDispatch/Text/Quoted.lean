import JobDispatch.Text.Printable

/-!
Quoted text: a text between double quotes on which no control character acts.

`quoted` escapes quotes and backslashes by a backslash, four control characters by a letter or `0`,
and other characters that are not printable by their number in braces, such as `\u{1f}`.
-/

namespace JobDispatch.Text

/-- A character's number in hexadecimal, between braces. -/
def numbered (c : Char) : List Char :=
  '\\' :: 'u' :: '\x7b' :: Nat.toDigits 16 c.toNat ++ ['\x7d']

/-- A character between quotes. -/
def quotedChar (c : Char) : List Char :=
  if c = '"' then ['\\', '"']
  else if c = '\\' then ['\\', '\\']
  else if c = '\n' then ['\\', 'n']
  else if c = '\t' then ['\\', 't']
  else if c = '\r' then ['\\', 'r']
  else if c = '\x00' then ['\\', '0']
  else if isPrintable c then [c]
  else numbered c

/-- The text between quotes. -/
def quoted (s : String) : String :=
  String.ofList ('"' :: s.toList.flatMap quotedChar ++ ['"'])

end JobDispatch.Text
