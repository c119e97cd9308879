import EntityEngine.Text.CharacterRanges

/-!
Text in double quotes, as messages show names: quotes and backslashes are escaped, and so is every
character that would not be seen.
-/

namespace EntityEngine.Text

/-- The digits of a natural number in base sixteen, in small letters. -/
def hexDigits (n : Nat) : List Char := Nat.toDigits 16 n

/-- The mark `\u` and the code point in braces. -/
def codePointEscape (c : Char) : List Char :=
  ['\\', 'u', '\x7b'] ++ hexDigits c.toNat ++ ['\x7d']

/-- One character of a quoted text. A mark that joins the character before it would not be seen by
itself, so it is escaped as well. -/
def escapeChar (c : Char) : List Char :=
  if c = '"' then ['\\', '"']
  else if c = '\\' then ['\\', '\\']
  else if c = '\n' then ['\\', 'n']
  else if c = '\r' then ['\\', 'r']
  else if c = '\t' then ['\\', 't']
  else if c.toNat = 0 then ['\\', '0']
  else if isPrintable c && !isExtending c then [c]
  else codePointEscape c

def quotedChars (s : List Char) : List Char := s.flatMap escapeChar

/-- A text in double quotes with its escapes. -/
def quoted (s : String) : String := String.ofList ('"' :: (quotedChars s.toList ++ ['"']))

end EntityEngine.Text
