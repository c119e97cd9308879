import EntityEngine.Json.Basic
import EntityEngine.Number.Shortest

/-!
The compact text of JSON values: no blanks, keys in order, control characters escaped, and doubles
in the fewest digits that read back.
-/

namespace EntityEngine.Json

open Number

def hexDigit (n : Nat) : Char := Nat.digitChar n

/-- One character inside a JSON text. -/
def escapeChar (c : Char) : List Char :=
  if c = '"' then ['\\', '"']
  else if c = '\\' then ['\\', '\\']
  else if c = '\n' then ['\\', 'n']
  else if c = '\r' then ['\\', 'r']
  else if c = '\t' then ['\\', 't']
  else if c.toNat = 8 then ['\\', 'b']
  else if c.toNat = 12 then ['\\', 'f']
  else if c.toNat < 32 then
    ['\\', 'u', '0', '0', hexDigit (c.toNat / 16), hexDigit (c.toNat % 16)]
  else [c]

def textChars (s : String) : List Char := '"' :: (s.toList.flatMap escapeChar ++ ['"'])

/-- The text of a double: positional from 10⁻⁵ up to 10¹⁶, with an exponent outside, and always
with a point or an exponent. An infinite double has no JSON number and is written as null. -/
def realChars (x : Float) : List Char :=
  if isSpecial x then "null".toList
  else
    let sign := if isNegative x then ['-'] else []
    if magnitude x = 0 then sign ++ "0.0".toList
    else
      let d := shortest x
      let exponent := d.point - 1
      if -5 ≤ exponent ∧ exponent < 16 then sign ++ positional d
      else
        let mark := if exponent < 0 then ['e', '-'] else ['e', '+']
        sign ++ leading d false ++ mark ++ Nat.toDigits 10 exponent.natAbs

mutual

def chars : Json → List Char
  | .null => "null".toList
  | .bool b => (if b then "true" else "false").toList
  | .integer n => (toString n).toList
  | .real x => realChars x
  | .text s => textChars s
  | .array items => '[' :: (itemChars items ++ [']'])
  | .object entries => '\x7b' :: (entryChars entries ++ ['\x7d'])

/-- The items of an array with commas between them. -/
def itemChars : List Json → List Char
  | [] => []
  | [v] => chars v
  | v :: vs => chars v ++ ',' :: itemChars vs

/-- The entries of an object with commas between them. -/
def entryChars : List (String × Json) → List Char
  | [] => []
  | [(k, v)] => textChars k ++ ':' :: chars v
  | (k, v) :: rest => textChars k ++ ':' :: (chars v ++ ',' :: entryChars rest)

end

/-- The compact text of a value. -/
def render (v : Json) : String := String.ofList v.chars

end EntityEngine.Json
