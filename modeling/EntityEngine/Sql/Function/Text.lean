import EntityEngine.Sql.Operator

/-!
Functions of texts and byte strings. Places are counted from one, and from the end if they are
negative.
-/

namespace EntityEngine.Sql

open Number Text

namespace Value

/-- Whether a value is a byte string. -/
def isBlob : Value → Bool
  | blob _ => true
  | _ => false

/-- The characters of a value's text. -/
def chars (v : Value) : List Char := v.toText.toList

/-- A value taken as an integer of 32 bits. -/
def toInt32 (v : Value) : Int := Int.bmod v.toInteger 0x100000000

/-- How many characters a text has before its first U+0000, and how many bytes any other value. -/
def length : Value → Value
  | null => null
  | text s => .integer (untilNull s.toList).length
  | v => .integer v.toBytes.length

/-- How many bytes a value has. -/
def size (v : Value) : Value := if v.isNull then null else .integer v.toBytes.length

/-- The bytes in base sixteen. -/
def hex (v : Value) : Value := .text (capitals (hexText v.toBytes))

/-- A text with another one in place of all occurrences of a third; the fuel is its length. -/
def replacedFuel (part other : List Char) : Nat → List Char → List Char
  | 0, s => s
  | _ + 1, [] => []
  | fuel + 1, c :: s =>
    if part.isPrefixOf (c :: s) then
      other ++ replacedFuel part other fuel ((c :: s).drop part.length)
    else c :: replacedFuel part other fuel s

/-- A text with every occurrence of a part replaced. Nothing changes where the part is empty. -/
def replace (v part other : Value) : Value :=
  if v.isNull || part.isNull then null
  else if (untilNull part.chars).isEmpty then v
  else if other.isNull then null
  else .text (String.ofList (replacedFuel part.chars other.chars v.chars.length v.chars))

/-- How many places come before the first one from which on a list starts with another. -/
def placeOf [BEq α] (part : List α) : List α → Nat → Option Nat
  | [], n => if part.isEmpty then some n else none
  | c :: s, n => if part.isPrefixOf (c :: s) then some n else placeOf part s (n + 1)

/-- The place of the first occurrence of a part, or 0. -/
def instr (v part : Value) : Value :=
  if v.isNull || part.isNull then null
  else
    let found :=
      if v.isBlob && part.isBlob then placeOf part.toBytes v.toBytes 1
      else placeOf part.chars v.chars 1
    .integer (found.getD 0 : Nat)

/-- A text without the characters of a set at its start. -/
def trimmedLeft (set : List Char) (s : List Char) : List Char := s.dropWhile set.contains

def trimmedRight (set : List Char) (s : List Char) : List Char :=
  (trimmedLeft set s.reverse).reverse

/-- A text cut at one or both of its ends. -/
def trimWith (cut : List Char → List Char → List Char) (v set : Value) : Value :=
  if v.isNull || set.isNull then null else .text (String.ofList (cut set.chars v.chars))

/-- How many items come before a part of a list and how many the part has, when a place and a
length are asked for. -/
def window (length : Nat) (place : Int) (count : Option Int) : Nat × Option Nat :=
  let backwards := count.any (· < 0)
  let count := count.map Int.natAbs
  -- A place before the first item takes away from the length.
  let (start, count) : Int × Option Int :=
    if place < 0 then
      let start := place + length
      if start < 0 then (0, count.map fun n => max 0 (n + start)) else (start, count.map (·))
    else if 0 < place then (place - 1, count.map (·))
    else (0, count.map fun n => if 0 < n then n - 1 else n)
  let (start, count) : Int × Option Int :=
    match backwards, count with
    | true, some n => if start < n then (0, some (max 0 start)) else (start - n, some n)
    | _, count => (start, count)
  (start.toNat, count.map Int.toNat)

def cutOut (items : List α) (place : Int) (count : Option Int) : List α :=
  let (start, count) := window items.length place count
  let rest := items.drop start
  match count with
  | some n => rest.take n
  | none => rest

/-- A part of a text, or of a byte string. -/
def substr (v place : Value) (count : Option Value) : Value :=
  if v.isNull || place.isNull || count.any Value.isNull then null
  else
    let count := count.map toInt32
    match v with
    | .blob bytes => .blob (cutOut bytes place.toInt32 count)
    | v => .text (String.ofList (cutOut (untilNull v.chars) place.toInt32 count))

/-- The text of code points; those that are none count as U+FFFD. -/
def ofCodePoints (vs : List Value) : Value :=
  .text (String.ofList (vs.map fun v =>
    let n := v.toInteger
    if 0 ≤ n ∧ n ≤ 0x10FFFF ∧ ¬ (0xD800 ≤ n ∧ n ≤ 0xDFFF) then Char.ofNat n.toNat
    else '\uFFFD'))

/-- The code point of the first character. -/
def codePoint (v : Value) : Value :=
  if v.isNull then null
  else
    match untilNull v.chars with
    | [] => null
    | c :: _ => .integer (patternChar c).toNat

/-- Texts joined, null and empty ones left out. -/
def joined (separator : String) (vs : List Value) : Value :=
  let parts := (vs.filter fun v => !v.isNull).map toText
  .text (Text.join separator (parts.filter fun s => !s.isEmpty))

/-- The values of pairs of digits in base sixteen, between which characters of a set may stand. -/
def unhexed (ignored : List Char) : List Char → Option Bytes
  | [] => some []
  | [c] => if ignored.contains c && (hexValue? c.toNat).isNone then some [] else none
  | c :: d :: s =>
    match hexValue? c.toNat with
    | some high =>
      match hexValue? d.toNat with
      | some low => (unhexed ignored s).map ((16 * high + low) :: ·)
      | none => none
    | none => if ignored.contains c then unhexed ignored (d :: s) else none

def unhex (v ignored : Value) : Value :=
  if v.isNull || ignored.isNull then null
  else
    match unhexed ignored.chars (untilNull v.chars) with
    | some bytes => .blob bytes
    | none => null

/-- The digit that stands for a consonant of ASCII; 0 for other letters. -/
def soundOf (c : Char) : Nat :=
  let groups := ["BFPV", "CGJKQSXZ", "DT", "L", "MN", "R"].map String.toList
  match groups.findIdx? fun g => g.contains c.toUpper with
  | some i => i + 1
  | none => 0

/-- The digits of the letters after the first, neighbours of one sound counting once. -/
def soundDigits (previous : Nat) : List Char → List Char
  | [] => []
  | c :: s =>
    if !c.isAlpha then soundDigits previous s
    else
      let n := soundOf c
      if n = 0 then soundDigits (if c.toUpper = 'H' ∨ c.toUpper = 'W' then previous else 0) s
      else if n = previous then soundDigits previous s
      else Nat.digitChar n :: soundDigits n s

/-- A letter and three digits for the sound of a text. -/
def soundex (v : Value) : Value :=
  match v.chars.dropWhile fun c => !c.isAlpha with
  | [] => .text "?000"
  | c :: s =>
    .text (String.ofList (c.toUpper :: ((soundDigits (soundOf c) s ++ ['0', '0', '0']).take 3)))

end Value

end EntityEngine.Sql
