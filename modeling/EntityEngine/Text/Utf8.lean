/-!
Text as bytes. Reading bytes finds, at each place, either a character or a run of bytes that can
start none.
-/

namespace EntityEngine.Text

abbrev Bytes := List Nat

/-- The bytes of a character. -/
def charBytes (c : Char) : Bytes :=
  let n := c.toNat
  if n < 0x80 then [n]
  else if n < 0x800 then [0xC0 + n / 64, 0x80 + n % 64]
  else if n < 0x10000 then [0xE0 + n / 4096, 0x80 + n / 64 % 64, 0x80 + n % 64]
  else [0xF0 + n / 262144, 0x80 + n / 4096 % 64, 0x80 + n / 64 % 64, 0x80 + n % 64]

def textBytes (s : List Char) : Bytes := s.flatMap charBytes

/-- A byte in a range. -/
def within (low high : Nat) (b : Nat) : Bool := low ≤ b && b ≤ high

/-- A byte that continues a character. -/
def isContinuation : Nat → Bool := within 0x80 0xBF

/-- The bytes that may follow a first byte, and how many follow in all; none for a byte that
starts no character. -/
def leadOf (b : Nat) : Option (Nat × (Nat → Bool)) :=
  if within 0xC2 0xDF b then some (1, isContinuation)
  else if b = 0xE0 then some (2, within 0xA0 0xBF)
  else if b = 0xED then some (2, within 0x80 0x9F)
  else if within 0xE1 0xEF b then some (2, isContinuation)
  else if b = 0xF0 then some (3, within 0x90 0xBF)
  else if b = 0xF4 then some (3, within 0x80 0x8F)
  else if within 0xF1 0xF3 b then some (3, isContinuation)
  else none

/-- How many bytes after the first belong to the character that starts here. -/
def continuationLength (count : Nat) (second : Nat → Bool) : Bytes → Nat
  | [] => 0
  | b :: r => if second b then 1 + ((r.take (count - 1)).takeWhile isContinuation).length else 0

/-- The code point that a first byte and its continuation write. -/
def codePoint (b : Nat) (rest : Bytes) : Nat :=
  let first := match rest.length with
    | 1 => b - 0xC0
    | 2 => b - 0xE0
    | _ => b - 0xF0
  rest.foldl (fun n c => 64 * n + (c - 0x80)) first

/-- The text of bytes, one item at a time: a character, or nothing for a run of bytes that starts
no character. The fuel is the count of bytes. -/
def scanBytes : Nat → Bytes → List (Option Char)
  | 0, _ => []
  | _, [] => []
  | fuel + 1, b :: r =>
    if b < 0x80 then some (Char.ofNat b) :: scanBytes fuel r
    else match leadOf b with
      | none => none :: scanBytes fuel r
      | some (count, second) =>
        let n := continuationLength count second r
        let item := if n = count then some (Char.ofNat (codePoint b (r.take n))) else none
        item :: scanBytes fuel (r.drop n)

/-- The text of bytes, if every byte belongs to a character. -/
def ofBytes? (bytes : Bytes) : Option (List Char) :=
  (scanBytes bytes.length bytes).mapM id

/-- The text of bytes with U+FFFD for every run that starts no character. -/
def ofBytesLossy (bytes : Bytes) : List Char :=
  (scanBytes bytes.length bytes).map (·.getD '\uFFFD')

def hexValue? (b : Nat) : Option Nat :=
  if within 48 57 b then some (b - 48)
  else if within 65 70 b then some (b - 55)
  else if within 97 102 b then some (b - 87)
  else none

/-- Bytes with every `%` and two digits after it replaced by the byte they write. A `%` without
two digits stands for itself. -/
def percentDecode : Bytes → Bytes
  | [] => []
  | 37 :: a :: b :: r =>
    match hexValue? a, hexValue? b with
    | some h, some l => (16 * h + l) :: percentDecode r
    | _, _ => 37 :: percentDecode (a :: b :: r)
  | b :: r => b :: percentDecode r

/-- The bytes written by a text of pairs of digits in base sixteen. -/
def hexText (bytes : Bytes) : String :=
  String.ofList (bytes.flatMap fun b => [Nat.digitChar (b / 16), Nat.digitChar (b % 16)])

end EntityEngine.Text
