import EntityEngine.Text.Ascii

/-!
Estimates of how many rows a search meets and how much room they take. An estimate is ten times the
logarithm of a number in base two, rounded, so that estimates of products are sums.
-/

namespace EntityEngine.Store

/-- Ten times a logarithm in base two. -/
abbrev Estimate := Int

namespace Estimate

/-- The estimates of the numbers below sixteen. -/
def ofSmall : List Nat := [0, 0, 10, 16, 20, 23, 26, 28, 30, 32, 33, 35, 36, 37, 38, 39]

/-- The estimate of a number. -/
def ofNat (n : Nat) : Estimate :=
  if n < 16 then (ofSmall[n]?).getD 0 else ofNat (n / 2) + 10

/-- How much the larger of two numbers grows when the other is added, by the difference of their
estimates. -/
def growth (difference : Nat) : Nat :=
  match [10, 10, 9, 9, 8, 8, 7, 7, 7, 6, 6, 6, 5, 5, 5, 4, 4, 4, 4][difference]? with
  | some n => n
  | none =>
    if difference < 25 then 3
    else if difference < 32 then 2
    else if difference < 50 then 1
    else 0

/-- The estimate of a sum. -/
def plus (a b : Estimate) : Estimate := max a b + growth (a - b).natAbs

/-- The estimate of the logarithm of a number that is estimated itself. -/
def log (a : Estimate) : Estimate := if a ≤ 10 then 0 else ofNat a.toNat - 33

end Estimate

/-! ### The room of a column -/

/-- The types whose room is known. -/
def knownWidths : List (String × Nat) :=
  [("ANY", 1), ("BLOB", 5), ("INT", 1), ("INTEGER", 1), ("REAL", 1), ("TEXT", 5)]

/-- What is known of a type of texts or byte strings. -/
structure TypeReading where
  isText : Bool := false
  isBlob : Bool := false
  /-- The text behind the word that a length may follow. -/
  behind : Option (List Char) := none
  deriving Repr, DecidableEq

/-- Reads the words in a type, in small letters. -/
def readType (r : TypeReading) : List Char → TypeReading
  | [] => r
  | c :: rest =>
    let s := c :: rest
    let starts (word : String) : Bool := word.toList.isPrefixOf s
    let behind := s.drop 4
    let r :=
      if starts "char" then { r with isText := true, behind := some behind }
      else if starts "clob" || starts "text" then { r with isText := true }
      else if starts "blob" && !r.isText && !r.isBlob then
        { r with
          isBlob := true
          behind := if behind.head? = some '(' then some behind else r.behind }
      else r
    readType r rest

/-- The first number in a text; 0 if it is too large. -/
def firstNumber (s : List Char) : Nat :=
  let digits := (s.dropWhile fun c => !c.isDigit).takeWhile Char.isDigit
  let significant := digits.dropWhile (· = '0')
  let n := significant.foldl (fun n c => 10 * n + (c.toNat - '0'.toNat)) 0
  if significant.length ≤ 10 ∧ n < 0x80000000 then n else 0

/-- The room that a value of a type is thought to take, in units of an integer. -/
def typeWidth (type : String) : Nat :=
  let s := type.toList.map Char.toLower
  let hasInt := (List.range s.length).any fun i => "int".toList.isPrefixOf (s.drop i)
  match knownWidths.find? fun (name, _) => Text.sameFold name type with
  | some (_, n) => n
  | none =>
    let r := readType {} s
    if hasInt || (!r.isText && !r.isBlob) then 1
    else
      let length := match r.behind with
        | some behind => firstNumber behind
        | none => 16
      min (length / 4 + 1) 255

end EntityEngine.Store
