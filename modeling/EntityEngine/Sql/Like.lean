import EntityEngine.Text.Ascii

/-!
Patterns of text. In one kind `%` stands for any run of characters, `_` for any one, letters of ASCII
match without regard to their case, and an escape character takes the meaning of what follows it
away. In the other kind `*` stands for any run, `?` for any one, and brackets hold a set.
-/

namespace EntityEngine.Sql

/-- A character as patterns see it: the two that end the plane of 16 bits count as U+FFFD. -/
def patternChar (c : Char) : Char :=
  if c.toNat = 0xFFFE ∨ c.toNat = 0xFFFF then '\uFFFD' else c

/-- Equal up to the case of ASCII letters. -/
def sameLetter (c d : Char) : Bool := (patternChar c).toLower == (patternChar d).toLower

/-- Whether a whole text matches a pattern. A backslash at the end matches nothing. -/
def matchesPattern : (pattern text : List Char) → Bool
  | [], s => s.isEmpty
  | '%' :: p, [] => matchesPattern p []
  | '%' :: p, c :: s => matchesPattern p (c :: s) || matchesPattern ('%' :: p) s
  | '_' :: _, [] => false
  | '_' :: p, _ :: s => matchesPattern p s
  | '\\' :: d :: p, c :: s => sameLetter d c && matchesPattern p s
  | '\\' :: _, _ => false
  | _ :: _, [] => false
  | d :: p, c :: s => sameLetter d c && matchesPattern p s
termination_by p s => (p.length, s.length)

/-- The part of a text before its first U+0000. -/
def untilNull (s : List Char) : List Char := s.takeWhile fun c => c.toNat ≠ 0

/-- Whether a text is like a pattern; neither is read past a U+0000. -/
def isLike (text pattern : String) : Bool :=
  matchesPattern (untilNull pattern.toList) (untilNull text.toList)

/-- A pattern with another escape character, or none, as one with a backslash. -/
def withBackslash (escape : Option Char) : List Char → List Char
  | [] => []
  | [c] => if escape = some c ∨ c = '\\' then ['\\'] else [c]
  | c :: d :: r =>
    if escape = some c then '\\' :: d :: withBackslash escape r
    else if c = '\\' then '\\' :: '\\' :: withBackslash escape (d :: r)
    else c :: withBackslash escape (d :: r)

/-- What a set of a pattern is read for: its start, its members after an earlier one, or what
follows a mark for a range. -/
structure SetReading where
  /-- Whether the character looked for was found. -/
  found : Bool
  /-- The member before, which a range may start with. -/
  previous : Option Char
  deriving Repr, DecidableEq

/-- The rest of a set in a pattern: whether a character is in it, and the pattern behind it; none
if the set has no end. -/
def scanSet (c : Char) (r : SetReading) : List Char → Option (Bool × List Char)
  | [] => none
  | ']' :: p => some (r.found, p)
  | '-' :: d :: p =>
    match r.previous with
    | some low =>
      if d = ']' then some (r.found || c == '-', p)
      else
        let isIn := low.toNat ≤ c.toNat && c.toNat ≤ d.toNat
        scanSet c ⟨r.found || isIn, none⟩ p
    | none => scanSet c ⟨r.found || c == '-', some '-'⟩ (d :: p)
  | d :: p => scanSet c ⟨r.found || c == d, some d⟩ p

/-- Whether a character is in the set that a pattern starts with, and the pattern behind it. -/
def takeSet (c : Char) (p : List Char) : Option (Bool × List Char) :=
  let (inverted, p) := match p with
    | '^' :: p => (true, p)
    | p => (false, p)
  let answer := match p with
    | ']' :: p => scanSet c ⟨c == ']', none⟩ p
    | p => scanSet c ⟨false, none⟩ p
  answer.map fun (found, p) => (found != inverted, p)

/-- Whether a whole text matches a pattern with sets. The fuel is the length of both. -/
def matchesGlob : Nat → (pattern text : List Char) → Bool
  | 0, _, _ => false
  | _ + 1, [], s => s.isEmpty
  | fuel + 1, '*' :: p, s =>
    matchesGlob fuel p s ||
      match s with
      | [] => false
      | _ :: s => matchesGlob fuel ('*' :: p) s
  | _ + 1, _ :: _, [] => false
  | fuel + 1, '?' :: p, _ :: s => matchesGlob fuel p s
  | fuel + 1, '[' :: p, c :: s =>
    match takeSet (patternChar c) (p.map patternChar) with
    | some (true, p) => matchesGlob fuel p s
    | _ => false
  | fuel + 1, d :: p, c :: s => patternChar d == patternChar c && matchesGlob fuel p s

/-- Whether a text is matched by a pattern with sets; neither is read past a U+0000. -/
def isGlob (text pattern : String) : Bool :=
  let p := untilNull pattern.toList
  let s := untilNull text.toList
  matchesGlob (p.length + s.length + 1) p s

end EntityEngine.Sql
