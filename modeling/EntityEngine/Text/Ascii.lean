/-!
Text compared without regard to the case of ASCII letters.
-/

namespace EntityEngine.Text

/-- ASCII capitals become small letters; every other character stays. -/
def fold (s : String) : String := String.ofList (s.toList.map Char.toLower)

/-- Equal up to the case of ASCII letters. -/
def sameFold (s t : String) : Bool := fold s == fold t

/-- ASCII small letters become capitals. -/
def capitals (s : String) : String := String.ofList (s.toList.map Char.toUpper)

theorem toList_fold (s : String) : (fold s).toList = s.toList.map Char.toLower := by
  simp [fold]

theorem sameFold_iff {s t : String} : sameFold s t = true ↔ fold s = fold t := by
  simp [sameFold]

/-- The bytes that a text takes in UTF-8. -/
def byteLength : List Char → Nat
  | [] => 0
  | c :: r => c.utf8Size + byteLength r

theorem byteLength_append (s t : List Char) :
    byteLength (s ++ t) = byteLength s + byteLength t := by
  induction s with
  | nil => simp [byteLength]
  | cons c r ih => simp [byteLength, ih, Nat.add_assoc]

/-- Texts joined with a separator between neighbours. -/
def join (separator : String) (parts : List String) : String := separator.intercalate parts

/-- The parts of a text between the occurrences of a character; always at least one. -/
def splitAt (separator : Char) : List Char → List (List Char)
  | [] => [[]]
  | c :: r =>
    match splitAt separator r with
    | [] => [[c]]
    | part :: parts => if c = separator then [] :: part :: parts else (c :: part) :: parts

/-- The parts of a text between the occurrences of a character. -/
def split (separator : Char) (s : String) : List String :=
  (splitAt separator s.toList).map String.ofList

/-- Whether the text `part` starts the text `s`. -/
def startsWith (part s : List Char) : Bool := part.isPrefixOf s

/-- Replaces every occurrence of the two characters `a`, `b`, from left to right. -/
def replacePair (a b : Char) (replacement : List Char) : List Char → List Char
  | [] => []
  | [c] => [c]
  | c :: d :: r =>
    if c = a ∧ d = b then replacement ++ replacePair a b replacement r
    else c :: replacePair a b replacement (d :: r)

/-- Writes every occurrence of a character twice. -/
def double (c : Char) (s : List Char) : List Char :=
  s.flatMap fun d => if d = c then [c, c] else [d]

end EntityEngine.Text
