import EntityEngine.Text.Ascii

/-!
White space as Unicode defines it, and text without it at either end.
-/

namespace EntityEngine.Text

/-- The characters with the Unicode property `White_Space`. -/
def isBlank (c : Char) : Bool :=
  let n := c.toNat
  (9 ≤ n && n ≤ 13) || n == 32 || n == 0x85 || n == 0xA0 || n == 0x1680 ||
    (0x2000 ≤ n && n ≤ 0x200A) || n == 0x2028 || n == 0x2029 || n == 0x202F || n == 0x205F ||
    n == 0x3000

def trimLeft (s : List Char) : List Char := s.dropWhile isBlank

def trimRight (s : List Char) : List Char := (s.reverse.dropWhile isBlank).reverse

/-- A text without the white space at its ends. -/
def trim (s : String) : String := String.ofList (trimRight (trimLeft s.toList))

/-- Nothing but white space. -/
def isBlankText (s : String) : Bool := s.toList.all isBlank

/-- The words of a text: its longest runs without white space. -/
def words (s : List Char) : List (List Char) :=
  go [] s
where
  /-- The words of a text whose current word, reversed, is `word`. -/
  go (word : List Char) : List Char → List (List Char)
    | [] => if word.isEmpty then [] else [word.reverse]
    | c :: r =>
      if isBlank c then if word.isEmpty then go [] r else word.reverse :: go [] r
      else go (c :: word) r

end EntityEngine.Text
