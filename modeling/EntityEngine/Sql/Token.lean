import EntityEngine.Number.Numeral
import EntityEngine.Text.Ascii

/-!
The lexical rules of statements. A text is a sequence of tokens: names and texts in quotes, inside
which the quote is written twice, words, numbers, signs, blanks and comments.
-/

namespace EntityEngine.Sql

open Number

inductive TokenKind where
  | blank
  | comment
  /-- A name in quotes. -/
  | name (value : List Char)
  /-- A text in single quotes. -/
  | text (value : List Char)
  /-- A keyword, or a name without quotes. -/
  | word
  | number
  | bytes
  | variable
  /-- An operator or a mark of punctuation. -/
  | sign
  /-- What starts no token. -/
  | illegal
  deriving Repr, DecidableEq

structure Token where
  kind : TokenKind
  /-- The characters of the token as they are written. -/
  raw : List Char
  deriving Repr, DecidableEq

namespace Token

def isBlankChar (c : Char) : Bool := c = ' ' || (9 ≤ c.toNat && c.toNat ≤ 13)

/-- The characters of words. -/
def isWordChar (c : Char) : Bool := c.isAlphanum || c == '_' || c == '$' || 128 ≤ c.toNat

/-- A text after its opening quote: its value and how many characters it takes with its closing
quote. -/
def scanQuoted (quote : Char) : List Char → Option (List Char × Nat)
  | [] => none
  | [c] => if c = quote then some ([], 1) else none
  | c :: d :: r =>
    if c = quote then
      if d = quote then (scanQuoted quote r).map fun (s, n) => (quote :: s, n + 2)
      else some ([], 1)
    else (scanQuoted quote (d :: r)).map fun (s, n) => (c :: s, n + 1)

/-- How many characters a comment takes after its opening, up to its end or the end of the
text. -/
def commentLength : List Char → Nat
  | '*' :: '/' :: _ => 2
  | _ :: r => commentLength r + 1
  | [] => 0

/-- A token of the first characters of a text. -/
def head (kind : TokenKind) (n : Nat) (s : List Char) : Token × List Char :=
  (⟨kind, s.take n⟩, s.drop n)

/-- The token of a quote and what follows it. -/
def quoted (quote : Char) (kind : List Char → TokenKind) (s : List Char) : Token × List Char :=
  match scanQuoted quote (s.drop 1) with
  | some (value, n) => head (kind value) (n + 1) s
  | none => head .illegal s.length s

/-- A digit in base sixteen. -/
def isHexDigit (c : Char) : Bool := c.isDigit || ('a' ≤ c.toLower && c.toLower ≤ 'f')

/-- How many characters the number at the start of a text takes. -/
def numberLength (s : List Char) : Nat :=
  match Numeral.scan s with
  | some (_, rest) => s.length - rest.length
  | none => 0

/-- How many characters a number takes, be it in base ten or sixteen. -/
def numberTake (s : List Char) : Nat :=
  match s with
  | '0' :: x :: r =>
    if (x = 'x' ∨ x = 'X') ∧ r.head?.any isHexDigit then 2 + (r.takeWhile isHexDigit).length
    else numberLength s
  | _ => numberLength s

/-- The token of a number. Characters of a word that follow make it illegal. -/
def numberToken (s : List Char) : Token × List Char :=
  let n := numberTake s
  let more := ((s.drop n).takeWhile isWordChar).length
  if more = 0 then head .number n s else head .illegal (n + more) s

/-- Signs of two and three characters, the longer ones first. -/
def longSigns : List (List Char) :=
  ["->>", "->", "==", "<=", "<>", "<<", ">=", ">>", "!=", "||"].map String.toList

/-- Signs of one character. -/
def shortSigns : List Char :=
  ['(', ')', ';', '+', '*', '/', '%', '=', '<', '>', '|', ',', '&', '~', '.', '-']

/-- The token of an operator or a mark, or of a character that starts no token. -/
def signToken (s : List Char) : Token × List Char :=
  match longSigns.find? fun sign => sign.isPrefixOf s with
  | some sign => head .sign sign.length s
  | none =>
    if s.head?.any fun c => shortSigns.contains c then head .sign 1 s else head .illegal 1 s

/-- A byte string: pairs of digits in base sixteen in single quotes. -/
def bytesToken (s : List Char) : Token × List Char :=
  let digits := (s.drop 2).takeWhile isHexDigit
  let n := 2 + digits.length
  if (s.drop n).head? = some '\'' ∧ digits.length % 2 = 0 then head .bytes (n + 1) s
  else
    let skipped := n + ((s.drop n).takeWhile (· ≠ '\'')).length
    head .illegal (min (skipped + 1) s.length) s

/-- A variable: a mark and a name or a number. -/
def variableToken (isPart : Char → Bool) (least : Nat) (s : List Char) : Token × List Char :=
  let n := ((s.drop 1).takeWhile isPart).length
  if n < least then head .illegal (n + 1) s else head .variable (n + 1) s

/-- A name in brackets, which ends at the first closing one. -/
def bracketToken (s : List Char) : Token × List Char :=
  let inner := (s.drop 1).takeWhile (· ≠ ']')
  if inner.length < (s.drop 1).length then head (.name inner) (inner.length + 2) s
  else head .illegal s.length s

/-- How many characters a comment takes after its opening. The first one cannot end it. -/
def blockLength : List Char → Nat
  | '/' :: t => 1 + commentLength t
  | t => commentLength t

/-- What the first characters of a text start. -/
inductive Start where
  | blank
  | text
  | name
  | bracket
  | line
  | block
  | number
  | bytes
  | byteOrderMark
  | named
  | numbered
  | word
  | sign
  deriving Repr, DecidableEq

/-- What a character starts with others behind it. -/
def startOf (c : Char) (r : List Char) : Start :=
  if isBlankChar c then .blank
  else if c = '\'' then .text
  else if c = '"' ∨ c = '\x60' then .name
  else if c = '[' then .bracket
  else if c = '-' ∧ r.head? = some '-' then .line
  else if c = '/' ∧ r.head? = some '*' ∧ 1 < r.length then .block
  else if c.isDigit ∨ (c = '.' ∧ r.head?.any Char.isDigit) then .number
  else if (c = 'x' ∨ c = 'X') ∧ r.head? = some '\'' then .bytes
  else if c.toNat = 0xFEFF then .byteOrderMark
  else if c = '$' ∨ c = '@' ∨ c = ':' ∨ c = '#' then .named
  else if c = '?' then .numbered
  else if isWordChar c then .word
  else .sign

/-- The token at the start of a text, and the rest. -/
def first (c : Char) (r : List Char) : Token × List Char :=
  let s := c :: r
  match startOf c r with
  | .blank => head .blank (s.takeWhile isBlankChar).length s
  | .text => quoted c .text s
  | .name => quoted c .name s
  | .bracket => bracketToken s
  | .line => head .comment (s.takeWhile (· ≠ '\n')).length s
  | .block => head .comment (2 + blockLength (r.drop 1)) s
  | .number => numberToken s
  | .bytes => bytesToken s
  | .byteOrderMark => head .blank 1 s
  | .named => variableToken isWordChar 1 s
  | .numbered => variableToken Char.isDigit 0 s
  | .word => head .word (s.takeWhile isWordChar).length s
  | .sign => signToken s

/-- The first token of a text, and the rest. -/
def next? : List Char → Option (Token × List Char)
  | [] => none
  | c :: r => some (first c r)

/-- The tokens of a text, as many as the fuel allows. -/
def scanFuel : Nat → List Char → List Token
  | 0, _ => []
  | fuel + 1, s =>
    match next? s with
    | none => []
    | some (t, rest) => t :: scanFuel fuel rest

/-- The tokens of a text. Each takes at least one character, so its length is enough. -/
def scan (s : List Char) : List Token := scanFuel s.length s

/-- Blanks and comments mean nothing. -/
def isMeaningful (t : Token) : Bool :=
  match t.kind with
  | .blank | .comment => false
  | _ => true

/-- A keyword or a sign, in capitals or small letters. -/
def isWord (t : Token) (word : String) : Bool :=
  match t.kind with
  | .word | .sign => Text.sameFold (String.ofList t.raw) word
  | _ => false

end Token

end EntityEngine.Sql
