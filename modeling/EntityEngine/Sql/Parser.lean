import EntityEngine.Sql.Fault
import EntityEngine.Sql.Keyword
import EntityEngine.Sql.Like

/-!
Steps of reading a statement, token by token. Blanks and comments are left out, and so is all that
follows the first U+0000. The first token that fits nowhere decides the fault. A fault in what was
read so far is told once the next token fits. What is still to be completed is limited in number.
-/

namespace EntityEngine.Sql

/-- A token, how many bytes of its statement come before it, and the text from there on. -/
structure PlacedToken where
  token : Token
  place : Nat
  source : List Char
  deriving Repr, DecidableEq

/-- Why a statement cannot be carried out, and the place where that shows, if one is told. -/
structure StatementFault where
  fault : Fault
  place : Option Nat := none
  deriving Repr, DecidableEq

/-- The fault as it is told of a statement. -/
def StatementFault.within (statement : String) (f : StatementFault) : Fault :=
  match f.place with
  | some n => .located f.fault statement n
  | none => f.fault

/-- The meaningful tokens of a text behind some bytes, as many tokens as the fuel allows being
looked at. -/
def placedTokensFuel : Nat → Nat → List Char → List PlacedToken
  | 0, _, _ => []
  | fuel + 1, place, s =>
    match Token.next? s with
    | none => []
    | some (t, rest) =>
      let others := placedTokensFuel fuel (place + Text.byteLength t.raw) rest
      if t.isMeaningful then ⟨t, place, s⟩ :: others else others

/-- The meaningful tokens of a statement. The text ends where the tokens do. -/
def placedTokens (statement : List Char) : List PlacedToken :=
  placedTokensFuel statement.length 0 (untilNull statement)

/-- The tokens of the first statement among those of a text, the mark that ends it included, and the
text behind. -/
def firstStatement (tokens : List PlacedToken) : List PlacedToken × List Char :=
  let isEnd (t : PlacedToken) : Bool := t.token.isWord ";"
  let own := tokens.takeWhile fun t => !isEnd t
  match tokens.drop own.length with
  | [] => (own, [])
  | t :: _ => (own ++ [t], t.source.drop 1)

/-- What is left of a statement, and what is known of the part that was read. -/
structure ParserState where
  tokens : List PlacedToken
  /-- How many parts of the statement are read but not yet completed. -/
  depth : Nat := 0
  /-- A fault in the part that was read. -/
  pending : Option StatementFault := none
  deriving Repr, DecidableEq

/-- Reads a part of a statement. -/
abbrev Parser := StateT ParserState (Except StatementFault)

namespace Parser

/-- The largest number of parts that are not completed. -/
def maxDepth : Nat := 99

/-- Refuses the next token. -/
def unexpected : Parser α := do
  match (← get).tokens with
  | [] => throw { fault := .incompleteInput }
  | t :: _ =>
    let text := String.ofList t.token.raw
    let fault : Fault := if t.token.kind = .illegal then .unrecognizedToken text else .near text
    throw { fault, place := some t.place }

/-- A fault that is told once the next token fits. A later one takes its place. -/
def fail (f : StatementFault) : Parser Unit := modify fun s => { s with pending := some f }

/-- The next token, which stays. -/
def peek? : Parser (Option Token) := return (← get).tokens.head?.map PlacedToken.token

/-- The text from the next token on; empty after the last one. -/
def source : Parser (List Char) := return ((← get).tokens.head?.map PlacedToken.source).getD []

/-- The place of the next token. -/
def place : Parser Nat := return ((← get).tokens.head?.map PlacedToken.place).getD 0

/-- One more part that is not completed. -/
def deepen : Parser Unit := do
  let s ← get
  if maxDepth ≤ s.depth then throw { fault := .other "parser stack overflow" }
  set { s with depth := s.depth + 1 }

/-- Takes the next token. -/
def skip : Parser Unit := do
  match (← get).pending with
  | some f => throw f
  | none =>
    deepen
    modify fun s => { s with tokens := s.tokens.drop 1 }

/-- What a rule reads, as one part. -/
def part (rule : Parser α) : Parser α := do
  let depth := (← get).depth
  let v ← rule
  modify fun s => { s with depth := depth + 1 }
  return v

/-- Whether the next token is a word or a sign. -/
def isNext (word : String) : Parser Bool := return (← peek?).any fun t => t.isWord word

/-- Takes the next token if it is a word or a sign. -/
def accept (word : String) : Parser Bool := do
  if ← isNext word then
    skip
    return true
  else return false

/-- Takes a word or a sign that has to be next. -/
def expect (word : String) : Parser Unit := do
  if !(← accept word) then unexpected

/-- Takes the next token for what `pick` makes of it. -/
def take (pick : Token → Option α) : Parser α := do
  match (← peek?).bind pick with
  | some v =>
    skip
    return v
  | none => unexpected

/-- The name of a column, a table or a constraint. -/
def name : Parser String := part (take Token.name?)

/-- A statement that removes all rows of a table, with the mark that may end it. -/
def emptying : Parser String := do
  expect "DELETE"
  expect "FROM"
  let table ← name
  if (← peek?).isSome then expect ";"
  return table

end Parser

end EntityEngine.Sql
