import EntityEngine.Entity.Identifier
import EntityEngine.Query.Filter

/-!
Reading a filter: one call of a text test, `name(field, 'text')`, or one comparison,
`field op value`, with a value in quotes or bare. A quote inside quotes is written twice. White
space is free between the parts.
-/

namespace EntityEngine.Filter

open Text

/-- The longest run of identifier characters at the start of a text, and the rest. -/
def word (s : List Char) : List Char × List Char := s.span isIdentifierChar

/-- The text after an opening quote up to the quote that closes it; none if nothing does. -/
def unquote : List Char → Option (List Char × List Char)
  | [] => none
  | '\'' :: '\'' :: r => (unquote r).map fun (s, rest) => ('\'' :: s, rest)
  | c :: r => if c = '\'' then some ([], r) else (unquote r).map fun (s, rest) => (c :: s, rest)

/-- Where the rest of an input starts, in bytes. -/
def offset (input rest : List Char) : Nat := byteLength input - byteLength rest

/-- A text in quotes. -/
def quotedText (input s : List Char) : Except QueryFault (String × List Char) :=
  match s with
  | '\'' :: r =>
    match unquote r with
    | some (t, rest) => .ok (String.ofList t, rest)
    | none => .error (.stringUnterminated (offset input s))
  | _ => .error (.stringExpected (offset input s))

/-- A field's name. -/
def fieldName (input s : List Char) : Except QueryFault (String × List Char) :=
  let (w, rest) := word s
  if isIdentifierText w then .ok (String.ofList w, rest)
  else .error (.fieldExpected (offset input s))

/-- The text after an expected character. -/
def expect (c : Char) (input : List Char) : List Char → Except QueryFault (List Char)
  | [] => .error (.expected c (offset input []))
  | d :: r => if d = c then .ok r else .error (.expected c (offset input (d :: r)))

/-- What follows the opening parenthesis of a text test. -/
def arguments (input : List Char) (t : TextTest) (s : List Char) :
    Except QueryFault (Filter × List Char) := do
  let (field, s) ← fieldName input (trimLeft s)
  let s ← expect ',' input (trimLeft s)
  let (value, s) ← quotedText input (trimLeft s)
  let s ← expect ')' input (trimLeft s)
  return (.test field t value, s)

/-- The value of a comparison. -/
def comparedValue (input : List Char) (s : List Char) :
    Except QueryFault (Literal × List Char) :=
  match s with
  | [] => .error .valueMissing
  | c :: r =>
    if c = '\'' then do
      let (value, rest) ← quotedText input (c :: r)
      return (.quoted value, rest)
    else
      let (value, rest) := (c :: r).span fun c => !isBlank c
      .ok (.bare (String.ofList value), rest)

/-- What follows the field of a comparison. -/
def comparison (input : List Char) (field : String) (s : List Char) :
    Except QueryFault (Filter × List Char) := do
  let (w, s) := word s
  if w.isEmpty then throw .valueMissing
  match Comparison.parse? (String.ofList w) with
  | none => throw (.unknownOperator (String.ofList w))
  | some op =>
    let (value, s) ← comparedValue input (trimLeft s)
    return (.compare field op value, s)

/-- The filter that a text starts with. -/
def predicate (input s : List Char) : Except QueryFault (Filter × List Char) :=
  let (head, r) := word s
  if head.isEmpty then .error (.fieldExpected (offset input s))
  else
    match trimLeft r with
    | '(' :: r =>
      match TextTest.parse? (String.ofList head) with
      | some t => arguments input t r
      | none => .error (.unknownFunction (String.ofList head))
    | r =>
      if isIdentifierText head then comparison input (String.ofList head) r
      else .error (.fieldExpected (offset input s))

/-- The filter that a whole text writes. -/
def parse (s : String) : Except QueryFault Filter := do
  let input := s.toList
  let start := trimLeft input
  if start.isEmpty then throw .empty
  let (filter, rest) ← predicate input start
  let rest := trimLeft rest
  if rest.isEmpty then return filter else throw (.trailing (String.ofList rest))

end EntityEngine.Filter
