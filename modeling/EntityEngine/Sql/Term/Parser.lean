import EntityEngine.Sql.Parser
import EntityEngine.Sql.Term

/-!
Reading an expression. Operators bind in levels, from `OR` to `COLLATE`, each level from left to
right. What names and functions mean is found out later, when all columns are known.
-/

namespace EntityEngine.Sql

/-- The most arguments that a function takes. -/
def maxArguments : Nat := 127

/-- The words for the current time, each a function without arguments. -/
def clockWords : List String := ["CURRENT_TIMESTAMP", "CURRENT_DATE", "CURRENT_TIME"]

namespace Term

/-- A condition that is a zero or the word for a truth that never holds. -/
def isNever : Term → Bool
  | number raw _ => raw.all (· = '0')
  | truth b => !b
  | _ => false

/-- Both of two conditions. One that never holds makes the other void. -/
def conjoin (a b : Term) : Term :=
  if a.isNever || b.isNever then number ['0'] 0 else and a b

def negate : Term → Term
  | positive e => negative e
  | e => negative e

def affirm : Term → Term
  | positive e => positive e
  | e => positive e

/-- No name, parameter or statement is part of the expression; the words for truth are no names. -/
def isConstant : Term → Bool
  | name s none _ => Text.sameFold s "true" || Text.sameFold s "false"
  | null _ | number _ _ | text _ _ | bytes _ _ | truth _ | raise => true
  | negative e | positive e | complement e | not e | isNull e | notNull e | collate e _ | cast e _ =>
    e.isConstant
  | or a b | and a b | compare _ a b | same a b | differ a b | arithmetic _ a b | concat a b =>
    a.isConstant && b.isConstant
  | between e low high => e.isConstant && low.isConstant && high.isConstant
  | call c es => !c.hasWindow && !c.hasFilter && areConstant es
  | oneOf e es => e.isConstant && areConstant es
  | row es | cases _ es => areConstant es
  | _ => false
where
  areConstant : List Term → Bool
    | [] => true
    | e :: es => e.isConstant && areConstant es

/-- Whether a value is one of a list. One constant is compared as it is. -/
def isOneOf (e : Term) (choices : List Term) : Term :=
  match e, choices with
  | _, [] => truth false
  | row _, _ => oneOf e choices
  | _, [c] => if c.isConstant then compare .eq e (positive c) else oneOf e choices
  | _, _ => oneOf e choices

/-- An equality in which null equals null. -/
def identical (a b : Term) : Term :=
  match b with
  | null _ => isNull a
  | _ => same a b

def distinct (a b : Term) : Term :=
  match b with
  | null _ => notNull a
  | _ => differ a b

end Term

/-- The operators with a value on either side, except those that are words, and their levels. -/
def signs : List (String × Nat × (Term → Term → Term)) := [
  ("OR", 0, .or), ("AND", 1, .conjoin), ("=", 3, .compare .eq), ("==", 3, .compare .eq),
  ("<>", 3, .compare .ne), ("!=", 3, .compare .ne), ("<", 4, .compare .lt),
  ("<=", 4, .compare .le), (">", 4, .compare .gt), (">=", 4, .compare .ge),
  ("&", 5, .arithmetic .bitAnd), ("|", 5, .arithmetic .bitOr),
  ("<<", 5, .arithmetic .shiftLeft), (">>", 5, .arithmetic .shiftRight),
  ("+", 6, .arithmetic .add), ("-", 6, .arithmetic .subtract), ("*", 7, .arithmetic .multiply),
  ("/", 7, .arithmetic .divide), ("%", 7, .arithmetic .remainder), ("||", 8, .concat)]

/-- The level of tests that are written in words. -/
def testLevel : Nat := 3

/-- The operator that a token is, with its level. -/
def operator? (t : Token) : Option (Nat × (Term → Term → Term)) :=
  (signs.find? fun (word, _, _) => t.isWord word).map Prod.snd

/-- The words of tests that are functions of their two sides. -/
def testWords : List String := ["LIKE", "GLOB", "REGEXP", "MATCH"]

namespace Parser

/-- The value of a token that writes one. -/
def literal? (place : Nat) (t : Token) : Option Term :=
  match t.kind with
  | .number => some (.number t.raw place)
  | .text s => some (.text (String.ofList s) place)
  | .bytes => some (.bytes t.raw place)
  | .variable => some (.parameter place)
  | .word => if t.isWord "NULL" then some (.null place) else none
  | _ => none

/-- The name of a token with its quote. -/
def quotedOrBare? (t : Token) : Option (String × Option Char) :=
  match t.quotedName? with
  | some s => some (s, t.raw.head?)
  | none => t.bareName?.map (·, none)

def signedNumber : Parser Unit := part do
  if !(← accept "+") then discard <| accept "-"
  take fun t => if t.kind = .number then some () else none

/-- What is left of the parts of a rule once it is complete. -/
def complete (depth : Nat) : Parser Unit := modify fun s => { s with depth := depth + 1 }

/-- Takes some words as one part. -/
def skipWords (depth : Nat) : Nat → Parser Unit
  | 0 => return
  | n + 1 => do
    skip
    complete depth
    skipWords depth n

/-- A type as it is written, from its first word to its last sign; empty if there is none. -/
def typeText : Parser (List Char) := part do
  let before := (← get).tokens
  let words := (before.takeWhile fun t => t.token.isTypeWord).length
  if words = 0 then deepen
  else
    skipWords (← get).depth words
    if ← accept "(" then
      signedNumber
      if ← accept "," then signedNumber
      expect ")"
  let taken := before.take (before.length - (← get).tokens.length)
  match taken.head?, taken.getLast? with
  | some first, some last =>
    let rest := last.source.length - last.token.raw.length
    return first.source.take (first.source.length - rest)
  | _, _ => return []

/-- Tokens up to the closing parenthesis that belongs to one before them, which stays. -/
def skipInside : Nat → Nat → Parser Unit
  | 0, _ => unexpected
  | fuel + 1, open_ => do
    match ← peek? with
    | none => unexpected
    | some t =>
      if t.isWord ")" && open_ = 0 then return
      if t.kind = .illegal then unexpected
      part skip
      skipInside fuel (if t.isWord "(" then open_ + 1 else if t.isWord ")" then open_ - 1 else open_)

/-- Whether a statement that selects rows is next. -/
def isSelection : Parser Bool := do
  let next ← peek?
  return ["SELECT", "VALUES", "WITH"].any fun word => next.any fun t => t.isWord word

/-- The rest of a statement in parentheses, with the closing one. -/
def selection : Parser Unit := do
  skipInside ((← get).tokens.length + 1) 0
  expect ")"

/-- Tells of a function with too many arguments. -/
def checkArguments (c : Call) (arguments : List Term) : Parser Unit := do
  if maxArguments < arguments.length then
    fail { fault := .other ("too many arguments on function " ++ c.name), place := some c.place }

mutual

/-- An expression of operators of a level or above; the fuel bounds its depth. -/
def level : Nat → Nat → Parser Term
  | 0, _ => unexpected
  | fuel + 1, n => do
    let depth := (← get).depth
    let left ← part (primary fuel)
    operators fuel depth n left

/-- What an expression is followed by, on a level or above. -/
def operators : Nat → Nat → Nat → Term → Parser Term
  | 0, _, _, _ => unexpected
  | fuel + 1, depth, n, left => do
    match ← peek? with
    | none => return left
    | some t =>
      match operator? t with
      | some (m, f) =>
        if m < n then return left
        skip
        let right ← level fuel (m + 1)
        complete depth
        operators fuel depth n (f left right)
      | none =>
        let here ← place
        if t.isWord "->" || t.isWord "->>" then
          skip
          let right ← level fuel 9
          complete depth
          let c : Call := { name := String.ofList t.raw, place := here }
          operators fuel depth n (.call c [left, right])
        else if t.isWord "COLLATE" then
          skip
          let collation ← take fun t =>
            if t.isTypeWord then t.name? else none
          complete depth
          operators fuel depth n (.collate left collation)
        else if testLevel < n then return left
        else
          match ← test fuel left with
          | some e =>
            complete depth
            operators fuel depth n e
          | none => return left

/-- A test of a value that is written in words, if one follows. -/
def test : Nat → Term → Parser (Option Term)
  | 0, _ => unexpected
  | fuel + 1, left => do
    if ← accept "ISNULL" then return some (.isNull left)
    if ← accept "NOTNULL" then return some (.notNull left)
    if ← accept "IS" then
      let negated ← accept "NOT"
      let isDistinct ← accept "DISTINCT"
      if isDistinct then expect "FROM"
      let right ← level fuel 4
      return some (if negated = isDistinct then .identical left right else .distinct left right)
    let depth := (← get).depth
    let negated ← accept "NOT"
    if negated then
      if ← accept "NULL" then return some (.notNull left)
    let finish (e : Term) : Option Term := some (if negated then .not e else e)
    let here ← place
    match ← peek? with
    | none => if negated then unexpected else return none
    | some t =>
      if testWords.any t.isWord then
        skip
        complete depth
        let pattern ← level fuel 4
        let c : Call := { name := String.ofList t.raw, place := here }
        if ← accept "ESCAPE" then
          let escape ← level fuel 4
          return finish (.call c [pattern, left, escape])
        return finish (.call c [pattern, left])
      else if ← accept "BETWEEN" then
        complete depth
        let inner := (← get).depth
        let low ← disjunction fuel inner (← level fuel 2)
        expect "AND"
        let high ← level fuel 4
        return finish (.between left low high)
      else if ← accept "IN" then
        complete depth
        if ← accept "(" then
          if ← isSelection then
            selection
            return finish (.oneOfRows left)
          let choices ← arguments fuel
          expect ")"
          return finish (.isOneOf left choices)
        discard name
        if ← accept "." then discard name
        if ← accept "(" then
          discard <| arguments fuel
          expect ")"
        return finish (.oneOfRows left)
      else if negated then unexpected
      else return none

/-- What the lower bound of a range may be followed by: other values that may hold instead. -/
def disjunction : Nat → Nat → Term → Parser Term
  | 0, _, _ => unexpected
  | fuel + 1, depth, left => do
    if ← accept "OR" then
      let right ← level fuel 1
      complete depth
      disjunction fuel depth (.or left right)
    else return left

/-- Expressions between commas; none before a closing parenthesis. -/
def arguments : Nat → Parser (List Term)
  | 0 => unexpected
  | fuel + 1 => do
    if ← isNext ")" then
      deepen
      return []
    listed fuel (← get).depth

/-- Expressions between commas. -/
def listed : Nat → Nat → Parser (List Term)
  | 0, _ => unexpected
  | fuel + 1, depth => do
    let e ← level fuel 0
    complete depth
    if ← accept "," then return e :: (← listed fuel depth)
    return [e]

/-- The order of the arguments of a call, which is told after them. -/
def ordering : Nat → Parser Unit
  | 0 => unexpected
  | fuel + 1 => do
    discard <| level fuel 0
    if !(← accept "ASC") then discard <| accept "DESC"
    if ← accept "NULLS" then
      if !(← accept "FIRST") then expect "LAST"
    if ← accept "," then ordering fuel

/-- What follows the arguments of a call outside its parentheses: a filter and a window. -/
def extras : Nat → Call → Parser Call
  | 0, _ => unexpected
  | fuel + 1, c => do
    let tokens := (← get).tokens
    let follows (i : Nat) (word : String) : Bool :=
      (tokens[i]?).any fun t => t.token.isWord word
    let isNamed (i : Nat) : Bool := (tokens[i]?).any fun t => t.token.bareName?.isSome
    if !c.hasFilter && follows 0 "FILTER" && follows 1 "(" then
      skip
      skip
      expect "WHERE"
      discard <| level fuel 0
      expect ")"
      extras fuel { c with hasFilter := true }
    else if follows 0 "OVER" && (follows 1 "(" || isNamed 1) then
      skip
      if ← accept "(" then
        skipInside (tokens.length + 1) 0
        expect ")"
      else skip
      return { c with hasWindow := true }
    else return c

/-- The rest of a call behind the opening parenthesis. -/
def call : Nat → Call → Parser Term
  | 0, _ => unexpected
  | fuel + 1, c => do
    if ← accept "*" then
      expect ")"
      return .call (← extras fuel c) []
    if !(← accept "DISTINCT") then
      if !(← accept "ALL") then deepen
    let es ← arguments fuel
    checkArguments c es
    if ← accept "ORDER" then
      expect "BY"
      ordering fuel
      expect ")"
      return .call (← extras fuel { c with hasOrder := true }) es
    expect ")"
    return .call (← extras fuel c) es

/-- The conditions of a case with their results, up to its last word. -/
def branches : Nat → Nat → Parser (List Term)
  | 0, _ => unexpected
  | fuel + 1, depth => do
    expect "WHEN"
    let condition ← level fuel 0
    expect "THEN"
    let result ← level fuel 0
    complete depth
    if ← isNext "WHEN" then return condition :: result :: (← branches fuel depth)
    if ← accept "ELSE" then
      let otherwise ← level fuel 0
      expect "END"
      return [condition, result, otherwise]
    expect "END"
    return [condition, result]

/-- A value, a name, a call, an expression in parentheses, or one of these after a sign. -/
def primary : Nat → Parser Term
  | 0 => unexpected
  | fuel + 1 => do
    let here ← place
    match ← peek? with
    | none => unexpected
    | some t =>
      if ← accept "(" then
        if ← isSelection then
          selection
          return .selected
        let es ← listed fuel (← get).depth
        expect ")"
        match es with
        | [e] => return e
        | es => return .row es
      if ← accept "-" then return (← part (primary fuel)).negate
      if ← accept "+" then return (← part (primary fuel)).affirm
      if ← accept "~" then return .complement (← part (primary fuel))
      if ← accept "NOT" then return .not (← level fuel testLevel)
      if ← accept "EXISTS" then
        expect "("
        if !(← isSelection) then unexpected
        selection
        return .anySelected
      if ← accept "CASE" then
        if ← isNext "WHEN" then
          deepen
          return .cases false (← branches fuel (← get).depth)
        let base ← level fuel 0
        return .cases true (base :: (← branches fuel (← get).depth))
      if ← accept "CAST" then
        expect "("
        let e ← level fuel 0
        expect "AS"
        let type ← typeText
        expect ")"
        return .cast e (String.ofList type)
      if ← accept "RAISE" then
        expect "("
        if !(← accept "IGNORE") then
          take fun t =>
            if ["ROLLBACK", "ABORT", "FAIL"].any t.isWord then some () else none
          expect ","
          discard name
        expect ")"
        return .raise
      if clockWords.any t.isWord then
        skip
        return .call { name := String.ofList t.raw, place := here } []
      let next := ((← get).tokens[1]?).map PlacedToken.token
      let isNextSign (sign : String) : Bool := next.any fun t => t.isWord sign
      match t.name?, literal? here t with
      | some s, literal =>
        if isNextSign "." then
          skip
          skip
          let second ← take Token.name?
          if ← accept "." then
            let third ← take Token.name?
            return .member (some s) second third here
          return .member none s second here
        match quotedOrBare? t, literal with
        | some (s, quote), _ =>
          skip
          if isNextSign "(" then
            skip
            call fuel { name := s, place := here }
          else return .name s quote here
        | none, some e =>
          skip
          return e
        | none, none => unexpected
      | none, some e =>
        skip
        return e
      | none, none => unexpected

end

/-- An expression. -/
def expression : Parser Term := do
  level (16 * ((← get).tokens.length + 1)) 0

end Parser

end EntityEngine.Sql
