import EntityEngine.Query.Literal
import EntityEngine.Text.Quoted

/-!
The one predicate of a filter: a comparison of a field with a literal, or a test of a part of its
text.
-/

namespace EntityEngine

open Text

inductive Comparison where
  | eq
  | ne
  | gt
  | ge
  | lt
  | le
  deriving Repr, DecidableEq

namespace Comparison

def all : List Comparison := [eq, ne, gt, ge, lt, le]

/-- The word for the comparison in a filter. -/
def word : Comparison → String
  | eq => "eq"
  | ne => "ne"
  | gt => "gt"
  | ge => "ge"
  | lt => "lt"
  | le => "le"

def name : Comparison → String
  | eq => "Eq"
  | ne => "Ne"
  | gt => "Gt"
  | ge => "Ge"
  | lt => "Lt"
  | le => "Le"

/-- The sign for the comparison in a statement. -/
def sign : Comparison → String
  | eq => "="
  | ne => "<>"
  | gt => ">"
  | ge => ">="
  | lt => "<"
  | le => "<="

/-- Whether the comparison is of order, which is the order of numbers. -/
def isOrdering : Comparison → Bool
  | gt | ge | lt | le => true
  | eq | ne => false

/-- The comparison with a word, in capitals or small letters. -/
def parse? (s : String) : Option Comparison := all.find? fun c => sameFold c.word s

end Comparison

inductive TextTest where
  | contains
  | startsWith
  | endsWith
  deriving Repr, DecidableEq

namespace TextTest

def all : List TextTest := [contains, startsWith, endsWith]

/-- The function for the test in a filter. -/
def word : TextTest → String
  | contains => "contains"
  | startsWith => "startswith"
  | endsWith => "endswith"

def name : TextTest → String
  | contains => "Contains"
  | startsWith => "StartsWith"
  | endsWith => "EndsWith"

/-- The test with a function's name, in capitals or small letters. -/
def parse? (s : String) : Option TextTest := all.find? fun t => sameFold t.word s

/-- The wildcards of a pattern, and the character that takes their meaning away. -/
def isPatternChar (c : Char) : Bool := c == '%' || c == '_' || c == '\\'

/-- A text as a pattern that matches it alone. -/
def literalPattern (s : List Char) : List Char :=
  s.flatMap fun c => if isPatternChar c then ['\\', c] else [c]

def patternChars (t : TextTest) (s : List Char) : List Char :=
  match t with
  | contains => '%' :: (literalPattern s ++ ['%'])
  | startsWith => literalPattern s ++ ['%']
  | endsWith => '%' :: literalPattern s

/-- The pattern of the texts that pass the test for a value. -/
def pattern (t : TextTest) (value : String) : String :=
  String.ofList (t.patternChars value.toList)

end TextTest

inductive Filter where
  | compare (field : String) (op : Comparison) (value : Literal)
  | test (field : String) (test : TextTest) (value : String)
  deriving Repr, DecidableEq

namespace Filter

def field : Filter → String
  | compare f _ _ => f
  | test f _ _ => f

/-- The filter in words. -/
def message : Filter → String
  | compare f op value => f ++ " " ++ op.name ++ " " ++ quoted value.text
  | test f t value => t.name ++ "(" ++ f ++ ", " ++ quoted value ++ ")"

end Filter

/-- Why a filter or an order cannot be read. Places are counted in bytes from the start. -/
inductive QueryFault where
  | empty
  | fieldExpected (offset : Nat)
  | unknownFunction (word : String)
  | unknownOperator (word : String)
  | expected (char : Char) (offset : Nat)
  | stringExpected (offset : Nat)
  | stringUnterminated (offset : Nat)
  | valueMissing
  | trailing (rest : String)
  | badOrder (clause : String)
  deriving Repr, DecidableEq

namespace QueryFault

/-- A character in single quotes. -/
def quotedChar (c : Char) : String := "'" ++ String.ofList [c] ++ "'"

def message : QueryFault → String
  | empty => "empty expression"
  | fieldExpected offset => "expected a field name at offset " ++ toString offset
  | unknownFunction word => "unknown function " ++ quoted word
  | unknownOperator word => "unknown operator " ++ quoted word
  | expected char offset =>
    "expected " ++ quotedChar char ++ " at offset " ++ toString offset
  | stringExpected offset => "expected a quoted string at offset " ++ toString offset
  | stringUnterminated offset => "unterminated string starting at offset " ++ toString offset
  | valueMissing => "missing comparison value"
  | trailing rest => "unexpected trailing input " ++ quoted rest
  | badOrder clause => "invalid orderby clause " ++ quoted clause

end QueryFault

end EntityEngine
