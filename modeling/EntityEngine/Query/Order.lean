import EntityEngine.Entity.Identifier
import EntityEngine.Query.Filter

/-!
The order of a result: fields with directions, separated by commas. One clause that cannot be read
makes the whole text void.
-/

namespace EntityEngine

open Text

inductive Direction where
  | ascending
  | descending
  deriving Repr, DecidableEq

namespace Direction

/-- The word for the direction in a statement. -/
def name : Direction → String
  | ascending => "ASC"
  | descending => "DESC"

/-- The direction that a word in capitals or small letters asks for. -/
def parse? (s : String) : Option Direction :=
  if fold s = "asc" then some ascending
  else if fold s = "desc" then some descending
  else none

end Direction

structure OrderClause where
  field : String
  direction : Direction
  deriving Repr, DecidableEq

namespace OrderClause

/-- One clause: a field and perhaps a direction, with white space between and around them. -/
def parse? (clause : List Char) : Option OrderClause :=
  match (words clause).map String.ofList with
  | [field] => if isIdentifier field then some ⟨field, .ascending⟩ else none
  | [field, direction] =>
    if isIdentifier field then (Direction.parse? direction).map (⟨field, ·⟩) else none
  | _ => none

/-- The clauses in order, or the first that is none, without the white space around it. -/
def parseAll : List (List Char) → Except QueryFault (List OrderClause)
  | [] => .ok []
  | part :: parts =>
    match parse? part with
    | none => .error (.badOrder (trim (String.ofList part)))
    | some c => do
      let cs ← parseAll parts
      return c :: cs

/-- The clauses that a text lists. -/
def parseList (s : String) : Except QueryFault (List OrderClause) :=
  parseAll (splitAt ',' s.toList)

end OrderClause

end EntityEngine
