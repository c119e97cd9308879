import EntityEngine.Number.Numeral
import EntityEngine.Text.Blank

/-!
Values as a filter writes them, quoted or bare, and the scalars they stand for.
-/

namespace EntityEngine

open Number Text

inductive Scalar where
  | integer (n : Int)
  | real (x : Float)
  | text (s : String)
  deriving Repr, DecidableEq

inductive Literal where
  | quoted (s : String)
  | bare (s : String)
  deriving Repr, DecidableEq

/-- The number that a text is, blanks around it apart: an integer of 64 bits if it is one, else a
finite double. -/
def number? (s : String) : Option Scalar :=
  let s := trim s
  match int64? s with
  | some n => some (.integer n)
  | none => (finite? s).map .real

namespace Literal

def text : Literal → String
  | quoted s => s
  | bare s => s

/-- The number that the text is, quoted or not. -/
def number? (l : Literal) : Option Scalar := EntityEngine.number? l.text

/-- What an equality compares with: a number if the text is one, 1 or 0 for a bare `true` or
`false`, and the text itself otherwise. -/
def scalar (l : Literal) : Scalar :=
  match l.number? with
  | some n => n
  | none =>
    match l with
    | bare s =>
      if sameFold s "true" then .integer 1
      else if sameFold s "false" then .integer 0
      else .text s
    | quoted s => .text s

end Literal

end EntityEngine
