import EntityEngine.Number.Numeral

/-!
Sums and products of machine words. A result that does not fit ends the computation.
-/

namespace EntityEngine.Number

inductive Overflow where
  | add
  | multiply
  deriving Repr, DecidableEq

def Overflow.message : Overflow → String
  | .add => "attempt to add with overflow"
  | .multiply => "attempt to multiply with overflow"

/-- The sum of two words of 32 bits. -/
def add32 (a b : Nat) : Except Overflow Nat :=
  if a + b ≤ maxNat32 then .ok (a + b) else .error .add

/-- The product of two integers of 64 bits. -/
def multiply64 (a b : Int) : Except Overflow Int :=
  if inInt64 (a * b) then .ok (a * b) else .error .multiply

end EntityEngine.Number
