import EntityEngine.Query.Filter
import EntityEngine.Sql.Function

/-!
Expressions whose names are known: what they give on a row, and whether they hold there. As a value
an operator looks at both of its sides; as a condition it leaves out the side that cannot change
the answer.
-/

namespace EntityEngine.Sql

mutual

inductive Expression where
  | literal (v : Value)
  /-- The value of a column, by its place. -/
  | column (place : Nat)
  | rowNumber
  /-- A part that cannot be evaluated. -/
  | refused (f : Fault)
  | negative (e : Expression)
  | complement (e : Expression)
  | not (e : Expression)
  | isNull (e : Expression)
  /-- Whether an expression is true, or false, and not null. -/
  | isTruth (b : Bool) (e : Expression)
  /-- A comparison under an affinity and a collation. -/
  | compare (op : Comparison) (a : Affinity) (c : Collation) (l r : Expression)
  /-- Equal, null being equal to null. -/
  | same (a : Affinity) (c : Collation) (l r : Expression)
  | and (l r : Expression)
  | or (l r : Expression)
  | oneOf (a : Affinity) (c : Collation) (e : Expression) (choices : Expressions)
  | arithmetic (op : Arithmetic) (l r : Expression)
  | concat (l r : Expression)
  | cast (a : Affinity) (e : Expression)
  | call (f : Function) (c : Collation) (arguments : Expressions)
  /-- The first value that is not null. -/
  | coalesce (es : Expressions)
  /-- Conditions and results in turn, then the result for all other cases. -/
  | cases (parts : Expressions)
  deriving Repr, DecidableEq

inductive Expressions where
  | nil
  | cons (e : Expression) (es : Expressions)
  deriving Repr, DecidableEq

end

def Expressions.ofList : List Expression → Expressions
  | [] => .nil
  | e :: es => .cons e (ofList es)

/-- Whether an order of two values answers a comparison. -/
def answers (op : Comparison) (o : Ordering) : Bool :=
  match op with
  | .eq => o.isEq
  | .ne => !o.isEq
  | .gt => o.isGT
  | .ge => o.isGE
  | .lt => o.isLT
  | .le => o.isLE

/-- Whether two values compare as asked under an affinity and a collation. Nothing compares with
null. -/
def compared (op : Comparison) (a : Affinity) (c : Collation) (v w : Value) : Value :=
  if v.isNull || w.isNull then .null
  else
    let (v, w) := a.aligned v w
    .ofBool (answers op (v.orderBy c w))

/-- What an expression means. -/
structure Meaning where
  value : Setting → Except Fault Value
  /-- Whether the expression holds, with the answer for null. -/
  holds : Setting → Bool → Except Fault Bool
  /-- Whether a function of JSON has made a value of the expression. -/
  isJson : Value → Bool := fun _ => false

namespace Meaning

/-- The meaning that a value has. -/
def ofValue (value : Setting → Except Fault Value) : Meaning where
  value
  holds s onNull := do return (← value s).truth?.getD onNull

/-- The meaning of an operator on one value. -/
def map (f : Value → Value) (m : Meaning) : Meaning := .ofValue fun s => do return f (← m.value s)

/-- The meaning of an operator on two values. -/
def both (f : Value → Value → Value) (m n : Meaning) : Meaning :=
  .ofValue fun s => do
    let v ← m.value s
    return f v (← n.value s)

def not (m : Meaning) : Meaning where
  value s := do return (← m.value s).negation
  holds s onNull := do return !(← m.holds s !onNull)

def and (m n : Meaning) : Meaning where
  value := (both Value.conjunction m n).value
  holds s onNull := do if ← m.holds s onNull then n.holds s onNull else return false

def or (m n : Meaning) : Meaning where
  value := (both Value.disjunction m n).value
  holds s onNull := do if ← m.holds s onNull then return true else n.holds s onNull

def isTruth (b : Bool) (m : Meaning) : Meaning where
  value s := do return .ofBool ((← m.value s).truth? == some b)
  holds s _ := do return (← m.holds s !b) == b

/-- Whether a value is the same as one of some others, one after the other. -/
def isAmong (a : Affinity) (c : Collation) (v : Value) (found : Value) :
    List Meaning → Setting → Except Fault Value
  | [], _ => .ok found
  | m :: ms, s => do
    match compared .eq a c v (← m.value s) with
    | .null => isAmong a c v .null ms s
    | w => if w.truth? = some true then return w else isAmong a c v found ms s

/-- The values that a function is given. -/
def arguments : List Meaning → Setting → Except Fault (List Argument)
  | [], _ => .ok []
  | m :: ms, s => do
    let v ← m.value s
    return ⟨v, m.isJson v⟩ :: (← arguments ms s)

/-- The first value that is not null. -/
def firstKnown : List Meaning → Setting → Except Fault Value
  | [], _ => .ok .null
  | m :: ms, s => do
    let v ← m.value s
    if v.isNull then firstKnown ms s else return v

/-- The result behind the first condition that holds, or the last result. -/
def firstCase : List Meaning → Setting → Except Fault Value
  | [], _ => .ok .null
  | [m], s => m.value s
  | condition :: result :: ms, s => do
    if ← condition.holds s false then result.value s else firstCase ms s

end Meaning

mutual

def Expression.meaning : Expression → Meaning
  | .literal v => .ofValue fun _ => .ok v
  | .column i => .ofValue fun s => .ok ((s.values[i]?).getD .null)
  | .rowNumber => .ofValue fun s => .ok (.integer s.rowNumber)
  | .refused f => .ofValue fun _ => .error f
  | .negative e => e.meaning.map (Arithmetic.subtract.apply (.integer 0))
  | .complement e => e.meaning.map Value.complement
  | .not e => e.meaning.not
  | .isNull e => e.meaning.map fun v => .ofBool v.isNull
  | .isTruth b e => e.meaning.isTruth b
  | .compare op a c l r => .both (compared op a c) l.meaning r.meaning
  | .same a c l r =>
    .both (fun v w => let (v, w) := a.aligned v w; .ofBool (v.orderBy c w).isEq) l.meaning r.meaning
  | .and l r => l.meaning.and r.meaning
  | .or l r => l.meaning.or r.meaning
  | .oneOf a c e choices =>
    .ofValue fun s => do
      let v ← e.meaning.value s
      if v.isNull then return .null
      else Meaning.isAmong a c v (.ofBool false) choices.meanings s
  | .arithmetic op l r => .both op.apply l.meaning r.meaning
  | .concat l r => .both Value.concat l.meaning r.meaning
  | .cast a e => e.meaning.map (Value.castTo a)
  | .call f c arguments =>
    { Meaning.ofValue fun s => do f.apply c s (← Meaning.arguments arguments.meanings s) with
      isJson := f.givesJson }
  | .coalesce es => .ofValue (Meaning.firstKnown es.meanings)
  | .cases parts => .ofValue (Meaning.firstCase parts.meanings)

def Expressions.meanings : Expressions → List Meaning
  | .nil => []
  | .cons e es => e.meaning :: es.meanings

end

mutual

/-- The faults of the parts that cannot be evaluated, in the order of the parts. -/
def Expression.faults : Expression → List Fault
  | .refused f => [f]
  | .literal _ | .column _ | .rowNumber => []
  | .negative e | .complement e | .not e | .isNull e | .isTruth _ e | .cast _ e => e.faults
  | .compare _ _ _ l r | .same _ _ l r | .and l r | .or l r | .arithmetic _ l r | .concat l r =>
    l.faults ++ r.faults
  | .oneOf _ _ e choices => e.faults ++ choices.faults
  | .call _ _ es | .coalesce es | .cases es => es.faults

def Expressions.faults : Expressions → List Fault
  | .nil => []
  | .cons e es => e.faults ++ es.faults

end

mutual

/-- The places of the columns that an expression looks at; none stands for the number of the
row. -/
def Expression.sources : Expression → List (Option Nat)
  | .column i => [some i]
  | .rowNumber => [none]
  | .literal _ | .refused _ => []
  | .negative e | .complement e | .not e | .isNull e | .isTruth _ e | .cast _ e => e.sources
  | .compare _ _ _ l r | .same _ _ l r | .and l r | .or l r | .arithmetic _ l r | .concat l r =>
    l.sources ++ r.sources
  | .oneOf _ _ e choices => e.sources ++ choices.sources
  | .call _ _ es | .coalesce es | .cases es => es.sources

def Expressions.sources : Expressions → List (Option Nat)
  | .nil => []
  | .cons e es => e.sources ++ es.sources

end

/-- The places of the columns that an expression looks at. -/
def Expression.columns (e : Expression) : List Nat := e.sources.filterMap id

/-- The value of an expression. -/
def Expression.value (e : Expression) (s : Setting) : Except Fault Value := e.meaning.value s

/-- A condition that every row of a table has to meet, and its text in messages. -/
structure Check where
  text : String
  condition : Expression
  deriving Repr, DecidableEq

/-- Whether a row meets a condition; one that is null is met. -/
def Check.admits (k : Check) (s : Setting) : Except Fault Bool := k.condition.meaning.holds s true

end EntityEngine.Sql
