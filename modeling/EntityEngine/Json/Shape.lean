import EntityEngine.Json.Reading

/-!
Forms that JSON input is expected to have. A value is read against a form in the order of its
text, so the first place that breaks the text or departs from the form decides the fault. The
result is a JSON value with every field of every record present.
-/

namespace EntityEngine.Json

open Number

/-- Why input does not fit: its text is no JSON, or its value has another form. -/
inductive InputFault where
  | malformed
  | mismatch
  deriving Repr, DecidableEq

/-- Whether a field of a record must be given. -/
inductive Presence where
  | required
  /-- May be missing or null, both meaning null. -/
  | optional
  /-- May be missing, which means this value, but not null. -/
  | defaulting (value : Json)

inductive Shape where
  | text
  | integer (low high : Int)
  | bool
  /-- One of some names. -/
  | name (choices : List String)
  | any
  /-- An object with values of any kind. -/
  | map
  | list (item : Shape)
  | record (fields : List (String × Presence × Shape))

namespace Shape

def int64 : Shape := .integer minInt64 maxInt64

def int32 : Shape := .integer (-0x80000000) 0x7fffffff

def nat32 : Shape := .integer 0 maxNat32

def nat16 : Shape := .integer 0 0xffff

/-- The fault of a value that is not what was expected: one that cannot be read at all is
malformed. -/
def unexpected : Reading → InputFault
  | .broken => .malformed
  | .number none => .malformed
  | .text none => .malformed
  | _ => .mismatch

def whole (closed : Bool) (v : Json) : Except InputFault Json :=
  if closed then .ok v else .error .malformed

def readChoice (choices : List String) (s : String) : Except InputFault Json :=
  if choices.contains s then .ok (.text s) else .error .mismatch

/-- Reads a name written as the key of an object's one entry, whose value is null. -/
def readNameEntry (choices : List String) (closed : Bool) :
    List (Option String × Reading) → Except InputFault Json
  | (some s, v) :: es => do
    let name ← readChoice choices s
    match v with
    | .null => whole (closed && es.isEmpty) name
    | v => throw (unexpected v)
  | _ => .error .malformed

/-- The value of a record's field that is not given. -/
def missing : Presence → Except InputFault Json
  | .required => .error .mismatch
  | .optional => .ok .null
  | .defaulting v => .ok v

/-- The values of the fields that were read, with those of the others, in the order of the
fields. -/
def complete (read : List (String × Json)) :
    List (String × Presence × Shape) → Except InputFault (List (String × Json))
  | [] => .ok []
  | (field, presence, _) :: fields => do
    let v ← match read.lookup field with
      | some v => pure v
      | none => missing presence
    return (field, v) :: (← complete read fields)

/-- Reads a field's value; null is a value of an optional field. -/
def readField (read : Shape → Reading → Except InputFault Json) (presence : Presence)
    (shape : Shape) : Reading → Except InputFault Json
  | .null =>
    match presence with
    | .optional => .ok .null
    | _ => read shape .null
  | v => read shape v

/-- Reads the values of a record given in the order of its fields. Only fields with a default may
be left out at the end. -/
def readPositional (read : Shape → Reading → Except InputFault Json) (closed : Bool) :
    List (String × Presence × Shape) → List Reading → Except InputFault (List (String × Json))
  | [], _ => .ok []
  | (key, .defaulting d, _) :: fields, [] => do
    if closed then return (key, d) :: (← readPositional read closed fields [])
    else throw .malformed
  | _ :: _, [] => .error (if closed then .mismatch else .malformed)
  | (key, presence, shape) :: fields, v :: vs => do
    let v ← readField read presence shape v
    return (key, v) :: (← readPositional read closed fields vs)

/-- Reads the entries of a record in the order of the text. A field given twice is a mismatch, and
an entry under no field's name need only be whole. -/
def readNamed (read : Shape → Reading → Except InputFault Json)
    (fields : List (String × Presence × Shape)) (done : List (String × Json)) :
    List (Option String × Reading) → Except InputFault (List (String × Json))
  | [] => .ok done
  | (none, _) :: _ => .error .malformed
  | (some key, v) :: es =>
    match fields.lookup key with
    | none => if v.isWhole then readNamed read fields done es else .error .malformed
    | some (presence, shape) => do
      if (done.lookup key).isSome then throw .mismatch
      let v ← readField read presence shape v
      readNamed read fields ((key, v) :: done) es

/-- Reads a value against a form; `bound` limits the nesting of arrays and objects. -/
def read : (bound : Nat) → Shape → Reading → Except InputFault Json
  | 0, _, _ => .error .malformed
  | bound + 1, shape, v =>
    match shape, v with
    | .text, .text (some s) => .ok (.text s)
    | .integer low high, .number (some (.integer n)) =>
      if low ≤ n ∧ n ≤ high then .ok (.integer n) else .error .mismatch
    | .bool, .bool b => .ok (.bool b)
    | .name choices, .text (some s) => readChoice choices s
    | .name choices, .object es closed =>
      if bound = 0 then .error .malformed else readNameEntry choices closed es
    | .any, v => (v.toJson? (bound + 1)).elim (.error .malformed) .ok
    | .map, .object es closed =>
      ((Reading.object es closed).toJson? (bound + 1)).elim (.error .malformed) .ok
    | .list item, .array vs closed =>
      if bound = 0 then .error .malformed
      else do
        let vs ← vs.mapM (read bound item)
        whole closed (.array vs)
    | .record fields, .array vs closed =>
      if bound = 0 then .error .malformed
      else do
        let values ← readPositional (read bound) closed fields vs
        whole (closed && vs.length ≤ fields.length) (.object (ValueMap.ofEntries values))
    | .record fields, .object es closed =>
      if bound = 0 then .error .malformed
      else do
        let values ← readNamed (read bound) fields [] es
        if closed then return .object (ValueMap.ofEntries (← complete values fields))
        else throw .malformed
    | _, v => .error (unexpected v)

/-- Reads a whole text against a form. What follows the value is looked at only if the value
fits. -/
def readText (shape : Shape) (s : String) : Except InputFault Json := do
  let (v, ended) := Reading.ofText s
  let v ← shape.read Reading.nestingBound v
  if ended then return v else throw .malformed

/-- Reads a JSON value against a form. -/
def readJson (shape : Shape) (v : Json) : Except InputFault Json :=
  shape.read Reading.nestingBound (Reading.ofJson v)

end Shape

/-- The value under a key of an object. -/
def get (v : Json) (key : String) : Json :=
  match v with
  | .object es => (ValueMap.get? es key).getD .null
  | _ => .null

def text? : Json → Option String
  | .text s => some s
  | _ => none

def integer? : Json → Option Int
  | .integer n => some n
  | _ => none

def getText (v : Json) (key : String) : String := ((v.get key).text?).getD ""

def getText? (v : Json) (key : String) : Option String := (v.get key).text?

def getInteger (v : Json) (key : String) : Int := ((v.get key).integer?).getD 0

def getInteger? (v : Json) (key : String) : Option Int := (v.get key).integer?

def getNat? (v : Json) (key : String) : Option Nat := (v.getInteger? key).map Int.toNat

def getBool (v : Json) (key : String) : Bool :=
  match v.get key with
  | .bool b => b
  | _ => false

/-- A value that is not null. -/
def getSome? (v : Json) (key : String) : Option Json :=
  match v.get key with
  | .null => none
  | w => some w

def getList (v : Json) (key : String) : List Json :=
  match v.get key with
  | .array vs => vs
  | _ => []

def getMap (v : Json) (key : String) : ValueMap :=
  match v.get key with
  | .object es => es
  | _ => []

end EntityEngine.Json
