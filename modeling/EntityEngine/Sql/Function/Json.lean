import EntityEngine.Sql.Fault
import EntityEngine.Sql.Node

/-!
Functions of JSON. A text that an inner function of JSON has made counts as JSON where a value is
put into another one; any other text counts as a text.
-/

namespace EntityEngine.Sql

/-- A value that a function is given, and whether a function of JSON has made it. -/
structure Argument where
  value : Value
  isJson : Bool := false
  deriving Repr, DecidableEq

inductive JsonFunction where
  | minify
  | isValid
  | quote
  | array
  | object
  | extract
  /-- A part as JSON. -/
  | part
  /-- A part as a value. -/
  | partValue
  | kind
  | arrayLength
  | errorPosition
  | insert
  | replace
  | set
  | remove
  | patch
  deriving Repr, DecidableEq

namespace JsonFunction

def malformed : Except Fault α := .error (.other "malformed JSON")

def badPath (path : List Char) : Except Fault α :=
  .error (.other ("bad JSON path: " ++
    String.ofList (({} : Mark).quotedChars '\'' true (.text (String.ofList path)))))

/-- The JSON that a value writes. -/
def parsed (v : Value) : Except Fault Node :=
  match Node.parse? v.chars with
  | some (node, _) => .ok node
  | none => malformed

/-- A value as JSON. -/
def nodeOf (a : Argument) : Except Fault Node :=
  match a.value with
  | .null => .ok .null
  | .integer n => .ok (.integer (toString n).toList)
  | .real x =>
    .ok (.real (({ isWide := true, isZeroPadded := true, precision := some 15 } : Mark).realChars
      .general 'e' x))
  | .text s =>
    if a.isJson then parsed (.text s) else .ok (.text (Node.escaped s.toList))
  | .blob _ => .error (.other "JSON cannot hold BLOB values")

def textOf (v : Node) : Value := .text (String.ofList v.render)

/-- The part of a value at a path, which starts behind its first sign. -/
def partOf (node : Node) (path : List Char) (told : List Char) : Except Fault (Option Node) :=
  match node.find path.length path with
  | .part v => .ok (some v)
  | .missing => .ok none
  | .badPath => badPath told

/-- The part of a value that a path names. -/
def partAtPath (node : Node) (path : Value) : Except Fault (Option Node) :=
  match untilNull path.chars with
  | '$' :: s => partOf node s ('$' :: s)
  | s => badPath s

/-- The part of a value that a path names, or a key or a place alone. -/
def partAtShort (node : Node) (path : Value) : Except Fault (Option Node) :=
  match untilNull path.chars with
  | '$' :: s => partOf node s ('$' :: s)
  | s =>
    let full :=
      if !s.isEmpty && s.all Number.isDigit then '[' :: (s ++ [']'])
      else if !s.isEmpty && s.all Char.isAlphanum then '.' :: s
      else if s.head? = some '[' && 3 ≤ s.length && s.getLast? = some ']' then s
      else '.' :: '"' :: (s ++ ['"'])
    partOf node full s

/-- The entries of an object from keys and values in turn. -/
def entriesOf : List Argument → Except Fault (List (List Char × Node))
  | k :: v :: rest =>
    match k.value with
    | .text s => do
      let node ← nodeOf v
      return (Node.escaped s.toList, node) :: (← entriesOf rest)
    | _ => .error (.other "json_object() labels must be TEXT")
  | _ => .ok []

/-- A value after an edit at a path. One of a place that is not there changes nothing. -/
def editedAt (e : Node.Edit) (node : Node) (path : Value) : Except Fault (Option Node) :=
  match untilNull path.chars with
  | '$' :: s =>
    match node.edited e s.length s with
    | .value v => .ok (some v)
    | .gone => .ok none
    | .missing => .ok (some node)
    | .badPath => badPath ('$' :: s)
  | s => badPath s

/-- A value after changes, each a path and a new value. -/
def editedBy (edit : Node → Node.Edit) : Node → List Argument → Except Fault (Option Node)
  | node, path :: v :: rest => do
    if path.value.isNull then editedBy edit node rest
    else
      match ← editedAt (edit (← nodeOf v)) node path.value with
      | some node => editedBy edit node rest
      | none => return none
  | node, _ => .ok (some node)

/-- A value without the parts of some paths. -/
def withoutParts : Node → List Argument → Except Fault (Option Node)
  | node, [] => .ok (some node)
  | node, path :: rest => do
    if path.value.isNull then return none
    else
      match ← editedAt .remove node path.value with
      | some node => withoutParts node rest
      | none => return none

/-- The parts of several paths as an array; none if a path is null. -/
def partsOf (node : Node) : List Argument → Except Fault (Option (List Node))
  | [] => .ok (some [])
  | path :: rest => do
    if path.value.isNull then return none
    else
      let part := (← partAtPath node path.value).getD .null
      return (← partsOf node rest).map (part :: ·)

/-- The part of a value that an optional path names. -/
def partAt (vs : List Argument) : Except Fault (Option Node) :=
  match vs with
  | [v] => if v.value.isNull then .ok none else (parsed v.value).map some
  | [v, path] => do
    if v.value.isNull || path.value.isNull then return none
    else partAtPath (← parsed v.value) path.value
  | _ => .ok none

/-- What is made of a value with arguments in pairs. -/
def editing (name : String) (edit : Node → Node.Edit) (vs : List Argument) : Except Fault Value :=
  match vs with
  | [] => .ok .null
  | v :: rest => do
    if rest.length % 2 = 1 then
      throw (.other ("json_" ++ name ++ "() needs an odd number of arguments"))
    else if v.value.isNull then return .null
    else return ((← editedBy edit (← parsed v.value) rest).map textOf).getD .null

/-- Whether the result counts as JSON where it is put into another value. -/
def givesJson (f : JsonFunction) (v : Value) : Bool :=
  match f with
  | minify | quote | array | object | part | insert | replace | set | remove | patch => true
  | extract =>
    match v with
    | .text s => s.startsWith "\x7b" || s.startsWith "["
    | _ => false
  | _ => false

def apply (f : JsonFunction) (vs : List Argument) : Except Fault Value :=
  match f, vs with
  | minify, [v] => if v.value.isNull then .ok .null else (parsed v.value).map textOf
  | isValid, v :: flags =>
    if v.value.isNull || flags.any fun a => a.value.isNull then .ok .null
    else
      let n := (flags.head?.map fun a => a.value.toInteger).getD 1
      if n < 1 ∨ 15 < n then
        .error (.other "FLAGS parameter to json_valid() must be between 1 and 15")
      else
        let isIn := match Node.parse? v.value.chars with
          | some (_, isStrict) => (n % 2 = 1 && isStrict) || n / 2 % 2 = 1
          | none => false
        .ok (.ofBool isIn)
  | quote, [v] => (nodeOf v).map textOf
  | array, vs => (vs.mapM nodeOf).map fun nodes => textOf (.array nodes)
  | object, vs =>
    if vs.length % 2 = 1 then
      .error (.other "json_object() requires an even number of arguments")
    else (entriesOf vs).map fun es => textOf (.object es)
  | extract, [v, path] => do
    if v.value.isNull then return .null
    else
      let node ← parsed v.value
      if path.value.isNull then return .null
      else return ((← partAtPath node path.value).map Node.toValue).getD .null
  | extract, v :: paths => do
    if v.value.isNull || paths.isEmpty then return .null
    else
      let node ← parsed v.value
      return ((← partsOf node paths).map fun nodes => textOf (.array nodes)).getD .null
  | part, [v, path] | partValue, [v, path] => do
    if v.value.isNull then return .null
    else
      let node ← parsed v.value
      if path.value.isNull then return .null
      else
        let found ← partAtShort node path.value
        return (found.map fun v => if f = part then textOf v else v.toValue).getD .null
  | kind, vs => do return ((← partAt vs).map fun v => .text v.kindName).getD .null
  | arrayLength, vs => do
    return ((← partAt vs).map fun
      | .array items => Value.integer items.length
      | _ => Value.integer 0).getD .null
  | errorPosition, [v] =>
    .ok (if v.value.isNull then .null
      else .integer (if (Node.parse? v.value.chars).isSome then 0 else 1))
  | insert, vs => editing "insert" .insert vs
  | replace, vs => editing "replace" .replace vs
  | set, vs => editing "set" .set vs
  | remove, v :: paths => do
    if v.value.isNull then return .null
    else return ((← withoutParts (← parsed v.value) paths).map textOf).getD .null
  | patch, [v, w] => do
    if v.value.isNull || w.value.isNull then return .null
    else
      let target ← parsed v.value
      let patch ← parsed w.value
      return textOf (Node.patched (untilNull w.value.chars).length target patch)
  | _, _ => .ok .null

end JsonFunction

end EntityEngine.Sql
