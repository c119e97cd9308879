import EntityEngine.Sql.Function.Format
import EntityEngine.Sql.Token

/-!
JSON as the functions of the database read and write it: numbers and texts keep the form in which
they are written. A lenient form is read as well, with comments, names without quotes and other
signs of numbers; it is not written. A path names a part of a value.
-/

namespace EntityEngine.Sql

open Number Text

inductive Node where
  | null
  | bool (b : Bool)
  | integer (raw : List Char)
  | real (raw : List Char)
  /-- A text with its escapes, without its quotes. -/
  | text (raw : List Char)
  | array (items : List Node)
  | object (entries : List (List Char × Node))
  deriving Repr

namespace Node

/-! ### Texts -/

/-- A text with an escape for what may not stand for itself. -/
def escaped (s : List Char) : List Char :=
  s.flatMap fun c =>
    if c = '"' then ['\\', '"']
    else if c = '\\' then ['\\', '\\']
    else if c = '\x08' then ['\\', 'b']
    else if c = '\x0c' then ['\\', 'f']
    else if c = '\n' then ['\\', 'n']
    else if c = '\r' then ['\\', 'r']
    else if c = '\t' then ['\\', 't']
    else if c.toNat < 32 then
      "\\u00".toList ++ [Nat.digitChar (c.toNat / 16), Nat.digitChar (c.toNat % 16)]
    else [c]

/-- The code unit of four digits in base sixteen. -/
def unit? (s : List Char) : Option Nat :=
  let ds := s.take 4
  if ds.length = 4 then
    (ds.mapM fun c => hexValue? c.toNat).map fun ds => ds.foldl (fun n d => 16 * n + d) 0
  else none

/-- The character of a letter that stands behind a backslash. -/
def letterOf (c : Char) : Char :=
  if c = 'b' then '\x08'
  else if c = 'f' then '\x0c'
  else if c = 'n' then '\n'
  else if c = 'r' then '\r'
  else if c = 't' then '\t'
  else c

/-- A text without its escapes. The fuel is its length. -/
def unescapedFuel : Nat → List Char → List Char
  | 0, _ => []
  | _, [] => []
  | fuel + 1, '\\' :: 'u' :: s =>
    match unit? s with
    | none => 'u' :: unescapedFuel fuel s
    | some high =>
      let rest := s.drop 4
      let pair? : Option Nat := match rest with
        | '\\' :: 'u' :: t => unit? t
        | _ => none
      match pair? with
      | some low =>
        if 0xD800 ≤ high ∧ high < 0xDC00 ∧ 0xDC00 ≤ low ∧ low < 0xE000 then
          Char.ofNat (0x10000 + (high - 0xD800) * 0x400 + (low - 0xDC00)) ::
            unescapedFuel fuel (rest.drop 6)
        else Char.ofNat high :: unescapedFuel fuel rest
      | none => Char.ofNat high :: unescapedFuel fuel rest
  | fuel + 1, '\\' :: c :: s => letterOf c :: unescapedFuel fuel s
  | fuel + 1, c :: s => c :: unescapedFuel fuel s

def unescaped (s : List Char) : List Char := unescapedFuel s.length s

/-! ### Writing -/

def quotedRaw (raw : List Char) : List Char := '"' :: (raw ++ ['"'])

/-- Parts with commas between them. -/
def commas : List (List Char) → List Char
  | [] => []
  | [s] => s
  | s :: t :: ss => s ++ ',' :: commas (t :: ss)

def render : Node → List Char
  | null => "null".toList
  | bool b => (if b then "true" else "false").toList
  | integer raw | real raw => raw
  | text raw => quotedRaw raw
  | array vs => '[' :: (commas (renderItems vs) ++ [']'])
  | object es => '\x7b' :: (commas (renderEntries es) ++ ['\x7d'])
where
  renderItems : List Node → List (List Char)
    | [] => []
    | v :: vs => v.render :: renderItems vs
  renderEntries : List (List Char × Node) → List (List Char)
    | [] => []
    | (k, v) :: es => (quotedRaw k ++ ':' :: v.render) :: renderEntries es

/-- The name of a value's kind. -/
def kindName : Node → String
  | null => "null"
  | bool b => if b then "true" else "false"
  | integer _ => "integer"
  | real _ => "real"
  | text _ => "text"
  | array _ => "array"
  | object _ => "object"

/-- The value of the database that a value is. -/
def toValue : Node → Value
  | null => .null
  | bool b => .ofBool b
  | integer raw => (numeric? (String.ofList raw)).getD .null
  | real raw => .real (doubleStart raw)
  | text raw => .text (String.ofList (unescaped raw))
  | v => .text (String.ofList v.render)

/-! ### Reading -/

/-- Blanks that the strict form knows. -/
def isPlainBlank (c : Char) : Bool := c = ' ' || c = '\t' || c = '\n' || c = '\r'

/-- Blanks that only the lenient form knows. -/
def isOtherBlank (c : Char) : Bool :=
  [0x0B, 0x0C, 0xA0, 0x1680, 0x2028, 0x2029, 0x202F, 0x205F, 0x3000, 0xFEFF].contains c.toNat ||
    (0x2000 ≤ c.toNat && c.toNat ≤ 0x200A)

/-- What is left behind the first end of a comment. -/
def afterComment : List Char → Option (List Char)
  | '*' :: '/' :: s => some s
  | _ :: s => afterComment s
  | [] => none

/-- A text behind its blanks and comments, and whether all of them were plain blanks. The fuel is
the length of the text. -/
def skipBlanks : Nat → Bool → List Char → Bool × List Char
  | 0, strict, s => (strict, s)
  | _, strict, [] => (strict, [])
  | fuel + 1, strict, c :: s =>
    if isPlainBlank c then skipBlanks fuel strict s
    else if isOtherBlank c then skipBlanks fuel false s
    else
      match c, s with
      | '/', '*' :: t =>
        match afterComment t with
        | some rest => skipBlanks fuel false rest
        | none => (strict, c :: s)
      | '/', '/' :: t =>
        skipBlanks fuel false
          (t.dropWhile fun c => c ≠ '\n' ∧ c ≠ '\r' ∧ c.toNat ≠ 0x2028 ∧ c.toNat ≠ 0x2029)
      | _, _ => (strict, c :: s)

def skip (s : List Char) : Bool × List Char := skipBlanks s.length true s

/-- What was read, whether all of it has the strict form, and the rest. -/
structure NodeReading (α : Type) where
  value : α
  isStrict : Bool
  rest : List Char
  deriving Repr

/-- A text behind its opening quote, with the escapes of the strict form. The fuel is the length of
the text. -/
def readQuoted (quote : Char) : Nat → List Char → Option (NodeReading (List Char))
  | 0, _ => none
  | _, [] => none
  | fuel + 1, c :: s =>
    let more (raw : List Char) (isStrict : Bool) (rest : List Char) :
        Option (NodeReading (List Char)) :=
      (readQuoted quote fuel rest).map fun r => ⟨raw ++ r.value, isStrict && r.isStrict, r.rest⟩
    if c = quote then some ⟨[], true, s⟩
    else if c.toNat = 0 then none
    else if c = '\\' then
      match s with
      | [] => none
      | d :: t =>
        if ['"', '\\', '/', 'b', 'f', 'n', 'r', 't'].contains d then more ['\\', d] true t
        else if d = 'u' then
          if (unit? t).isSome then more ('\\' :: 'u' :: t.take 4) true (t.drop 4) else none
        else if d = '\'' then more ['\''] false t
        else if d = '0' then more "\\u0000".toList false t
        else if d = 'v' then more "\\u000b".toList false t
        else if d = '\n' ∨ d.toNat = 0x2028 ∨ d.toNat = 0x2029 then more [] false t
        else if d = '\r' then more [] false (if t.head? = some '\n' then t.drop 1 else t)
        else if d = 'x' then
          let ds := t.take 2
          if ds.length = 2 && ds.all Token.isHexDigit then
            more ("\\u00".toList ++ ds) false (t.drop 2)
          else none
        else none
    else if c.toNat < 32 then more (escaped [c]) false s
    else if c = '"' then more ['\\', '"'] true s
    else more [c] true s

/-- A word that stands for a value in the lenient form alone. -/
def readWord (s : List Char) : Option (NodeReading Node) :=
  let word (name : String) (v : Node) : Option (NodeReading Node) :=
    let n := name.length
    if sameFold (String.ofList (s.take n)) name && !(s.drop n).head?.any Char.isAlphanum then
      some ⟨v, false, s.drop n⟩
    else none
  let infinite : Node := .real "9e999".toList
  (word "inf" infinite).orElse fun _ => (word "infinity" infinite).orElse fun _ =>
    (word "nan" .null).orElse fun _ => (word "qnan" .null).orElse fun _ => word "snan" .null

/-- The count that digits in base sixteen write. -/
def sixteens (ds : List Char) : Nat :=
  (ds.filterMap fun c => hexValue? c.toNat).foldl (fun n d => 16 * n + d) 0

/-- A number, with the sign that was read before it. -/
def readNumber (sign : List Char) (strict : Bool) (s : List Char) : Option (NodeReading Node) :=
  let infinite := sign ++ "9e999".toList
  match s with
  | '0' :: x :: t =>
    if (x = 'x' ∨ x = 'X') ∧ t.head?.any Token.isHexDigit then
      let n := sixteens (t.takeWhile Token.isHexDigit)
      let rest := t.dropWhile Token.isHexDigit
      some (if n ≤ maxCount then ⟨.integer (sign ++ Nat.toDigits 10 n), false, rest⟩
        else ⟨.real (sign ++ "9.0e999".toList), false, rest⟩)
    else if isDigit x then none
    else decimal s
  | _ =>
    if !sign.isEmpty || !strict then
      if sameFold (String.ofList (s.take 8)) "infinity" then
        some ⟨.real infinite, false, s.drop 8⟩
      else if sameFold (String.ofList (s.take 3)) "inf" then
        some ⟨.real infinite, false, s.drop 3⟩
      else decimal s
    else decimal s
where
  /-- A number in base ten. -/
  decimal (s : List Char) : Option (NodeReading Node) :=
    let whole := s.takeWhile isDigit
    let (fraction, r) := Numeral.scanFraction (s.dropWhile isDigit)
    if whole.isEmpty && (fraction.getD []).isEmpty then none
    else
      let isStrict := strict && !whole.isEmpty && !fraction.any List.isEmpty
      let digits (ds : List Char) : List Char := if ds.isEmpty then ['0'] else ds
      let start := sign ++ digits whole ++
        (match fraction with
          | some ds => '.' :: digits ds
          | none => [])
      match r with
      | e :: t =>
        if e = 'e' ∨ e = 'E' then
          let (mark, t) := match t with
            | '+' :: t => (['+'], t)
            | '-' :: t => (['-'], t)
            | t => ([], t)
          let ds := t.takeWhile isDigit
          let rest := t.dropWhile isDigit
          if ds.isEmpty || rest.head?.any fun c => c = '.' || c = 'e' || c = 'E' then none
          else some ⟨.real (start ++ e :: (mark ++ ds)), isStrict, rest⟩
        else if e = '.' then none
        else some ⟨if fraction.isSome then .real start else .integer start, isStrict, r⟩
      | [] => some ⟨if fraction.isSome then .real start else .integer start, isStrict, r⟩

/-- The characters of names without quotes. -/
def isNameStart (c : Char) : Bool := c.isAlpha || c == '_' || c == '$' || 128 ≤ c.toNat

def isNamePart (c : Char) : Bool :=
  (isNameStart c || c.isDigit) && !isOtherBlank c

mutual

/-- A value at the start of a text. -/
def read : Nat → List Char → Option (NodeReading Node)
  | 0, _ => none
  | fuel + 1, s =>
    let (strict, s) := skip s
    let found : Option (NodeReading Node) := match s with
      | [] => none
      | c :: t =>
        let plain (word : String) (v : Node) : Option (NodeReading Node) :=
          if word.toList.isPrefixOf s && !(s.drop word.length).head?.any Char.isAlphanum then
            some ⟨v, true, s.drop word.length⟩
          else readWord s
        if c = '\x7b' then
          (readEntries fuel true t).map fun r => ⟨.object r.value, r.isStrict, r.rest⟩
        else if c = '[' then
          (readItems fuel true t).map fun r => ⟨.array r.value, r.isStrict, r.rest⟩
        else if c = '"' ∨ c = '\'' then
          (readQuoted c s.length t).map fun r => ⟨.text r.value, r.isStrict && c = '"', r.rest⟩
        else if c = 't' then plain "true" (.bool true)
        else if c = 'f' then plain "false" (.bool false)
        else if c = 'n' then plain "null" .null
        else if c = '-' then readNumber ['-'] true t
        else if c = '+' then readNumber [] false t
        else if isDigit c ∨ c = '.' then readNumber [] true s
        else readWord s
    found.map fun r => { r with isStrict := r.isStrict && strict }

/-- The items of an array behind its bracket or a comma. -/
def readItems : Nat → Bool → List Char → Option (NodeReading (List Node))
  | 0, _, _ => none
  | fuel + 1, isFirst, s =>
    let (strict, t) := skip s
    match t with
    | ']' :: rest => some ⟨[], strict && isFirst, rest⟩
    | _ => do
      let r ← read fuel t
      let strict := strict && r.isStrict
      let (plain, t) := skip r.rest
      match t with
      | ',' :: t =>
        let others ← readItems fuel false t
        some ⟨r.value :: others.value, strict && plain && others.isStrict, others.rest⟩
      | ']' :: rest => some ⟨[r.value], strict && plain, rest⟩
      | _ => none

/-- The entries of an object behind its brace or a comma. -/
def readEntries : Nat → Bool → List Char → Option (NodeReading (List (List Char × Node)))
  | 0, _, _ => none
  | fuel + 1, isFirst, s =>
    let (strict, t) := skip s
    match t with
    | '\x7d' :: rest => some ⟨[], strict && isFirst, rest⟩
    | [] => none
    | c :: t => do
      let key : NodeReading (List Char) ←
        if c = '"' ∨ c = '\'' then
          (readQuoted c t.length t).map fun r => { r with isStrict := r.isStrict && c = '"' }
        else if isNameStart c then
          some ⟨c :: t.takeWhile isNamePart, false, t.dropWhile isNamePart⟩
        else none
      let (plainKey, t) := skip key.rest
      match t with
      | ':' :: t =>
        let r ← read fuel t
        let strict := strict && key.isStrict && plainKey && r.isStrict
        let (plain, t) := skip r.rest
        match t with
        | ',' :: t =>
          let others ← readEntries fuel false t
          some ⟨(key.value, r.value) :: others.value, strict && plain && others.isStrict,
            others.rest⟩
        | '\x7d' :: rest => some ⟨[(key.value, r.value)], strict && plain, rest⟩
        | _ => none
      | _ => none

end

/-- The value that a whole text writes, and whether it has the strict form. -/
def parse? (s : List Char) : Option (Node × Bool) :=
  let s := untilNull s
  match read (2 * s.length + 2) s with
  | none => none
  | some r =>
    let (plain, rest) := skip r.rest
    if rest.isEmpty then some (r.value, r.isStrict && plain) else none

/-! ### Paths -/

/-- The key that a path goes on with behind a point, and the rest of the path. -/
def keyStep? : List Char → Option (List Char × List Char)
  | '"' :: s =>
    match s.dropWhile (· ≠ '"') with
    | [] => none
    | _ :: rest => some (s.takeWhile (· ≠ '"'), rest)
  | s =>
    let isIn (c : Char) : Bool := c ≠ '.' && c ≠ '['
    let name := s.takeWhile isIn
    if name.isEmpty then none else some (name, s.dropWhile isIn)

/-- The place that a path goes on with behind a bracket, in an array of some items, and the rest of
the path. There is no place before the first one. -/
def placeStep? (count : Nat) (s : List Char) : Option (Option Nat × List Char) :=
  match s.takeWhile isDigit, s.dropWhile isDigit with
  | d :: ds, ']' :: rest => some (some (ofDigits (d :: ds)), rest)
  | _, _ =>
    match s with
    | '#' :: ']' :: rest => some (some count, rest)
    | '#' :: '-' :: t =>
      let n := ofDigits (t.takeWhile isDigit)
      match t.takeWhile isDigit, t.dropWhile isDigit with
      | _ :: _, ']' :: rest => some (if n ≤ count then some (count - n) else none, rest)
      | _ :: _, _ => if n ≤ count then none else some (none, [])
      | _, _ => none
    | _ => none

/-- What is found at a path. -/
inductive Found where
  | part (v : Node)
  | missing
  /-- The path is none, as far as the value leads along it. -/
  | badPath
  deriving Repr

/-- Whether an entry has a key. -/
def hasKey (name : List Char) (e : List Char × Node) : Bool := unescaped e.1 == unescaped name

/-- The part of a value at the rest of a path. The fuel is the length of the path. -/
def find : Nat → Node → List Char → Found
  | _, v, [] => .part v
  | 0, _, _ => .badPath
  | fuel + 1, v, '.' :: s =>
    match keyStep? s, v with
    | none, _ => .badPath
    | some (name, rest), .object es =>
      match es.find? (hasKey name) with
      | some (_, w) => find fuel w rest
      | none => .missing
    | some _, _ => .missing
  | fuel + 1, .array vs, '[' :: s =>
    match placeStep? vs.length s with
    | none => .badPath
    | some (place, rest) =>
      match place.bind fun i => vs[i]? with
      | some w => find fuel w rest
      | none => .missing
  | _ + 1, _, '[' :: _ => .missing
  | _ + 1, _, _ => .badPath

/-- How a value is changed at a path. -/
inductive Edit where
  /-- A part that is there is left out. -/
  | remove
  | insert (v : Node)
  | replace (v : Node)
  | set (v : Node)
  deriving Repr

/-- The value that goes to a place where there is none. -/
def Edit.added? : Edit → Option Node
  | remove | replace _ => none
  | insert v | set v => some v

/-- The value that goes to a place where there is one. -/
def Edit.over? (old : Node) : Edit → Option Node
  | remove => none
  | insert _ => some old
  | replace v | set v => some v

/-- What becomes of a value by an edit. -/
inductive Edited where
  | value (v : Node)
  | gone
  | missing
  | badPath
  deriving Repr

/-- What becomes of a value that holds an edited part. -/
def Edited.inside (around : Option Node → Node) : Edited → Edited
  | value v => .value (around (some v))
  | gone => .value (around none)
  | missing => .missing
  | badPath => .badPath

/-- A list with an item at a place changed or left out. -/
def withItem (items : List α) (i : Nat) (item : Option α) : List α :=
  items.take i ++ item.toList ++ items.drop (i + 1)

/-- The value that a part is put into, for the rest of a path. -/
def emptyFor (path : List Char) : Node := if path.head? = some '.' then .object [] else .array []

/-- A key as it is written. -/
def keyRaw (name : List Char) : List Char := if name.contains '\\' then name else escaped name

/-- A value edited at the rest of a path. The fuel is the length of the path. -/
def edited (e : Edit) : Nat → Node → List Char → Edited
  | _, v, [] => match e.over? v with
    | some w => .value w
    | none => .gone
  | 0, _, _ => .badPath
  | fuel + 1, v, '.' :: s =>
    match keyStep? s, v with
    | none, _ => .badPath
    | some (name, rest), .object es =>
      let i := es.findIdx (hasKey name)
      match es[i]? with
      | some (k, w) =>
        (edited e fuel w rest).inside fun w => .object (withItem es i (w.map (k, ·)))
      | none =>
        match e.added? with
        | none => .missing
        | some new =>
          let part := if rest.isEmpty then .value new else edited e fuel (emptyFor rest) rest
          part.inside fun w => .object (es ++ (w.map (keyRaw name, ·)).toList)
    | some _, _ => .missing
  | fuel + 1, .array vs, '[' :: s =>
    match placeStep? vs.length s with
    | none => .badPath
    | some (none, _) => .missing
    | some (some i, rest) =>
      match vs[i]? with
      | some w => (edited e fuel w rest).inside fun w => .array (withItem vs i w)
      | none =>
        match e.added? with
        | none => .missing
        | some new =>
          if vs.length < i then .missing
          else
            let part := if rest.isEmpty then .value new else edited e fuel (emptyFor rest) rest
            part.inside fun w => .array (vs ++ w.toList)
  | _ + 1, _, '[' :: _ => .missing
  | _ + 1, _, _ => .badPath

/-- A value in which another one overwrites what it has; null takes away. The fuel bounds the
depth. -/
def patched : Nat → Node → Node → Node
  | 0, _, patch => patch
  | fuel + 1, target, .object patch =>
    let start := match target with
      | .object es => es
      | _ => []
    .object (patch.foldl (fun es (k, v) =>
      let same := hasKey k
      match v with
      | .null => es.filter fun e => !same e
      | v =>
        if es.any same then es.map fun (l, w) => if same (l, w) then (l, patched fuel w v) else (l, w)
        else es ++ [(k, patched fuel .null v)]) start)
  | _ + 1, _, patch => patch

end Node

end EntityEngine.Sql
