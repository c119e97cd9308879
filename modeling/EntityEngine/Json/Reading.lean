import EntityEngine.Json.Number

/-!
Reading JSON text. What a text holds up to its first fault is kept as a tree in the order of the
text, so that a reader with an expected form in mind can tell which fault comes first.
-/

namespace EntityEngine.Json

open Number

/-- What a text holds from one place on. -/
inductive Reading where
  | null
  | bool (b : Bool)
  /-- A number, without a value if it is past the largest double. -/
  | number (value : Option Json)
  /-- A text, without a value if an escape in it names no character. -/
  | text (value : Option String)
  /-- Items, and whether the array ends where it should. -/
  | array (items : List Reading) (closed : Bool)
  | object (entries : List (Option String × Reading)) (closed : Bool)
  /-- No value starts here, or the one that does never ends. -/
  | broken
  deriving Inhabited

namespace Reading

/-- The blanks of JSON text. -/
def isSpace (c : Char) : Bool := c = ' ' || c = '\n' || c = '\t' || c = '\r'

def skip (s : List Char) : List Char := s.dropWhile isSpace

/-- The text after an expected word. -/
def after? (word s : List Char) : Option (List Char) :=
  if word.isPrefixOf s then some (s.drop word.length) else none

def hexDigitValue? (c : Char) : Option Nat :=
  if '0' ≤ c ∧ c ≤ '9' then some (c.toNat - 48)
  else if 'a' ≤ c ∧ c ≤ 'f' then some (c.toNat - 87)
  else if 'A' ≤ c ∧ c ≤ 'F' then some (c.toNat - 55)
  else none

/-- The value of four digits in base sixteen. -/
def hex4? : List Char → Option (Nat × List Char)
  | a :: b :: c :: d :: r => do
    let a ← hexDigitValue? a
    let b ← hexDigitValue? b
    let c ← hexDigitValue? c
    let d ← hexDigitValue? d
    some (4096 * a + 256 * b + 16 * c + d, r)
  | _ => none

/-- The character that a letter after a backslash stands for. -/
def simpleEscape? (c : Char) : Option Char :=
  if c = '"' ∨ c = '\\' ∨ c = '/' then some c
  else if c = 'b' then some '\x08'
  else if c = 'f' then some '\x0c'
  else if c = 'n' then some '\n'
  else if c = 'r' then some '\r'
  else if c = 't' then some '\t'
  else none

/-- The character of one or two escaped UTF-16 units, and the rest. A unit that stands for no
character by itself gives none. -/
def unitsChar (unit : Nat) (r : List Char) : Option Char × List Char :=
  if unit < 0xD800 ∨ 0xDFFF < unit then (some (Char.ofNat unit), r)
  else if 0xDBFF < unit then (none, r)
  else match r with
    | '\\' :: 'u' :: t =>
      match hex4? t with
      | some (low, t') =>
        if 0xDC00 ≤ low ∧ low ≤ 0xDFFF then
          (some (Char.ofNat (0x10000 + 0x400 * (unit - 0xD800) + (low - 0xDC00))), t')
        else (none, r)
      | none => (none, r)
    | _ => (none, r)

/-- The characters of a text after its opening quote, each none where an escape names no
character, and the rest after the closing quote; none if the text is broken off or holds a control
character or an unknown escape. -/
def scanText : Nat → List Char → Option (List (Option Char) × List Char)
  | 0, _ => none
  | _, [] => none
  | fuel + 1, c :: r =>
    if c = '"' then some ([], r)
    else if c = '\\' then
      match r with
      | 'u' :: t =>
        match hex4? t with
        | some (unit, t') =>
          let (char, rest) := unitsChar unit t'
          (scanText fuel rest).map fun (cs, rest) => (char :: cs, rest)
        | none => none
      | e :: t =>
        match simpleEscape? e with
        | some char => (scanText fuel t).map fun (cs, rest) => (some char :: cs, rest)
        | none => none
      | [] => none
    else if c.toNat < 32 then none
    else (scanText fuel r).map fun (cs, rest) => (some c :: cs, rest)

/-- A text after its opening quote. -/
def scanString (s : List Char) : Option (Option String × List Char) :=
  (scanText (s.length + 1) s).map fun (cs, r) => ((cs.mapM id).map String.ofList, r)

/-- The fraction that a text starts with; none if a point stands without digits. -/
def scanFraction : List Char → Option (List Char × List Char)
  | '.' :: r =>
    let digits := r.takeWhile isDigit
    if digits.isEmpty then none else some (digits, r.dropWhile isDigit)
  | r => some ([], r)

/-- The exponent that a text starts with; none if its mark stands without digits. -/
def scanExponent : List Char → Option (Option (Bool × List Char) × List Char)
  | [] => some (none, [])
  | c :: r =>
    if c = 'e' ∨ c = 'E' then
      let (negative, s) := Numeral.sign r
      let digits := s.takeWhile isDigit
      if digits.isEmpty then none else some (some (negative, digits), s.dropWhile isDigit)
    else some (none, c :: r)

/-- A number: no leading zeros, and digits wherever a point or an exponent asks for them. -/
def scanNumber (s : List Char) : Option (NumberText × List Char) :=
  let (negative, s) := match s with
    | '-' :: r => (true, r)
    | r => (false, r)
  let whole := s.takeWhile isDigit
  if whole.isEmpty || (whole.head? == some '0' && whole.length ≠ 1) then none
  else
    match scanFraction (s.dropWhile isDigit) with
    | none => none
    | some (fraction, r) =>
      match scanExponent r with
      | none => none
      | some (exponent, r) => some (⟨negative, whole, fraction, exponent⟩, r)

/-- Whether reading can go on behind a value. -/
def isWhole : Reading → Bool
  | .array _ closed => closed
  | .object _ closed => closed
  | .broken => false
  | _ => true

mutual

/-- The value that a text starts with and what follows it. The fuel bounds the count of
characters. -/
def value : Nat → List Char → Reading × List Char
  | 0, s => (.broken, s)
  | fuel + 1, s =>
    match skip s with
    | [] => (.broken, [])
    | '"' :: r =>
      match scanString r with
      | some (t, rest) => (.text t, rest)
      | none => (.broken, r)
    | '[' :: r =>
      match skip r with
      | ']' :: rest => (.array [] true, rest)
      | _ => let (vs, closed, rest) := items fuel r; (.array vs closed, rest)
    | '\x7b' :: r =>
      match skip r with
      | '\x7d' :: rest => (.object [] true, rest)
      | _ => let (es, closed, rest) := entries fuel r; (.object es closed, rest)
    | c :: r =>
      if c = '-' ∨ isDigit c then
        match scanNumber (c :: r) with
        | some (t, rest) => (.number t.value?, rest)
        | none => (.broken, r)
      else
        match after? "null".toList (c :: r), after? "true".toList (c :: r),
            after? "false".toList (c :: r) with
        | some rest, _, _ => (.null, rest)
        | _, some rest, _ => (.bool true, rest)
        | _, _, some rest => (.bool false, rest)
        | _, _, _ => (.broken, r)

/-- The items of an array up to its end or the first fault. -/
def items : Nat → List Char → List Reading × Bool × List Char
  | 0, s => ([], false, s)
  | fuel + 1, s =>
    let (v, r) := value fuel s
    if v.isWhole then
      match skip r with
      | ',' :: r => let (vs, closed, rest) := items fuel r; (v :: vs, closed, rest)
      | ']' :: r => ([v], true, r)
      | r => ([v], false, r)
    else ([v], false, r)

/-- The entries of an object up to its end or the first fault. -/
def entries : Nat → List Char → List (Option String × Reading) × Bool × List Char
  | 0, s => ([], false, s)
  | fuel + 1, s =>
    match skip s with
    | '"' :: r =>
      match scanString r with
      | none => ([], false, r)
      | some (key, r) =>
        match skip r with
        | ':' :: r =>
          let (v, r) := value fuel r
          if v.isWhole then
            match skip r with
            | ',' :: r => let (es, closed, rest) := entries fuel r; ((key, v) :: es, closed, rest)
            | '\x7d' :: r => ([(key, v)], true, r)
            | r => ([(key, v)], false, r)
          else ([(key, v)], false, r)
        | r => ([(key, .broken)], false, r)
    | r => ([], false, r)

end

/-- The value of a whole text, and whether nothing but blanks follows it. -/
def ofText (s : String) : Reading × Bool :=
  let (v, r) := value (s.toList.length + 1) s.toList
  (v, (skip r).isEmpty)

/-- One more than the deepest nesting of arrays and objects that is read. -/
def nestingBound : Nat := 128

mutual

/-- The value read, if it is whole and nested less deep than the bound. -/
def toJson? (bound : Nat) : Reading → Option Json
  | .null => some .null
  | .bool b => some (.bool b)
  | .number v => v
  | .text s => s.map .text
  | .array vs closed =>
    if closed && 1 < bound then (toItems? (bound - 1) vs).map .array else none
  | .object es closed =>
    if closed && 1 < bound then
      (toEntries? (bound - 1) es).map fun es => .object (ValueMap.ofEntries es)
    else none
  | .broken => none

def toItems? (bound : Nat) : List Reading → Option (List Json)
  | [] => some []
  | v :: vs =>
    match toJson? bound v, toItems? bound vs with
    | some v, some vs => some (v :: vs)
    | _, _ => none

def toEntries? (bound : Nat) : List (Option String × Reading) → Option (List (String × Json))
  | [] => some []
  | (k, v) :: es =>
    match k, toJson? bound v, toEntries? bound es with
    | some k, some v, some es => some ((k, v) :: es)
    | _, _, _ => none

end

mutual

/-- A value as it would be read from its own text. -/
def ofJson : Json → Reading
  | .null => .null
  | .bool b => .bool b
  | .integer n => .number (some (.integer n))
  | .real x => .number (some (.real x))
  | .text s => .text (some s)
  | .array vs => .array (ofItems vs) true
  | .object es => .object (ofEntries es) true

def ofItems : List Json → List Reading
  | [] => []
  | v :: vs => ofJson v :: ofItems vs

def ofEntries : List (String × Json) → List (Option String × Reading)
  | [] => []
  | (k, v) :: es => (some k, ofJson v) :: ofEntries es

end

end Reading

/-- The value that a whole text writes. -/
def parse? (s : String) : Option Json :=
  match Reading.ofText s with
  | (v, true) => v.toJson? Reading.nestingBound
  | (_, false) => none

end EntityEngine.Json
