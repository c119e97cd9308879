import EntityEngine.Sql.Keyword
import EntityEngine.Sql.Resolution
import EntityEngine.Sql.TableText

/-!
What a statement that makes a table declares. A column's type is a few words, perhaps with one or
two numbers in parentheses. Where all types are that and nothing else, the declaration follows from
the statement's parts.
-/

namespace EntityEngine.Sql

open Text

/-- What happens when a row breaks a constraint. The first three refuse it. -/
inductive ConflictAction where
  | rollback
  | abort
  | fail
  /-- The row is left out. -/
  | ignore
  /-- The rows in the way are removed, or a value is replaced by the default. -/
  | replace
  deriving Repr, DecidableEq

/-- What the value of a column follows from. -/
structure Derivation where
  expression : Expression
  /-- The value is kept with the row; otherwise it is found whenever the row is read. -/
  isStored : Bool := false
  deriving Repr, DecidableEq

/-- A declared column. -/
structure ColumnSpec where
  name : String
  type : String
  collation : Collation := .bytes
  /-- What happens when the value is null, if it may not be. -/
  notNull : Option ConflictAction := none
  default : Option Expression := none
  /-- What the value follows from, if no value is ever given. -/
  derivation : Option Derivation := none
  deriving Repr, DecidableEq

/-- A column of an index. -/
structure KeyColumn where
  name : String
  collation : Collation := .bytes
  isDescending : Bool := false
  deriving Repr, DecidableEq

/-- Columns whose values together no two rows share. -/
structure UniqueSpec where
  columns : List KeyColumn
  conflict : Option ConflictAction := none
  isPrimary : Bool := false
  deriving Repr, DecidableEq

/-- What happens to a row when the row that it refers to goes away or changes. -/
inductive ReferenceAction where
  /-- The change is refused, unless the row refers to another one in the end. -/
  | none
  | restrict
  | setNull
  | setDefault
  | cascade
  deriving Repr, DecidableEq

/-- Columns whose values are those of a row of some table. -/
structure ForeignKey where
  columns : List String
  table : String
  /-- The columns there; the primary key if none are told. -/
  parents : List String := []
  onDelete : ReferenceAction := .none
  onUpdate : ReferenceAction := .none
  isDeferred : Bool := false
  deriving Repr, DecidableEq

/-- A declared table. -/
structure TableSpec where
  name : String
  columns : List ColumnSpec
  /-- The column that shows the number of the row. -/
  numberColumn : Option String := none
  /-- What happens when two rows have a number. -/
  numberConflict : Option ConflictAction := none
  isAutoincrement : Bool := false
  /-- In the order of their indexes. -/
  uniques : List UniqueSpec := []
  checks : List Check := []
  foreignKeys : List ForeignKey := []
  deriving Repr, DecidableEq

/-! ### Faults that show when a statement is carried out -/

/-- The fault of several that is told: the last one, but one of a collation only if there is no
other before it. -/
def toldFault? (faults : List Fault) : Option Fault :=
  faults.foldl (fun told f =>
    match told, f with
    | some g, .noSuchCollation _ => some g
    | _, f => some f) none

namespace TableSpec

/-- The faults of reading a column, one that is not stored being found from others in turn. The
columns that are being found already are given; the fuel is the number of columns. -/
def readingFaults (s : TableSpec) : Nat → List Nat → Nat → List Fault
  | 0, _, _ => []
  | fuel + 1, busy, i =>
    match s.columns[i]? with
    | none => []
    | some c =>
      match c.derivation with
      | none => []
      | some d =>
        if d.isStored then []
        else if busy.contains i then
          [.other ("generated column loop on \"" ++ c.name ++ "\"")]
        else
          d.expression.columns.eraseDups.flatMap (readingFaults s fuel (i :: busy)) ++
            d.expression.faults

/-- The fault of reading all columns, else of looking at the checks, the first of which is looked
at last. -/
def fault? (s : TableSpec) : Option Fault :=
  let fuel := s.columns.length + 1
  let ofColumns := (List.range s.columns.length).flatMap (s.readingFaults fuel [])
  let ofChecks := s.checks.reverse.flatMap fun k => k.condition.faults
  (toldFault? ofColumns).orElse fun _ => toldFault? ofChecks

end TableSpec

/-- A text that starts with a quote, as what stands in quotes there; any other text as it is. -/
def dequoted (s : List Char) : List Char :=
  match s with
  | [] => []
  | c :: r =>
    if c = '"' ∨ c = '\'' ∨ c = '\x60' then ((Token.scanQuoted c r).map Prod.fst).getD s
    else if c = '[' then ((Token.scanQuoted ']' r).map Prod.fst).getD s
    else s

namespace Token

/-- The tokens after a number that may have a sign. -/
def afterNumber? : List Token → Option (List Token)
  | t :: ts =>
    if t.kind = .number then some ts
    else if t.isWord "+" || t.isWord "-" then
      match ts with
      | n :: ts => if n.kind = .number then some ts else none
      | [] => none
    else none
  | [] => none

/-- The tokens after the numbers in parentheses that a type may end with. -/
def afterLength? (ts : List Token) : Option (List Token) :=
  match ts with
  | t :: rest =>
    if t.isWord "(" then do
      let rest ← afterNumber? rest
      match rest with
      | [] => none
      | t :: rest =>
        if t.isWord ")" then some rest
        else if t.isWord "," then do
          match ← afterNumber? rest with
          | t :: rest => if t.isWord ")" then some rest else none
          | [] => none
        else none
    else some ts
  | [] => some []

/-- The tokens after a type. -/
def afterType? (ts : List Token) : Option (List Token) :=
  afterLength? (ts.dropWhile isTypeWord)

end Token

/-- Whether a text is a type and nothing else: words without comments, perhaps with numbers
in parentheses. -/
def isPlainType (s : List Char) : Bool :=
  let ts := Token.scan s
  let isComment (t : Token) : Bool := t.kind = .comment
  let meaningful := ts.filter Token.isMeaningful
  s.all (fun c => c.toNat ≠ 0) && !ts.any isComment &&
    meaningful.head?.any Token.isTypeWord && Token.afterType? meaningful == some []

/-- A text without the spaces at its end. -/
def trimEnd (s : List Char) : List Char := (s.reverse.dropWhile Token.isBlankChar).reverse

/-- A text without the spaces at its ends. -/
def trimSpaces (s : List Char) : List Char := trimEnd (s.dropWhile Token.isBlankChar)

/-- A text without a word at its end and the spaces before it. -/
def withoutLast? (word : String) (s : List Char) : Option (List Char) :=
  let n := s.length - word.length
  if word.length ≤ s.length ∧ sameFold (String.ofList (s.drop n)) word then
    some (trimEnd (s.take n))
  else none

/-- The type that some text declares. The words for generated columns at its end are no part of
it. -/
def declaredType (s : List Char) : String :=
  let s := trimSpaces s
  let s :=
    if s.length < 16 then s
    else
      match withoutLast? "always" s with
      | some r => (withoutLast? "generated" r).getD r
      | none => s
  String.ofList (dequoted s)

namespace DefaultValue

/-- A default as an expression. -/
def expression : DefaultValue → Expression
  | .number numeral => .literal (numericStart numeral.toList)
  | .flag b => .literal (.ofBool b)
  | .clock word =>
    let function : Function :=
      if word = "CURRENT_DATE" then .currentDate
      else if word = "CURRENT_TIME" then .currentTime
      else .currentDateTime
    .call function .bytes .nil
  | .text s => .literal (.text s)

end DefaultValue

namespace ColumnText

def default? (c : ColumnText) : Option DefaultValue :=
  (c.constraints.filterMap fun k =>
    match k with
    | .default v => some v
    | _ => none).getLast?

/-- What the declaration of a column says, if its type is a type and nothing else. -/
def spec (c : ColumnText) : ColumnSpec where
  name := c.name
  type := declaredType c.type.toList
  notNull := if c.constraints.contains .notNull then some .abort else none
  default := c.default?.map DefaultValue.expression

/-- The type is a type and nothing else. -/
def hasPlainType (c : ColumnText) : Bool := isPlainType c.type.toList

end ColumnText

/-- The first column that has the name of an earlier one. -/
def repeatedColumn? (earlier : List String) : List String → Option String
  | [] => none
  | c :: cs => if earlier.any (sameFold c) then some c else repeatedColumn? (c :: earlier) cs

namespace TableText

/-- Every type in the statement is a type and nothing else. -/
def hasPlainTypes (t : TableText) : Bool :=
  !t.columns.isEmpty && t.columns.all ColumnText.hasPlainType

/-- The text of the statement has no U+0000, behind which nothing is read. -/
def isWhole (t : TableText) : Bool := t.render.toList.all fun c => c.toNat ≠ 0

/-- Whether a type makes the only column of a primary key the number of the row. -/
def isNumberType (type : String) : Bool := sameFold type "INTEGER"

/-- The column that shows the number of the row. -/
def numberColumn? (t : TableText) : Option String :=
  match t.columns.find? fun c => c.constraints.contains .autoKey with
  | some c => some c.name
  | none =>
    match t.primaryKey with
    | [key] =>
      if t.columns.any fun c => sameFold c.name key && isNumberType c.spec.type then some key
      else none
    | _ => none

/-- The unique constraints: those of columns first, then the primary key. -/
def uniques (t : TableText) : List UniqueSpec :=
  ((t.columns.filter fun c => c.constraints.contains .unique).map fun c =>
    { columns := [{ name := c.name }] }) ++
    if t.primaryKey.isEmpty || t.numberColumn?.isSome then []
    else [{ columns := t.primaryKey.map fun name => { name }, isPrimary := true }]

/-- What a statement declares, if every type in it is a type and nothing else. -/
def plainSpec (t : TableText) : Except Fault TableSpec :=
  match repeatedColumn? [] (t.columns.map ColumnText.name) with
  | some c => .error (.duplicateColumn c)
  | none => .ok {
      name := t.table
      columns := t.columns.map ColumnText.spec
      numberColumn := t.numberColumn?
      isAutoincrement := t.columns.any fun c => c.constraints.contains .autoKey
      uniques := t.uniques }

end TableText

end EntityEngine.Sql
