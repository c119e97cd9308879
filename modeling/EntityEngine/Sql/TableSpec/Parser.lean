import EntityEngine.Sql.TableSpec
import EntityEngine.Sql.Term.Parser

/-!
Reading a statement that makes a table where the type of a column has more in it than a type: it
is read as a whole, so that text may hold constraints, further columns, or the end of the table.
What the expressions in it mean is found out when all columns are known.
-/

namespace EntityEngine.Sql

open Text

/-- An expression in an index or a key, with its direction. -/
structure KeyTerm where
  term : Term
  isDescending : Bool := false
  /-- Where null is to stand, if that is told. -/
  nulls : Option String := none
  deriving Repr

/-- A table while its statement is read. -/
structure TableDraft where
  spec : TableSpec
  hasKey : Bool := false
  /-- The name that the next checks get. -/
  constraintName : Option String := none
  /-- The checks with their texts. -/
  checks : List (String × Term) := []
  /-- What the columns of some names follow from, and whether they are stored. -/
  generated : List (String × Term × Bool) := []
  deriving Repr

namespace Term

/-- An expression without the collations told at its end. -/
def withoutCollation : Term → Term
  | collate e _ => e.withoutCollation
  | e => e

end Term

namespace TableDraft

/-- The name of the column that was read last. -/
def lastName (d : TableDraft) : String := (d.spec.columns.getLast?.map ColumnSpec.name).getD ""

/-- The column that was read last, changed. -/
def changeLast (d : TableDraft) (change : ColumnSpec → ColumnSpec) : TableDraft :=
  match d.spec.columns.getLast? with
  | some c => { d with spec := { d.spec with columns := d.spec.columns.dropLast ++ [change c] } }
  | none => d

def column? (d : TableDraft) (name : String) : Option ColumnSpec :=
  d.spec.columns.find? fun c => sameFold c.name name

def isGenerated (d : TableDraft) (name : String) : Bool :=
  d.generated.any fun (n, _) => sameFold n name

/-- The columns as expressions see them. -/
def scope (d : TableDraft) (purpose : Purpose) : Scope where
  table := d.spec.name
  columns := d.spec.columns.map fun c => ⟨c.name, .ofType c.type, c.collation⟩
  purpose

def told (message : String) : StatementFault := { fault := .other message }

def addColumn (d : TableDraft) (name : String) (type : List Char) :
    Except StatementFault TableDraft :=
  if (d.column? name).isSome then .error { fault := .duplicateColumn name }
  else
    .ok { d with
      spec := { d.spec with columns := d.spec.columns ++ [{ name, type := declaredType type }] }
      constraintName := none }

/-! ### Keys -/

/-- The fault of a key that says where null is to stand. -/
def nullsFault? (keys : List KeyTerm) : Option StatementFault :=
  (keys.findSome? KeyTerm.nulls).map fun word => told ("unsupported use of NULLS " ++ word)

/-- A collation by its name. -/
def collationNamed (name : String) : Except StatementFault Collation :=
  match Collation.ofName? name with
  | some c => .ok c
  | none => .error { fault := .noSuchCollation name }

/-- The column of a key. A name in single quotes may stand for one. -/
def keyColumn (d : TableDraft) (k : KeyTerm) : Except StatementFault KeyColumn := do
  let prohibited : StatementFault :=
    told "expressions prohibited in PRIMARY KEY and UNIQUE constraints"
  let c ← match k.term.withoutCollation with
    | .name s quote place =>
      match d.column? s with
      | some c => pure c
      | none =>
        throw (if quote = some '"' then prohibited
          else { fault := .noSuchColumn s, place := some place })
    | .text s place =>
      match d.column? s with
      | some c => pure c
      | none => throw { fault := .noSuchColumn s, place := some place }
    | e => throw ((e.fault? (d.scope .index)).getD prohibited)
  let collation ← match k.term with
    | .collate _ name => collationNamed name
    | _ => pure c.collation
  return { name := c.name, collation, isDescending := k.isDescending }

/-- Whether two unique constraints are of the same columns. -/
def sameColumns (a b : List KeyColumn) : Bool :=
  a.length == b.length &&
    (a.zip b).all fun (x, y) => sameFold x.name y.name && x.collation == y.collation

/-- Some constraints with one more, which counts as an earlier one of the same columns. -/
def withUnique (u : UniqueSpec) : List UniqueSpec → Except StatementFault (List UniqueSpec)
  | [] => .ok [u]
  | v :: vs =>
    if sameColumns u.columns v.columns then
      match v.conflict, u.conflict with
      | some a, some b =>
        if a = b then .ok ({ v with isPrimary := v.isPrimary || u.isPrimary } :: vs)
        else .error (told "conflicting ON CONFLICT clauses specified")
      | a, b =>
        .ok ({ v with conflict := a.orElse fun _ => b, isPrimary := v.isPrimary || u.isPrimary } ::
          vs)
    else (withUnique u vs).map (v :: ·)

/-- A unique constraint of some columns. -/
def addUnique (d : TableDraft) (keys : List KeyTerm) (conflict : Option ConflictAction)
    (isPrimary : Bool := false) : Except StatementFault TableDraft := do
  match nullsFault? keys with
  | some f => throw f
  | none =>
    let columns ← keys.mapM d.keyColumn
    let uniques ← withUnique { columns, conflict, isPrimary } d.spec.uniques
    return { d with spec := { d.spec with uniques } }

/-- The name that an expression is, in any quotes. -/
def keyName? (k : KeyTerm) : Option String :=
  match k.term.withoutCollation with
  | .name s _ _ | .text s _ => some s
  | _ => none

/-- The primary key. A single column of the type for row numbers shows them, unless its own
constraint says that it descends. -/
def addKey (d : TableDraft) (keys : List KeyTerm) (conflict : Option ConflictAction)
    (isDescending isAutoincrement : Bool) : Except StatementFault TableDraft := do
  if d.hasKey then throw { fault := .severalKeys d.spec.name }
  let d := { d with hasKey := true }
  let numbered : Option ColumnSpec := match keys with
    | [k] => ((keyName? k).bind d.column?).filter fun c =>
      TableText.isNumberType c.type && !isDescending
    | _ => none
  if isAutoincrement && numbered.isNone then throw { fault := .autoincrementElsewhere }
  if keys.any fun k => (keyName? k).any d.isGenerated then
    throw (told "generated columns cannot be part of the PRIMARY KEY")
  match numbered with
  | some c =>
    match nullsFault? keys with
    | some f => throw f
    | none =>
      return { d with spec := { d.spec with
        numberColumn := some c.name, numberConflict := conflict, isAutoincrement } }
  | none => d.addUnique keys conflict true

/-- The column that was read last as a key. -/
def lastKey (d : TableDraft) (isDescending : Bool) : List KeyTerm :=
  [{ term := .name d.lastName none 0, isDescending }]

/-! ### Other constraints -/

/-- The collation of the column that was read last, and of an index of it. -/
def addCollation (d : TableDraft) (name : String) : Except StatementFault TableDraft := do
  let collation ← collationNamed name
  let last := d.lastName
  let changed (u : UniqueSpec) : UniqueSpec :=
    match u.columns with
    | k :: ks =>
      if sameFold k.name last then { u with columns := { k with collation } :: ks } else u
    | [] => u
  let d := d.changeLast fun c => { c with collation }
  return { d with spec := { d.spec with uniques := d.spec.uniques.map changed } }

/-- A check with the text between its parentheses, which is its name if it has no other. -/
def addCheck (d : TableDraft) (text : List Char) (e : Term) : TableDraft :=
  let name := d.constraintName.getD (String.ofList (dequoted (trimSpaces text)))
  { d with checks := d.checks ++ [(name, e)] }

/-- A default for the column that was read last. -/
def addDefault (d : TableDraft) (e : Term) : Except StatementFault TableDraft :=
  if !e.isConstant then
    .error (told ("default value of column [" ++ d.lastName ++ "] is not constant"))
  else if d.isGenerated d.lastName then .error (told "cannot use DEFAULT on a generated column")
  else .ok (d.changeLast fun c => { c with default := some (e.resolve {}) })

/-- What the column that was read last follows from. It may be told to be stored. -/
def addGenerated (d : TableDraft) (e : Term) (kind : Option String) :
    Except StatementFault TableDraft :=
  let name := d.lastName
  let isKind := kind.all fun s => sameFold s "virtual" || sameFold s "stored"
  let hasValue := (d.column? name).any fun c => c.default.isSome
  let isKey := d.spec.numberColumn.any (sameFold name) ||
    d.spec.uniques.any fun u => u.isPrimary && u.columns.any fun k => sameFold k.name name
  if hasValue || d.isGenerated name || !isKind then
    .error (told ("error in generated column \"" ++ name ++ "\""))
  else if isKey then .error (told "generated columns cannot be part of the PRIMARY KEY")
  else
    let e := match e with
      | .name .. => .positive e
      | e => e
    let isStored := kind.any (sameFold "stored")
    .ok { d with generated := d.generated ++ [(name, e, isStored)] }

/-- A reference to another table, which is written in some way at some place. -/
def addForeignKey (d : TableDraft) (columns : Option (List String)) (table written : String)
    (place : Nat) (parents : List String) (onDelete onUpdate : ReferenceAction) :
    Except StatementFault TableDraft := do
  let own := columns.getD [d.lastName]
  if !parents.isEmpty && parents.length ≠ own.length then
    throw (match columns with
      | none =>
        { told ("foreign key on " ++ d.lastName ++
            " should reference only one column of table " ++ written) with
          place := some place }
      | some _ =>
        told ("number of columns in foreign key does not match the number of columns in " ++
          "the referenced table"))
  match own.find? fun name => (d.column? name).isNone with
  | some name => throw (told ("unknown column \"" ++ name ++ "\" in foreign key definition"))
  | none =>
    let key : ForeignKey := { columns := own, table, parents, onDelete, onUpdate }
    return { d with spec := { d.spec with foreignKeys := d.spec.foreignKeys ++ [key] } }

/-- The last reference with the time when it is looked at. -/
def defer (d : TableDraft) (isDeferred : Bool) : TableDraft :=
  match d.spec.foreignKeys.getLast? with
  | some k => { d with spec := { d.spec with
      foreignKeys := d.spec.foreignKeys.dropLast ++ [{ k with isDeferred }] } }
  | none => d

/-! ### The whole table -/

/-- What a column of a name follows from, and whether it is stored. -/
def source? (d : TableDraft) (name : String) : Option (Term × Bool) :=
  (d.generated.find? fun (n, _) => n = name).map Prod.snd

/-- The fault of what the checks and the generated columns name. -/
def fault? (d : TableDraft) : Option StatementFault :=
  if d.generated.length = d.spec.columns.length then
    some (told "must have at least one non-generated column")
  else
    let ofChecks := d.checks.findSome? fun (_, e) => e.fault? (d.scope .check)
    (d.spec.columns.filterMap fun c => d.source? c.name).foldl
      (fun met (e, _) => (e.search (d.scope .generated) met).1) ofChecks

/-- The table with its expressions. -/
def resolved (d : TableDraft) : TableSpec :=
  { d.spec with
    columns := d.spec.columns.map fun c =>
      match d.source? c.name with
      | some (e, isStored) =>
        { c with derivation := some ⟨e.resolve (d.scope .generated), isStored⟩ }
      | none => c
    checks := d.checks.map fun (text, e) => ⟨text, e.resolve (d.scope .check)⟩ }

end TableDraft

namespace Parser

/-- A change of a table that may be at fault. -/
def change (d : TableDraft) (result : Except StatementFault TableDraft) : Parser TableDraft :=
  match result with
  | .ok d => return d
  | .error f => do
    fail f
    return d

/-- What happens when a constraint is broken. -/
def conflictClause : Parser (Option ConflictAction) := part do
  if ← accept "ON" then
    expect "CONFLICT"
    let words : List (String × ConflictAction) := [("ROLLBACK", .rollback), ("ABORT", .abort),
      ("FAIL", .fail), ("IGNORE", .ignore), ("REPLACE", .replace)]
    return some (← take fun t => (words.find? fun (word, _) => t.isWord word).map Prod.snd)
  else
    deepen
    return none

/-- A value without a name in it. -/
def plainTerm : Parser Term := do
  let here ← place
  take fun t =>
    if t.kind = .variable then none
    else if clockWords.any t.isWord then some (.call { name := String.ofList t.raw, place := here } [])
    else literal? here t

/-- A name as a default: the words for truth without quotes are numbers, any other name is a
text. -/
def defaultName? (place : Nat) (t : Token) : Option Term :=
  match t.quotedName? with
  | some s => some (.text s place)
  | none =>
    (t.bareName?.filter fun _ => !isJoiningWord t.raw || t.isWord "INDEXED").map fun s =>
      if sameFold s "true" || sameFold s "false" then .name s none place else .text s place

/-- The value of a default. -/
def default : Parser Term := do
  if ← accept "(" then
    let e ← expression
    expect ")"
    return e
  if ← accept "+" then
    deepen
    return .positive (← plainTerm)
  if ← accept "-" then
    deepen
    return .negative (← plainTerm)
  deepen
  let here ← place
  match (← peek?).bind (defaultName? here) with
  | some e =>
    if (← peek?).any fun t => clockWords.any t.isWord then plainTerm
    else
      skip
      return e
  | none => plainTerm

/-- A check after its keyword. -/
def check (d : TableDraft) : Parser TableDraft := do
  let inside := (← source).drop 1
  expect "("
  let e ← expression
  let closing ← source
  expect ")"
  return d.addCheck (inside.take (inside.length - closing.length)) e

/-- A name as it is written and as it is meant. -/
def writtenName : Parser (String × String) := part do
  take fun t => t.name?.map fun s => (String.ofList t.raw, s)

/-- Names between commas in parentheses. -/
def nameList : Nat → Parser (List String)
  | 0 => unexpected
  | fuel + 1 => do
    let (written, name) ← writtenName
    let hasCollation ← accept "COLLATE"
    if hasCollation then discard <| take fun t => if t.isTypeWord then t.name? else none
    let isAscending ← accept "ASC"
    let isDescending ← if isAscending then pure false else accept "DESC"
    if hasCollation || isAscending || isDescending then
      fail (TableDraft.told ("syntax error after column name \"" ++ written ++ "\""))
    if ← accept "," then return name :: (← nameList fuel)
    expect ")"
    return [name]

/-- What happens when a row that is referred to goes away or changes. -/
def referenceAction : Parser ReferenceAction := do
  if ← accept "SET" then
    if ← accept "NULL" then return .setNull
    expect "DEFAULT"
    return .setDefault
  if ← accept "CASCADE" then return .cascade
  if ← accept "RESTRICT" then return .restrict
  expect "NO"
  expect "ACTION"
  return .none

/-- The actions of a reference. -/
def referenceActions : Nat → ReferenceAction × ReferenceAction →
    Parser (ReferenceAction × ReferenceAction)
  | 0, actions => return actions
  | fuel + 1, (onDelete, onUpdate) => do
    if ← accept "MATCH" then
      discard name
      referenceActions fuel (onDelete, onUpdate)
    else if ← accept "ON" then
      if ← accept "DELETE" then referenceActions fuel (← referenceAction, onUpdate)
      else if ← accept "UPDATE" then referenceActions fuel (onDelete, ← referenceAction)
      else
        expect "INSERT"
        discard referenceAction
        referenceActions fuel (onDelete, onUpdate)
    else return (onDelete, onUpdate)

/-- A reference after its keyword, up to where it says when it is looked at. It is to be added for
some columns, or for the column that was read last. -/
def reference (fuel : Nat) :
    Parser (TableDraft → Option (List String) → Except StatementFault TableDraft) := do
  let here ← place
  let (written, table) ← writtenName
  let parents ← if ← accept "(" then nameList fuel else pure []
  let (onDelete, onUpdate) ← referenceActions fuel (.none, .none)
  return fun d columns => d.addForeignKey columns table written here parents onDelete onUpdate

/-- The rest of a clause that says when a reference is looked at. -/
def deferral : Parser Bool := do
  if ← accept "INITIALLY" then
    if ← accept "DEFERRED" then return true
    expect "IMMEDIATE"
  return false

/-- What a column follows from. -/
def generated (d : TableDraft) : Parser TableDraft := do
  expect "("
  let e ← expression
  expect ")"
  let kind ← match ← peek? with
    | some t =>
      match t.quotedName?.orElse fun _ => (t.bareName?.filter fun _ => !isJoiningWord t.raw) with
      | some _ =>
        skip
        pure (some (String.ofList t.raw))
      | none => pure none
    | none => pure none
  change d (d.addGenerated e kind)

/-- A constraint of a column, if one follows. -/
def columnConstraint (fuel : Nat) (d : TableDraft) : Parser (Option TableDraft) := do
  if ← accept "CONSTRAINT" then return some { d with constraintName := some (← name) }
  if ← accept "DEFAULT" then
    let e ← default
    return some (← change d (d.addDefault e))
  if ← accept "NULL" then
    discard conflictClause
    return some d
  if ← accept "NOT" then
    if ← accept "DEFERRABLE" then
      discard deferral
      return some (d.defer false)
    expect "NULL"
    let action ← conflictClause
    return some (d.changeLast fun c => { c with notNull := some (action.getD .abort) })
  if ← accept "PRIMARY" then
    expect "KEY"
    let isDescending ← accept "DESC"
    if !isDescending then discard <| accept "ASC"
    let action ← conflictClause
    let isAutoincrement ← accept "AUTOINCREMENT"
    return some (← change d (d.addKey (d.lastKey isDescending) action isDescending isAutoincrement))
  if ← accept "UNIQUE" then
    let action ← conflictClause
    return some (← change d (d.addUnique (d.lastKey false) action))
  if ← accept "CHECK" then return some (← check d)
  if ← accept "REFERENCES" then
    let add ← reference fuel
    return some (← change d (add d none))
  if ← accept "DEFERRABLE" then
    let isDeferred ← deferral
    return some (d.defer isDeferred)
  if ← accept "COLLATE" then
    let collation ← take fun t => if t.isTypeWord then t.name? else none
    return some (← change d (d.addCollation collation))
  if ← accept "GENERATED" then
    expect "ALWAYS"
    expect "AS"
    return some (← generated d)
  if ← accept "AS" then return some (← generated d)
  return none

/-- What follows the type of a column, from a depth on. -/
def columnConstraints (depth : Nat) : Nat → TableDraft → Parser TableDraft
  | 0, d => return d
  | fuel + 1, d => do
    match ← columnConstraint fuel d with
    | some d =>
      complete depth
      columnConstraints depth fuel d
    | none => return d

/-- Expressions with directions between commas. -/
def keyTerms : Nat → Parser (List KeyTerm)
  | 0 => unexpected
  | fuel + 1 => do
    let depth := (← get).depth
    let term ← expression
    let isDescending ← accept "DESC"
    if !isDescending then
      if !(← accept "ASC") then deepen
    let nulls ← if ← accept "NULLS" then
        if ← accept "FIRST" then pure (some "FIRST")
        else
          expect "LAST"
          pure (some "LAST")
      else pure none
    complete depth
    let key : KeyTerm := { term, isDescending, nulls }
    if ← accept "," then return key :: (← keyTerms fuel)
    return [key]

/-- Whether the next token starts a constraint of the table. -/
def isTableConstraint : Parser Bool := do
  let next ← peek?
  return ["CONSTRAINT", "PRIMARY", "UNIQUE", "CHECK", "FOREIGN"].any fun word =>
    next.any fun t => t.isWord word

/-- A constraint of the table. -/
def tableConstraint (fuel : Nat) (d : TableDraft) : Parser TableDraft := do
  if ← accept "CONSTRAINT" then return { d with constraintName := some (← name) }
  if ← accept "PRIMARY" then
    expect "KEY"
    expect "("
    let keys ← keyTerms fuel
    let isAutoincrement ← accept "AUTOINCREMENT"
    expect ")"
    let action ← conflictClause
    change d (d.addKey keys action false isAutoincrement)
  else if ← accept "UNIQUE" then
    expect "("
    let keys ← keyTerms fuel
    expect ")"
    let action ← conflictClause
    change d (d.addUnique keys action)
  else if ← accept "CHECK" then
    let d ← check d
    discard conflictClause
    return d
  else
    expect "FOREIGN"
    expect "KEY"
    expect "("
    let columns ← nameList fuel
    expect "REFERENCES"
    let add ← reference fuel
    let isDeferred ← if ← accept "NOT" then
        expect "DEFERRABLE"
        discard deferral
        pure false
      else if ← accept "DEFERRABLE" then deferral
      else pure false
    change d ((add d (some columns)).map fun d => d.defer isDeferred)

/-- The constraints of a table, up to its closing parenthesis, which is taken too. -/
def tableConstraints (depth : Nat) : Nat → TableDraft → Parser TableDraft
  | 0, _ => unexpected
  | fuel + 1, d => do
    let d ← tableConstraint fuel d
    complete depth
    if ← accept "," then
      if ← isTableConstraint then tableConstraints depth fuel { d with constraintName := none }
      else unexpected
    else if ← isTableConstraint then
      deepen
      tableConstraints depth fuel d
    else
      expect ")"
      return d

/-- The columns and the constraints of a table, up to its closing parenthesis. -/
def tableBody (depth : Nat) : Nat → TableDraft → Parser TableDraft
  | 0, _ => unexpected
  | fuel + 1, d => do
    let (column, type) ← part do
      let column ← name
      return (column, ← typeText)
    let d ← change d (d.addColumn column type)
    deepen
    let d ← columnConstraints ((← get).depth - 1) fuel d
    complete depth
    if ← accept "," then
      if ← isTableConstraint then tableConstraints (← get).depth fuel d
      else tableBody depth fuel d
    else
      expect ")"
      return d

/-- The words that a table may end with, none of which is known. -/
def tableOption : Parser Unit := do
  discard <| accept "WITHOUT"
  if (← peek?).any fun t => t.name?.isSome then
    let (written, _) ← writtenName
    fail (TableDraft.told ("unknown table option: " ++ written))

/-- A statement that makes a table, with the mark that may end it. -/
def table : Parser TableSpec := do
  let d ← part do
    expect "CREATE"
    expect "TABLE"
    if ← accept "IF" then
      expect "NOT"
      expect "EXISTS"
    let table ← name
    return { spec := { name := table, columns := [] } : TableDraft }
  expect "("
  let d ← tableBody (← get).depth ((← get).tokens.length + 1) d
  tableOption
  let finish : Parser TableSpec := do
    match (← get).pending.orElse fun _ => d.fault? with
    | some f => throw f
    | none => return d.resolved
  if (← peek?).isNone then finish
  else
    if !(← isNext ";") then unexpected
    let spec ← finish
    skip
    return spec

end Parser

namespace TableText

/-- The tokens of the statement, and the text behind it. -/
def tokens (t : TableText) : List PlacedToken × List Char :=
  firstStatement (placedTokens t.render.toList)

/-- What a statement declares, read from its text. -/
def readSpec (t : TableText) : Except Fault TableSpec :=
  match Parser.table.run { tokens := t.tokens.1 } with
  | .ok (spec, _) => .ok spec
  | .error f => .error (f.within t.render)

/-- What a statement declares. One that is cut short is incomplete, unless a fault shows before. -/
def spec (t : TableText) : Except Fault TableSpec :=
  if !t.hasPlainTypes then t.readSpec
  else if t.isWhole then t.plainSpec
  else
    match t.readSpec with
    | .error f => .error f
    | .ok _ => .error .incompleteInput

/-- The text of further statements behind the one that makes the table. Where all types are plain
there are none. -/
def further (t : TableText) : List Char := if t.hasPlainTypes then [] else t.tokens.2

end TableText

end EntityEngine.Sql
