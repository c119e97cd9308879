import EntityEngine.Sql.Expression
import EntityEngine.Sql.Parser
import EntityEngine.Sql.Term

/-!
What the names in an expression mean. Conditions and generated columns are looked through when
their table is made: a name that means nothing is a fault of the statement, and of several faults
the last one that is met is told. A part that no value can be given of is refused where it is
evaluated. A default has no names but those of functions.
-/

namespace EntityEngine.Sql

open Number Text

/-- The names that mean the number of a row, unless a column has one of them. -/
def isRowNumberName (name : String) : Bool := ["rowid", "oid", "_rowid_"].any (sameFold name)

/-- A column as expressions see it. -/
structure ScopeColumn where
  name : String
  affinity : Affinity
  collation : Collation := .bytes
  deriving Repr, DecidableEq

/-- What names may mean. -/
structure Scope where
  table : String := ""
  columns : List ScopeColumn := []
  purpose : Purpose := .default
  deriving Repr, DecidableEq

/-- What a name means. -/
inductive Reference where
  | column (place : Nat) (c : ScopeColumn)
  | rowNumber
  | text (s : String)
  | truth (b : Bool)
  deriving Repr, DecidableEq

namespace Scope

/-- A column with a name, else the number of the row. Generated columns do not see the latter. -/
def column? (scope : Scope) (name : String) : Option Reference :=
  match scope.columns.zipIdx.find? fun (c, _) => sameFold c.name name with
  | some (c, i) => some (.column i c)
  | none =>
    if scope.purpose = .check ∧ isRowNumberName name then some .rowNumber else none

/-- What a name alone means. One in double quotes that no column has is a text. -/
def name? (scope : Scope) (name : String) (quote : Option Char) : Option Reference :=
  (scope.column? name).orElse fun _ =>
    if quote = some '"' then some (.text name)
    else if quote.isNone ∧ sameFold name "true" then some (.truth true)
    else if quote.isNone ∧ sameFold name "false" then some (.truth false)
    else none

/-- What a name with a table before it means. Conditions do not look at a schema. -/
def member? (scope : Scope) (schema : Option String) (table name : String) : Option Reference :=
  let isMain := scope.purpose = .check ∨ schema.all (sameFold "main")
  if sameFold scope.table table ∧ isMain then scope.column? name else none

/-- What the expressions of a purpose are called. -/
def place (scope : Scope) : String :=
  match scope.purpose with
  | .generated => "generated columns"
  | .index => "index expressions"
  | _ => "CHECK constraints"

end Scope

namespace Term

/-- How many values an expression has. -/
def width : Term → Nat
  | row es => es.length
  | _ => 1

/-- An expression without what only says how it is compared, or how likely it is. -/
def core : Term → Term
  | collate e _ => e.core
  | call c [e] => if ["likely", "unlikely"].any (sameFold c.name) then e.core else call c [e]
  | call c [e, p] => if sameFold c.name "likelihood" then e.core else call c [e, p]
  | e => e

/-- A probability as a function takes it: a numeral with a point or an exponent, of at most 1. -/
def isProbability : Term → Bool
  | number raw _ =>
    match Numeral.scan raw with
    | some (n, []) => !n.isInteger && !(n.countedDouble > 1)
    | _ => false
  | _ => false

/-! ### Faults of names -/

/-- The last fault that was met, if there was one, and whether the search goes on. -/
abbrev Search := Option StatementFault × Bool

def notFound (scope : Scope) (schema : Option String) (path : List String) (place : Nat) :
    Search :=
  let names := (if scope.purpose = .check then [] else schema.toList) ++ path
  (some { fault := .noSuchColumn (join "." names), place := some place }, false)

/-- Something that the expressions of a purpose may not have. -/
def prohibited (scope : Scope) (what : String) (place : Option Nat) : StatementFault where
  fault := .other (what ++ " prohibited in " ++ scope.place)
  place

/-- The fault of a call itself. -/
def callFault? (scope : Scope) (c : Call) (arguments : List Term) : Option StatementFault :=
  let told (message : String) : Option StatementFault :=
    some { fault := .other message, place := some c.place }
  let named := FunctionEntry.named c.name
  match named.find? fun e => e.admits arguments.length with
  | none =>
    if named.isEmpty then told ("no such function: " ++ c.name)
    else told ("wrong number of arguments to function " ++ c.name ++ "()")
  | some e =>
    let early := match e.role, arguments with
      | .likely, [_, p] =>
        if p.isProbability then none
        else told ("second argument to " ++ c.name ++
          "() must be a constant between 0.0 and 1.0")
      | .scalar f, _ =>
        if (scope.purpose = .generated ∨ scope.purpose = .index) ∧ !f.isDeterministic then
          some (prohibited scope "non-deterministic functions" (some c.place))
        else none
      | _, _ => none
    let late := match e.role with
      | .aggregate =>
        told ("misuse of " ++ (if c.hasWindow then "window" else "aggregate") ++ " function " ++
          c.name ++ "()")
      | .window => told ("misuse of window function " ++ c.name ++ "()")
      | _ =>
        if c.hasWindow then told (c.name ++ "() may not be used as a window function")
        else if c.hasFilter then
          told ("FILTER may not be used with non-aggregate " ++ c.name ++ "()")
        else if c.hasOrder then
          told ("ORDER BY may not be used with non-aggregate " ++ c.name ++ "()")
        else none
    late.orElse fun _ => early

/-- The search in one part after another. -/
def andThen (first : Search) (second : Option StatementFault → Search) : Search :=
  if first.2 then second first.1 else first

/-- The search in the parts of an expression, unless there is a fault already. -/
def inside (met : Option StatementFault) (parts : Option StatementFault → Search) : Search :=
  if met.isSome then (met, false) else parts met

/-- The search in an expression of two sides that have to be of one width. -/
def sides (met : Option StatementFault) (fits : Bool) (place : Option Nat)
    (parts : Option StatementFault → Search) : Search :=
  if fits then inside met parts
  else (some { fault := .other "row value misused", place }, false)

mutual

/-- The search for faults of names in an expression. -/
def search (scope : Scope) : Term → Option StatementFault → Search
  | null _, met | number _ _, met | text _ _, met | bytes _ _, met | truth _, met | raise, met =>
    (met, met.isNone)
  | name s quote place, met =>
    match scope.name? s quote with
    | some _ => (met, true)
    | none => notFound scope none [s] place
  | member schema table s place, met =>
    match scope.member? schema table s with
    | some _ =>
      if scope.purpose = .generated ∨ scope.purpose = .index then
        (some (prohibited scope "the \".\" operator" (some place)), true)
      else (met, true)
    | none => notFound scope schema [table, s] place
  | parameter place, _ => (some (prohibited scope "parameters" (some place)), false)
  | selected, _ | anySelected, _ => (some (prohibited scope "subqueries" none), false)
  | oneOfRows e, _ => (some (prohibited scope "subqueries" e.place?), false)
  | negative e, met | positive e, met | complement e, met | not e, met | collate e _, met
  | cast e _, met => inside met (search scope e)
  | isNull e, met | notNull e, met => ((search scope e met).1, true)
  | and a b, met | or a b, met | arithmetic _ a b, met | concat a b, met =>
    inside met fun met => andThen (search scope a met) (search scope b)
  | compare _ a b, met =>
    sides met (a.width = b.width) a.place? fun met => andThen (search scope a met) (search scope b)
  | same a b, met | differ a b, met =>
    let both (met : Option StatementFault) : Search := andThen (search scope a met) (search scope b)
    let rest := sides met (a.width = b.width) a.place? both
    match b.core with
    | .name s quote place =>
      match scope.name? s quote with
      | some (.truth _) => both met
      | some _ => rest
      | none => notFound scope none [s] place
    | .truth _ => both met
    | _ => rest
  | between e low high, met =>
    sides met (e.width = low.width && e.width = high.width) e.place? fun met =>
      andThen (search scope e met) fun met => andThen (search scope low met) (search scope high)
  | oneOf (.row es) choices, _ =>
    let misfit := choices.find? fun c => c.width ≠ es.length
    (some (match misfit with
      | some c =>
        { fault := .other ("IN(...) element has " ++ toString c.width ++
            (if c.width = 1 then " term" else " terms") ++ " - expected " ++ toString es.length) }
      | none => prohibited scope "subqueries" (place? (.row es))), false)
  | oneOf e choices, met =>
    inside met fun met => andThen (search scope e met) (searchAll scope choices)
  | row es, met => inside met (searchAll scope es)
  | cases _ parts, met => inside met (searchAll scope parts)
  | call c arguments, met =>
    let met := (callFault? scope c arguments).orElse fun _ => met
    ((searchAll scope arguments met).1, true)

def searchAll (scope : Scope) : List Term → Option StatementFault → Search
  | [], met => (met, true)
  | e :: es, met => andThen (search scope e met) (searchAll scope es)

end

/-- The fault of the names in an expression that is told. -/
def fault? (scope : Scope) (e : Term) : Option StatementFault := (e.search scope none).1

/-! ### Affinities and collations -/

/-- What a name or a member of a table means. -/
def reference? (scope : Scope) : Term → Option Reference
  | name s quote _ => scope.name? s quote
  | member schema table s _ => scope.member? schema table s
  | _ => none

/-- The affinity of a type that a value is made one of. -/
def typeAffinity (type : String) : Affinity := if type.isEmpty then .numeric else .ofType type

/-- The affinity that an expression brings to a comparison. -/
def affinity (scope : Scope) : Term → Affinity
  | cast _ type => typeAffinity type
  | collate e _ => e.affinity scope
  | row (e :: _) => e.affinity scope
  | e =>
    match e.reference? scope with
    | some (.column _ c) => c.affinity
    | some .rowNumber => .integer
    | _ => .none

/-- Whether a collation is told in an expression. -/
def tellsCollation : Term → Bool
  | collate _ _ => true
  | negative e | positive e | complement e | not e | isNull e | notNull e | cast e _
  | oneOfRows e => e.tellsCollation
  | or a b | and a b | compare _ a b | same a b | differ a b | arithmetic _ a b | concat a b =>
    a.tellsCollation || b.tellsCollation
  | between e low high => e.tellsCollation || low.tellsCollation || high.tellsCollation
  | oneOf e es => e.tellsCollation || anyTells es
  | call _ es | row es | cases _ es => anyTells es
  | _ => false
where
  anyTells : List Term → Bool
    | [] => false
    | e :: es => e.tellsCollation || anyTells es

/-- The collation of a name, or a fault. -/
def collationOf (name : String) : Except Fault Collation :=
  match Collation.ofName? name with
  | some c => .ok c
  | none => .error (.noSuchCollation name)

/-- The collation that an expression brings to a comparison. -/
def collation? (scope : Scope) : Term → Option (Except Fault Collation)
  | collate _ s => some (collationOf s)
  | cast e _ | positive e => e.collation? scope
  | negative e | complement e | not e | isNull e | notNull e =>
    if e.tellsCollation then e.collation? scope else none
  | row (e :: _) => e.collation? scope
  | or a b | and a b | compare _ a b | same a b | differ a b | arithmetic _ a b | concat a b =>
    if a.tellsCollation then a.collation? scope
    else if b.tellsCollation then b.collation? scope
    else none
  | between e low high =>
    if e.tellsCollation then e.collation? scope
    else if low.tellsCollation then low.collation? scope
    else if high.tellsCollation then high.collation? scope
    else none
  | oneOf e es => if e.tellsCollation then e.collation? scope else firstTold es
  | call _ es => firstTold es
  | cases _ es => firstTold es
  | e =>
    match e.reference? scope with
    | some (.column _ c) => some (.ok c.collation)
    | _ => none
where
  /-- The collation of the first expression in which one is told. -/
  firstTold : List Term → Option (Except Fault Collation)
    | [] => none
    | e :: es => if e.tellsCollation then e.collation? scope else firstTold es

/-- The collation in which two expressions are compared: one that is told comes first. -/
def jointCollation (scope : Scope) (a b : Term) : Except Fault Collation :=
  if a.tellsCollation then (a.collation? scope).getD (.ok .bytes)
  else if b.tellsCollation then (b.collation? scope).getD (.ok .bytes)
  else ((a.collation? scope).orElse fun _ => b.collation? scope).getD (.ok .bytes)

/-! ### Values -/

/-- The value of a numeral, in base ten or, after `0x`, in base sixteen. A negative one may be one
larger. -/
def numeral (negative : Bool) (raw : List Char) : Expression :=
  let decimal (raw : List Char) : Expression :=
    match Numeral.scan raw with
    | some (n, _) =>
      let m := if negative then -n.toInteger else n.toInteger
      if n.isInteger && inInt64 m then .literal (.integer m)
      else .literal (ofReal (signed negative n.countedDouble))
    | none => .literal (.integer 0)
  match raw with
  | '0' :: x :: digits =>
    if x = 'x' ∨ x = 'X' then
      let significant := digits.dropWhile (· = '0')
      if 16 < significant.length then
        .refused (.other ("hex literal too big: " ++ (if negative then "-" else "") ++
          String.ofList raw))
      else
        let n : Nat := (significant.filterMap fun c => hexValue? c.toNat).foldl
          (fun n d => 16 * n + d) 0
        let m := wrapInt64 n
        .literal (.integer (if negative then wrapInt64 (-m) else m))
    else decimal raw
  | _ => decimal raw

/-- The value of a byte string as it is written. -/
def bytesOf (raw : List Char) : Value := .blob (pairs (raw.filterMap fun c => hexValue? c.toNat))
where
  /-- The bytes that pairs of digits write. -/
  pairs : List Nat → Bytes
    | a :: b :: r => (16 * a + b) :: pairs r
    | _ => []

def misused : Expression := .refused (.other "row value misused")

/-- An expression that cannot be evaluated, with the parts in which other faults are looked for
first. -/
def refusedAfter (parts : List Expression) (f : Fault) : Expression :=
  .coalesce (.ofList (parts ++ [.refused f]))

/-- Two expressions compared. -/
def comparedBy (scope : Scope) (a b : Term)
    (compare : Affinity → Collation → Expression) : Expression :=
  let affinity := (a.affinity scope).joint (b.affinity scope)
  match jointCollation scope a b with
  | .ok c => compare affinity c
  | .error f => refusedAfter [compare affinity .bytes] f

/-- Comparisons of the values of two rows, each still without its operator. -/
def pairedUp (scope : Scope) : List Term → List Term → List Expression → List Expression →
    List (Comparison → Expression)
  | a :: as, b :: bs, e :: es, f :: fs =>
    (fun op => comparedBy scope a b fun x c => .compare op x c e f) :: pairedUp scope as bs es fs
  | _, _, _, _ => []

/-- A comparison of rows: of their first values that differ. -/
def comparedRows : Comparison → List (Comparison → Expression) → Expression
  | _, [] => misused
  | op, [pair] => pair op
  | .eq, pair :: pairs => .and (pair .eq) (comparedRows .eq pairs)
  | .ne, pair :: pairs => .or (pair .ne) (comparedRows .ne pairs)
  | op, pair :: pairs =>
    let strict : Comparison := if op = .le ∨ op = .lt then .lt else .gt
    .or (pair strict) (.and (pair .eq) (comparedRows op pairs))

/-- The same values in two rows. -/
def sameRows (scope : Scope) : List Term → List Term → List Expression → List Expression →
    Expression
  | [a], [b], [e], [f] => comparedBy scope a b fun x c => .same x c e f
  | a :: as, b :: bs, e :: es, f :: fs =>
    .and (comparedBy scope a b fun x c => .same x c e f) (sameRows scope as bs es fs)
  | _, _, _, _ => misused

/-- The expression of a reference. -/
def referenced : Reference → Expression
  | .column i _ => .column i
  | .rowNumber => .rowNumber
  | .text s => .literal (.text s)
  | .truth b => .literal (.ofBool b)

/-- The truth that a word is. -/
def truth? (scope : Scope) (e : Term) : Option Bool :=
  match e.core with
  | .truth b => some b
  | e =>
    match e.reference? scope with
    | some (.truth b) => some b
    | _ => none

/-- Conditions and results of a case, the conditions compared with a value. -/
def withBase (compareBase : Term → Expression → Expression) :
    List Term → List Expression → List Expression
  | condition :: _ :: terms, e :: result :: es =>
    compareBase condition e :: result :: withBase compareBase terms es
  | _, es => es

/-- The function of a call. -/
def called (scope : Scope) (c : Call) (arguments : List Term) (es : List Expression) :
    Expression :=
  let entry? := (FunctionEntry.named c.name).find? fun e => e.admits arguments.length
  match entry?.map FunctionEntry.role, es with
  | some (.scalar f), es =>
    let collation := if f.isCollated then
        (arguments.findSome? fun e => e.collation? scope).getD (.ok .bytes)
      else .ok .bytes
    match collation with
    | .ok collation => .call f collation (.ofList es)
    | .error fault => refusedAfter es fault
  | some .coalesce, es => .coalesce (.ofList es)
  | some .choice, es => .cases (.ofList es)
  | some .likely, e :: _ => e
  | _, _ => .refused (.other ("unknown function: " ++ c.name ++ "()"))

mutual

/-- The expression of a term, with the meaning of its names in a scope. -/
def resolve (scope : Scope) : Term → Expression
  | null _ => .literal .null
  | number raw _ => numeral false raw
  | text s _ => .literal (.text s)
  | bytes raw _ => .literal (bytesOf raw)
  | truth b => .literal (.ofBool b)
  | name s quote _ => ((scope.name? s quote).map referenced).getD (.refused (.noSuchColumn s))
  | member schema table s _ =>
    ((scope.member? schema table s).map referenced).getD (.refused (.noSuchColumn s))
  | parameter _ => .literal .null
  | negative (.number raw _) => numeral true raw
  | negative e => .negative (e.resolve scope)
  | positive e | collate e _ => e.resolve scope
  | complement e => .complement (e.resolve scope)
  | not e => .not (e.resolve scope)
  | isNull e => .isNull (e.resolve scope)
  | notNull e => .not (.isNull (e.resolve scope))
  | or a b => .or (a.resolve scope) (b.resolve scope)
  | and a b => .and (a.resolve scope) (b.resolve scope)
  | compare op (.row as) (.row bs) =>
    comparedRows op (pairedUp scope as bs (resolveAll scope as) (resolveAll scope bs))
  | compare op a b =>
    comparedBy scope a b fun x c => .compare op x c (a.resolve scope) (b.resolve scope)
  | same (.row as) (.row bs) =>
    sameRows scope as bs (resolveAll scope as) (resolveAll scope bs)
  | differ (.row as) (.row bs) =>
    .not (sameRows scope as bs (resolveAll scope as) (resolveAll scope bs))
  | same a b =>
    match truth? scope b with
    | some t => .isTruth t (a.resolve scope)
    | none => comparedBy scope a b fun x c => .same x c (a.resolve scope) (b.resolve scope)
  | differ a b =>
    .not (match truth? scope b with
      | some t => .isTruth t (a.resolve scope)
      | none => comparedBy scope a b fun x c => .same x c (a.resolve scope) (b.resolve scope))
  | arithmetic op a b => .arithmetic op (a.resolve scope) (b.resolve scope)
  | concat a b => .concat (a.resolve scope) (b.resolve scope)
  | cast e type => .cast (typeAffinity type) (e.resolve scope)
  | call c arguments => called scope c arguments (resolveAll scope arguments)
  | between (.row es) (.row lows) (.row highs) =>
    let values := resolveAll scope es
    .and (comparedRows .ge (pairedUp scope es lows values (resolveAll scope lows)))
      (comparedRows .le (pairedUp scope es highs values (resolveAll scope highs)))
  | between e low high =>
    let value := e.resolve scope
    .and (comparedBy scope e low fun x c => .compare .ge x c value (low.resolve scope))
      (comparedBy scope e high fun x c => .compare .le x c value (high.resolve scope))
  | oneOf e choices =>
    let choices := Expressions.ofList (resolveAll scope choices)
    match (e.collation? scope).getD (.ok .bytes) with
    | .ok c => .oneOf (e.affinity scope) c (e.resolve scope) choices
    | .error f => .oneOf (e.affinity scope) .bytes (refusedAfter [e.resolve scope] f) choices
  | row _ => misused
  | oneOfRows _ | selected | anySelected => .literal .null
  | cases true (base :: parts) =>
    let value := base.resolve scope
    .cases (.ofList (withBase (fun term e =>
      comparedBy scope base term fun a c => .compare .eq a c value e)
      parts (resolveAll scope parts)))
  | cases _ parts => .cases (.ofList (resolveAll scope parts))
  | raise => .refused (.other "RAISE() may only be used within a trigger-program")

def resolveAll (scope : Scope) : List Term → List Expression
  | [] => []
  | e :: es => e.resolve scope :: resolveAll scope es

end

end Term

end EntityEngine.Sql
