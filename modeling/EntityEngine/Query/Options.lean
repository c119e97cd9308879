import EntityEngine.Json.Basic
import EntityEngine.Number.Overflow
import EntityEngine.Query.Filter.Parser
import EntityEngine.Query.Order

/-!
The options of a query, read from its parameters. A filter or an order that cannot be read is left
out, and the query runs without it. A number of rows to skip counts whole pages only.
-/

namespace EntityEngine

open Number Text

/-- The parameters of a query: texts under names, each name once. -/
abbrev Params := List (String × String)

structure QueryOptions where
  filter : Option Filter := none
  /-- No clauses mean the newest first. -/
  orderBy : List OrderClause := []
  /-- The fields to show; all of them if there is no list. -/
  select : Option (List String) := none
  /-- The rows of a page. -/
  top : Nat := 50
  skip : Nat := 0
  count : Bool := false
  stats : Bool := false
  deriving Repr, DecidableEq

namespace QueryOptions

/-- The rows of a page where no number is given. -/
def defaultTop : Nat := 50

/-- A parameter that is more than white space. -/
def filled? (params : Params) (key : String) : Option String :=
  (params.lookup key).filter fun s => !isBlankText s

def filterOf (params : Params) : Option Filter :=
  (filled? params "$filter").bind fun s => (Filter.parse s).toOption

def orderOf (params : Params) : List OrderClause :=
  match filled? params "$orderby" with
  | some s => (OrderClause.parseList s).toOption.getD []
  | none => []

/-- The well-formed names of the list of fields; none if there are none. -/
def selectOf (params : Params) : Option (List String) :=
  match params.lookup "$select" with
  | none => none
  | some s =>
    match ((split ',' s).map trim).filter isIdentifier with
    | [] => none
    | fields => some fields

/-- A parameter that is a natural number of 32 bits. -/
def natOf? (params : Params) (key : String) : Option Nat :=
  (params.lookup key).bind fun s => nat32? (trim s)

def topOf (params : Params) : Nat :=
  match natOf? params "$top" with
  | none => defaultTop
  | some n => if 0 < n then n else defaultTop

def isTrue (params : Params) (key : String) : Bool :=
  (params.lookup key).any fun s => sameFold (trim s) "true"

/-- The options that parameters ask for; parameters under other names mean nothing. -/
def ofParams (params : Params) : QueryOptions where
  filter := filterOf params
  orderBy := orderOf params
  select := selectOf params
  top := topOf params
  skip := (natOf? params "$skip").getD 0
  count := isTrue params "$count"
  stats := isTrue params "$stats"

/-- The page that the skipped rows lead to, counted from 1. -/
def page (o : QueryOptions) : Except Overflow Nat := add32 (o.skip / max o.top 1) 1

/-- The rows before the page. -/
def offset (o : QueryOptions) : Except Overflow Nat := do
  let page ← o.page
  return (page - 1) * o.top

/-- The row with the selected fields alone; `id` is always kept. -/
def project (o : QueryOptions) (row : ValueMap) : ValueMap :=
  match o.select with
  | none => row
  | some fields => row.restrict fun key => key == "id" || fields.contains key

end QueryOptions

end EntityEngine
