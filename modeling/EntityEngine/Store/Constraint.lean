import EntityEngine.Store.Table

/-!
What the constraints of a table make of a row that is to be written: values that follow from others
are found, then null is looked for, then the checks, then the keys of other rows. A row is refused,
left out, or stored, and rows in its way may have to go.
-/

namespace EntityEngine.Store

open Sql

/-- What a write changes of a row. A new row is changed altogether. -/
structure Extent where
  /-- The places of the columns that are given new values. -/
  columns : Option (List Nat) := none
  /-- Whether the row is given a number. -/
  number : Bool := true
  deriving Repr, DecidableEq

/-- A row that is to be stored, and the rows that stay beside it. -/
structure Settled where
  row : Row
  others : List Row
  deriving Repr, DecidableEq

namespace Table

/-! ### Values that follow from others -/

/-- The places of the columns that follow from others. -/
def derivedPlaces (t : Table) : List Nat :=
  (List.range t.columns.length).filter fun i =>
    (t.columns[i]?).any fun c => c.derivation.isSome

/-- The places of the columns that a column follows from. -/
def sourcesOf (t : Table) (i : Nat) : List Nat :=
  (((t.columns[i]?).bind Column.derivation).map fun d => d.expression.columns).getD []

/-- Places in the order in which their values can be found, and those of which none can. -/
def derivationOrder (t : Table) : Nat → List Nat → List Nat → List Nat × List Nat
  | 0, found, missing => (found, missing)
  | fuel + 1, found, missing =>
    let step (s : List Nat × List Nat) (i : Nat) : List Nat × List Nat :=
      if (t.sourcesOf i).any s.2.contains then s else (s.1 ++ [i], s.2.erase i)
    let (found', missing') := missing.foldl step (found, missing)
    if missing'.length = missing.length then (found, missing)
    else t.derivationOrder fuel found' missing'

/-- The derived columns in the order in which their values can be found, and the others. -/
def derivations (t : Table) : List Nat × List Nat :=
  t.derivationOrder t.columns.length [] t.derivedPlaces

/-- What expressions see of a row. -/
def settingOf (context : Setting) (purpose : Purpose) (row : Row) : Setting :=
  { context with values := row.values, rowNumber := row.number, purpose }

/-- A row with the value of one derived column. -/
def deriveOne (t : Table) (context : Setting) (row : Row) (i : Nat) : Except Sql.Fault Row :=
  match t.columns[i]? with
  | none => .ok row
  | some c =>
    match c.derivation with
    | none => .ok row
    | some d => do
      let v ← d.expression.value (settingOf context .generated row)
      return { row with values := row.values.set i (c.affinity.store v) }

/-- A row with the values of all derived columns. -/
def derive (t : Table) (context : Setting) (row : Row) : Except Sql.Fault Row :=
  t.derivations.1.foldlM (t.deriveOne context) row

/-- The columns of an extent, with those that follow from them. -/
def changedPlaces (t : Table) : Nat → List Nat → List Nat
  | 0, places => places
  | fuel + 1, places =>
    let more := t.derivedPlaces.filter fun i =>
      !places.contains i && (t.sourcesOf i).any places.contains
    if more.isEmpty then places else t.changedPlaces fuel (places ++ more)

/-- Whether a column is given a new value. -/
def touches (x : Extent) (i : Nat) : Bool :=
  match x.columns with
  | some places => places.contains i
  | none => true

/-! ### Faults that show before a row is looked at -/

/-- What happens when a column is null. Only a value with a default can be replaced. -/
def nullAction? (c : Column) : Option ConflictAction :=
  c.notNull.map fun action => if action = .replace && c.default.isNone then .abort else action

/-- Whether null in a column is replaced by its default. -/
def replacesNull (t : Table) (x : Extent) (c : Column) (i : Nat) : Bool :=
  nullAction? c == some .replace && touches x i && !t.isNumberColumn c.name &&
    c.derivation.isNone

/-- The faults of the expressions that a write of some extent looks at. -/
def extentFaults (t : Table) (x : Extent) : List Sql.Fault :=
  let (found, missing) := t.derivations
  let derived := (found.filterMap fun i => (t.columns[i]?).bind Column.derivation).flatMap fun d =>
    d.expression.faults
  let loop := (missing.getLast?.bind fun i => t.columns[i]?).map fun c =>
    Sql.Fault.other ("generated column loop on \"" ++ c.name ++ "\"")
  let defaults := t.columns.zipIdx.flatMap fun (c, i) =>
    if t.replacesNull x c i then (c.default.map Expression.faults).getD [] else []
  derived ++ loop.toList ++ defaults

/-! ### Null -/

/-- The values of a row of which null is replaced by the default. -/
def replaceNull (t : Table) (context : Setting) (x : Extent) (row : Row) :
    Except Sql.Fault Row := do
  let values ← (t.columns.zip row.values).zipIdx.mapM fun ((c, v), i) =>
    match c.default with
    | some e =>
      if t.replacesNull x c i && v.isNull then
        return c.affinity.store (← e.value { context with purpose := .default })
      else return v
    | none => return v
  return { row with values }

/-- What null in a column leads to. -/
inductive NullAnswer where
  | none
  | ignored
  | refused (column : String)
  deriving Repr, DecidableEq

/-- What the first null that may not be leads to, among the columns of some places. -/
def nullAnswer (t : Table) (isMeant : Nat → Bool) (action : Column → Option ConflictAction)
    (row : Row) : NullAnswer :=
  let isBroken (c : Column) (i : Nat) : Bool :=
    isMeant i && (action c).isSome && !t.isNumberColumn c.name && (valueAt row i).isNull
  match t.columns.zipIdx.find? fun (c, i) => isBroken c i with
  | none => .none
  | some (c, _) => if action c = some .ignore then .ignored else .refused c.name

/-- The row after null was looked for, first in the columns that are given, with defaults in its
place, then where a value could not be replaced and in the columns that follow from others. -/
def settleNull (t : Table) (context : Setting) (x : Extent) (row : Row) :
    Except Sql.Fault (Option Row) := do
  let isDerived (i : Nat) : Bool := t.derivedPlaces.contains i
  let early (c : Column) : Option ConflictAction :=
    (nullAction? c).filter fun action => action ≠ .replace
  let late (c : Column) : Option ConflictAction :=
    (nullAction? c).map fun action => if action = .replace then .abort else action
  let told (answer : NullAnswer) (next : Except Sql.Fault (Option Row)) :
      Except Sql.Fault (Option Row) :=
    match answer with
    | .none => next
    | .ignored => .ok none
    | .refused c => .error (.notNull t.name c)
  told (t.nullAnswer (fun i => touches x i && !isDerived i) early row) do
    let replaces := t.columns.zipIdx.any fun (c, i) => t.replacesNull x c i
    let row ← if replaces then do t.derive context (← t.replaceNull context x row) else pure row
    let isLate (i : Nat) : Bool :=
      isDerived i || (touches x i && (t.columns[i]?).any fun c => nullAction? c == some .replace)
    told (t.nullAnswer isLate late row) (.ok (some row))

/-! ### Checks -/

/-- Whether a check looks at something that a write changes. -/
def concerns (t : Table) (x : Extent) (k : Check) : Bool :=
  match x.columns with
  | none => true
  | some places =>
    let changed := t.changedPlaces t.columns.length places
    k.condition.sources.any fun source =>
      match source with
      | none => x.number
      | some i =>
        if (t.columns[i]?).any fun c => t.isNumberColumn c.name then x.number
        else changed.contains i

/-- The fault of the first check that a row does not meet. -/
def settleChecks (t : Table) (context : Setting) (x : Extent) (row : Row) :
    List Check → Except Sql.Fault Unit
  | [] => .ok ()
  | k :: ks => do
    if t.concerns x k then
      if !(← k.admits (settingOf context .check row)) then throw (.check k.text)
    t.settleChecks context x row ks

/-! ### Keys -/

/-- Something that no two rows share: the number, or the key of a unique index. -/
inductive Key where
  | number
  | index (x : Index)
  deriving Repr, DecidableEq

/-- The keys in the order in which they are looked at. A number whose row is to be removed is
looked at last. -/
def keys (t : Table) : List Key :=
  let indexes := (t.indexesInUse.filter Index.isUnique).map Key.index
  if t.numberConflict = .replace ∧ !t.indexes.isEmpty then indexes ++ [.number]
  else .number :: indexes

/-- Whether two rows share a key. -/
def shares (t : Table) (row other : Row) : Key → Bool
  | .number => other.number == row.number
  | .index x =>
    t.isIn x row && t.isIn x other &&
      sameKey x.columns (t.indexKey x.columns row) (t.indexKey x.columns other)

/-- What happens when two rows share a key. -/
def keyAction (t : Table) : Key → ConflictAction
  | .number => t.numberConflict
  | .index x => x.conflict

/-- The columns of a key as they are told. -/
def keyNames (t : Table) : Key → List String
  | .number => [t.numberColumn.getD "rowid"]
  | .index x => x.columns.map KeyColumn.name

/-- The other rows without those that a row replaces, unless the row is refused or left out. -/
def settleKeys (t : Table) (row : Row) : List Key → List Row → Except Sql.Fault (Option (List Row))
  | [], others => .ok (some others)
  | k :: ks, others =>
    match others.find? fun other => t.shares row other k with
    | none => t.settleKeys row ks others
    | some other =>
      match t.keyAction k with
      | .ignore => .ok none
      | .replace =>
        t.settleKeys row ks (others.filter fun r => r.number ≠ other.number)
      | _ => .error (.unique t.name (t.keyNames k))

/-- A row that keeps all constraints, beside some others; none if it is left out. -/
def accept (t : Table) (context : Setting) (x : Extent) (row : Row) (others : List Row) :
    Except Sql.Fault (Option Settled) := do
  match ← t.settleNull context x (← t.derive context row) with
  | none => return none
  | some row =>
    t.settleChecks context x row t.checks
    return (← t.settleKeys row t.keys others).map fun others => ⟨row, others⟩

end Table

end EntityEngine.Store
