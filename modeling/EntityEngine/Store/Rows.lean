import EntityEngine.Store.Consequence
import EntityEngine.Store.Documents
import EntityEngine.Store.Path

/-!
Rows of the tables of entities. A row is found by its key: in a template by the record's
identifier, in a native table by the values of the key fields, joined with commas where there are
several.
-/

namespace EntityEngine.Store

open Number Sql

/-- The columns that a query of an entity shows, with the types of the fields among them. -/
def shownColumns (e : Entity) : List (String × Option FieldType) :=
  e.columns.map fun c => (c, (e.field? c).map Field.type)

/-- The JSON value of a column. Flags show as such, and so does JSON that a text writes. -/
def shownValue (type : Option FieldType) (v : Value) : Json :=
  match type, v with
  | some .boolean, .integer n => .bool (n != 0)
  | some .json, .text s => (Json.parse? s).getD (.text s)
  | _, v => v.toJson

/-- The values of a row under the columns of an entity. -/
def shownRow (e : Entity) (row : Reader) : ValueMap :=
  ValueMap.ofEntries ((shownColumns e).map fun (c, type) =>
    (c, shownValue type (row (.column c)).value))

/-- A key value as a part of a key. -/
def keyPart : Json → String
  | .text s => s
  | v => v.render

/-- The key that a row shows: the value of the key field, or the values of several as a text. -/
def rowKey? (e : Entity) (row : ValueMap) : Option Json :=
  match e.keys.mapM fun f => row.get? f.name with
  | none | some [] => none
  | some [v] => some v
  | some vs => some (.text (Text.join "," (vs.map keyPart)))

/-- A row with its key under `id`, unless it has a value there. -/
def withKey (e : Entity) (row : ValueMap) : ValueMap :=
  if row.contains "id" then row
  else
    match rowKey? e row with
    | some v => row.insert "id" v
    | none => row

/-- The conditions that a key stands for; none if it can name no row. -/
def keyConditions? (e : Entity) (key : String) : Option (List Condition) :=
  let condition (column part : String) : Condition := .compare (.column column) .eq (.text part)
  match e.layout with
  | .template => some [condition "record_id" key]
  | .native =>
    match e.keys with
    | [] => none
    | [f] => some [condition f.name key]
    | fs =>
      let parts := Text.split ',' key
      if parts.length = fs.length then some (List.zipWith condition (fs.map Field.name) parts)
      else none

/-- The columns and values of a new row of a template. -/
def systemValues (ambient : Ambient) : List (String × Value) :=
  let now := ambient.now.stored
  [("record_id", .text ambient.recordId), ("created_at", .text now), ("updated_at", .text now),
    ("version", .integer 1), ("status", .text ItemStatus.active.name)]

/-- The values that a map gives for declared fields. -/
def givenValues (e : Entity) (data : ValueMap) : List (String × Value) :=
  (data.filter fun (name, _) => e.declares name).map fun (name, v) => (name, .ofJson v)

/-- The columns and values of a new row. -/
def newValues (e : Entity) (data : ValueMap) (ambient : Ambient) : List (String × Value) :=
  (match e.layout with
    | .template => systemValues ambient
    | .native => []) ++ givenValues e data

/-- The condition that a row has a number. -/
def numberCondition (number : Int) : Condition := .compare (.plain "rowid") .eq (.integer number)

namespace Database

/-- The table that a statement names. -/
def needTable (db : Database) (name : String) : Except Sql.Fault Table :=
  match db.anyTable? name with
  | some t => .ok t
  | none => .error (.noSuchTable name)

/-- The table that a statement changes. -/
def needTarget (db : Database) (name : String) : Except Sql.Fault Table := do
  let t ← db.needTable name
  if isReadOnly t then throw (.other ("table " ++ t.name ++ " may not be modified"))
  return t

/-- What a statement that is carried out now looks at besides rows. -/
def context (db : Database) (ambient : Ambient) : Setting :=
  { now := ambient.now, lastInsert := db.lastInsert }

/-- The row with a number, as a query shows it. -/
def rowOfNumber (e : Entity) (t : Table) (number : Int) : Except Sql.Fault ValueMap :=
  match t.select e.columns [numberCondition number] [] with
  | [] => .error .noRows
  | row :: _ => .ok (withKey e (shownRow e (t.reader row)))

/-! ### New rows -/

/-- The new row that a statement asks for, if it can be carried out. -/
def insertionInto (db : Database) (as : String) (given : List (String × Value))
    (ambient : Ambient) : Except Sql.Fault (Table × Table.Insertion) := do
  let t ← db.needTarget as
  match t.targetFault? as (given.map Prod.fst) with
  | some f => throw f
  | none =>
    let ofReferences := db.followFault? t (fun _ => true) fun k => k.isDeferred || t.removesOthers
    match toldFault? (t.insertFaults given ++ ofReferences.toList) with
    | some f => throw f
    | none =>
      return (t, ← t.insertion (db.context ambient) (Sequence.largest db.sequences t.name) given)

/-- Whether a row of a table is stored before its references are looked at. -/
def looksLate (t : Table) : Bool := t.foreignKeys.any ForeignKey.isDeferred || t.removesOthers

/-- The database after a new row; a row that was left out leaves the last one as it was. -/
def afterInsertion (db : Database) (context : Setting) (t : Table) (i : Table.Insertion) :
    Except Sql.Fault Database := do
  let db ← match i.settled with
    | some s => do
      let db ← db.storeRow context t s none
      if db.keepsReferences t then pure { db with lastInsert := i.number } else throw .foreignKey
    | none => pure db
  if t.isAutoincrement then
    return { db with sequences := Sequence.raise db.sequences t.name i.number }
  else return db

/-- Stores a new row, and gives the row that was stored last. A row that cannot be found again
stays. -/
def insertRow (db : Database) (e : Entity) (data : ValueMap) (ambient : Ambient) :
    Except EntityEngine.Fault ValueMap × Database :=
  match db.insertionInto e.table (newValues e data ambient) ambient with
  | .error f => (.error (.database f), db)
  | .ok (t, i) =>
    match db.afterInsertion (db.context ambient) t i with
    | .error f =>
      let number := if looksLate t then i.number else db.lastInsert
      (.error (.database f), { db with lastInsert := number })
    | .ok db =>
      match db.needTable e.table with
      | .error f => (.error (.database f), db)
      | .ok t => ((rowOfNumber e t db.lastInsert).mapError .database, db)

/-! ### Queries -/

/-- The rows that a query asks for, and how many there are in all. -/
def queryRows (db : Database) (e : Entity) (o : QueryOptions) :
    Except EntityEngine.Fault (Page ValueMap) := do
  let plan ← (Query.overTable e o).mapError .overflow
  let t ← (db.needTable e.table).mapError .database
  if let some f := t.matchFault? plan.conditions then throw (.database f)
  let found := t.select e.columns plan.conditions plan.order
  return {
    items := (slice plan.limit.toNat plan.offset.toNat found).map fun row =>
      withKey e (shownRow e (t.reader row))
    total := if o.count then some (t.count plan.conditions) else none }

/-- The row with a key. -/
def getRow (db : Database) (e : Entity) (key : String) :
    Except EntityEngine.Fault (Option ValueMap) :=
  match keyConditions? e key with
  | none => .ok none
  | some conditions =>
    match db.needTable e.table with
    | .error f => .error (.database f)
    | .ok t =>
      .ok ((t.select e.columns conditions []).head?.map fun row =>
        withKey e (shownRow e (t.reader row)))

/-! ### Changes -/

/-- The changes that an update makes to the columns of a row. -/
def rowChanges (e : Entity) (data : ValueMap) (ambient : Ambient) :
    List (String × Table.Change) :=
  (match e.layout with
    | .template => [("version", .increment), ("updated_at", .set (.text ambient.now.stored))]
    | .native => []) ++ (givenValues e data).map fun (name, v) => (name, .set v)

/-- The number of a row as its table shows it. -/
def shownNumber (t : Table) (row : Row) : Except Sql.Fault Int :=
  match (t.reader row (.plain "rowid")).value with
  | .integer n => .ok n
  | v =>
    let column := match t.place? "rowid" with
      | some i => ((t.columns[i]?).map Column.name).getD "rowid"
      | none => "rowid"
    .error (.resultType v.typeName column 0)

/-- The database with the rows of some numbers changed one after the other, and those rows as they
are then. A row that is gone when its turn comes is passed over. -/
def changeNumbered (db : Database) (context : Setting) (t : Table)
    (changes : List (String × Table.Change)) : List Int → Except Sql.Fault (Database × List Row)
  | [] => .ok (db, [])
  | number :: numbers => do
    let t := db.current t
    match t.row? number with
    | none => changeNumbered db context t changes numbers
    | some row =>
      match ← t.change context changes row with
      | none => changeNumbered db context t changes numbers
      | some s =>
        let db ← db.storeRow context t s (some row)
        let (db, others) ← changeNumbered db context t changes numbers
        return (db, s.row :: others)

/-- The database with the rows of some conditions changed, and the first of them as it is then. -/
def changeRows (db : Database) (e : Entity) (changes : List (String × Table.Change))
    (conditions : List Condition) (ambient : Ambient) :
    Except Sql.Fault (Option (ValueMap × Database)) := do
  let t ← db.needTarget e.table
  match t.changeFault? (changes.map Prod.fst) with
  | some f => throw f
  | none =>
    let extent := t.extentOf changes
    match toldFault? (t.extentFaults extent ++ db.updateFaults t extent) with
    | some f => throw f
    | none =>
      let (db, rows) ← db.changeNumbered (db.context ambient) t changes (t.numbersOf conditions)
      if !db.keepsReferences t then throw .foreignKey
      match rows with
      | [] => return none
      | row :: _ =>
        let number ← shownNumber t row
        let shown ← rowOfNumber e (db.current t) number
        return some (shown, db)

/-- Changes the row with a key, and gives it as it is then. An update without a change only
reads. -/
def updateRow (db : Database) (e : Entity) (key : String) (data : ValueMap) (ambient : Ambient) :
    Except EntityEngine.Fault (ValueMap × Database) :=
  let notFound : EntityEngine.Fault := .recordNotFound (.key key)
  match keyConditions? e key with
  | none => .error notFound
  | some conditions =>
    match rowChanges e data ambient with
    | [] =>
      match db.getRow e key with
      | .error f => .error f
      | .ok none => .error notFound
      | .ok (some row) => .ok (row, db)
    | changes =>
      match db.changeRows e changes conditions ambient with
      | .error f => .error (.database f)
      | .ok none => .error notFound
      | .ok (some found) => .ok found

/-- The database without the rows of some conditions, and how many those were. -/
def deleteFrom (db : Database) (as : String) (conditions : List Condition) :
    Except Sql.Fault (Database × Nat) := do
  let t ← db.needTarget as
  match db.followFault? t (fun _ => true) fun _ => true with
  | some f => throw f
  | none =>
    let gone := matching conditions t.reader t.rows
    let db ← gone.foldlM (fun db row => db.removeRow {} t row) db
    if db.keepsReferences t then return (db, gone.length) else throw .foreignKey

/-- Removes the rows with a key. -/
def deleteRow (db : Database) (e : Entity) (key : String) :
    Except EntityEngine.Fault Database :=
  let notFound : EntityEngine.Fault := .recordNotFound (.key key)
  match keyConditions? e key with
  | none => .error notFound
  | some conditions =>
    match db.deleteFrom e.table conditions with
    | .error f => .error (.database f)
    | .ok (_, 0) => .error notFound
    | .ok (db, _) => .ok db

end Database

end EntityEngine.Store
