import EntityEngine.Engine.Basic
import EntityEngine.Store.Schema

/-!
Declaring entities. A definition is stored before its table is made, so it stays when that fails,
and the table can be asked for again.
-/

namespace EntityEngine.Engine

/-- The definition with an id. -/
def entity (g : Engine) (id : Int) : Except Fault Entity :=
  match g.database.entity? id with
  | some e => .ok e
  | none => .error (.entityNotFound (.id id))

/-- The definition with a code. -/
def entityByCode (g : Engine) (appId : Int) (code : String) : Except Fault Entity :=
  match g.database.entityByCode? appId code with
  | some e => .ok e
  | none => .error (.entityNotFound (.code code appId))

/-- The oldest definition with a name. -/
def entityByName (g : Engine) (appId : Int) (name : String) : Except Fault Entity :=
  match g.database.entityByName? appId name with
  | some e => .ok e
  | none => .error (.entityNotFound (.name name appId))

/-- The definitions of an application. -/
def entities (g : Engine) (appId : Int) : List Entity := g.database.list appId

/-- Makes the table of a definition, and marks it as made. -/
def makeTable (g : Engine) (e : Entity) : Except Fault Entity × Engine :=
  match g.database.createTable e with
  | .error f => (.error f, g)
  | .ok database =>
    let g := { g with database }
    match during ("mark table " ++ e.table ++ " created")
        (g.database.setTableCreated e.id true) with
    | .error f => (.error f, g)
    | .ok database =>
      let e := { e with tableCreated := true }
      (.ok e, ({ g with database } : Engine).register e)

/-- Declares an entity, and makes its table if it asks for that. -/
def createEntity (g : Engine) (draft : EntityDraft) (actor : String) (ambient : Ambient) :
    Except Fault Entity × Engine :=
  match draft.validate with
  | .error f => (.error f, g)
  | .ok () =>
    match during ("create entity " ++ draft.name)
        (g.database.createEntity draft actor ambient) with
    | .error f => (.error f, g)
    | .ok (e, database) =>
      let g := ({ g with database } : Engine).register e
      if e.autoCreate then g.makeTable e else (.ok e, g)

/-- Makes the table of a definition, unless it is there. -/
def materialize (g : Engine) (id : Int) : Except Fault Entity × Engine :=
  match g.entity id with
  | .error f => (.error f, g)
  | .ok e => if e.tableCreated then (.ok e, g) else g.makeTable e

/-- Gives a definition a new list of fields. Its table, if there is one, stays as it is. -/
def replaceFields (g : Engine) (id : Int) (fields : List FieldDraft) (actor : String)
    (ambient : Ambient) : Except Fault Entity × Engine :=
  match g.entity id with
  | .error f => (.error f, g)
  | .ok current =>
    match validateFields fields current.layout with
    | .error f => (.error f, g)
    | .ok () =>
      match during ("replace fields of entity " ++ current.code)
          (g.database.replaceFields id fields actor ambient) with
      | .error f => (.error f, g)
      | .ok (e, database) => (.ok e, ({ g with database } : Engine).register e)

/-- Drops the table of a definition that was deleted, and takes back its mark. -/
def dropTableOf (g : Engine) (e : Entity) : Except Fault Unit × Engine :=
  match g.database.dropTable e.table with
  | .error f => (.error f, g)
  | .ok database =>
    let g := { g with database }
    match during ("clear table flag of entity " ++ toString e.id)
        (g.database.setTableCreated e.id false) with
    | .error f => (.error f, g)
    | .ok database => (.ok (), { g with database })

/-- Deletes a definition, on demand with its table. Its documents stay. -/
def deleteEntity (g : Engine) (id : Int) (dropTable : Bool) (actor : String)
    (ambient : Ambient) : Except Fault Unit × Engine :=
  match during ("delete entity " ++ toString id) (g.database.softDelete id actor ambient) with
  | .error f => (.error f, g)
  | .ok (e, database) =>
    let g : Engine := { g with database, registry := g.registry.remove id }
    if dropTable then g.dropTableOf e else (.ok (), g)

end EntityEngine.Engine
