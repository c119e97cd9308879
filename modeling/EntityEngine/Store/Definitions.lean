import EntityEngine.Fault
import EntityEngine.Json.Text
import EntityEngine.Store.Database

/-!
Definitions in the store. Among the definitions that are not deleted, a code is used once in an
application, and a table belongs to one entity. What is stored is read back from its text, so
properties come back as the text of their JSON is read.
-/

namespace EntityEngine

open Text

/-- A value as it is read back from its own text. -/
def Json.reread (v : Json) : Json := (Json.parse? v.render).getD v

namespace Store

/-- The type of a field's column: the one given, unless it is blank. -/
def FieldDraft.typeFor (f : FieldDraft) (layout : Layout) : String :=
  match f.columnType.filter fun t => !isBlankText t with
  | some t => t
  | none => f.type.columnType f.length f.scale layout

/-- The stored field of a draft at a place of the list. -/
def storedField (entityId id : Int) (layout : Layout) (audit : Audit) (place : Nat)
    (f : FieldDraft) : Field where
  id
  entityId
  name := trim f.name
  code := f.code.getD (trim f.name)
  displayName := f.displayName
  description := f.description
  type := f.type
  columnType := FieldDraft.typeFor f layout
  length := f.length
  scale := f.scale
  isKey := f.isKey
  isNotNull := f.isNotNull || f.isKey
  isUnique := f.isUnique
  isIndexed := f.isIndexed
  default := f.default
  sortOrder := f.sortOrder.getD place
  status := .active
  rules := f.rules
  properties := f.properties.map Json.reread
  audit

/-- The stored fields of drafts, with ids from a first one on. -/
def storedFields (entityId first : Int) (layout : Layout) (audit : Audit)
    (fields : List FieldDraft) : List Field :=
  fields.zipIdx.map fun (f, i) => storedField entityId (first + i) layout audit i f

/-- One id for each element of a list, from a first one on. -/
def idsFrom (first : Int) (l : List α) : List Int :=
  (List.range l.length).map fun (i : Nat) => first + i

/-- Fields in the order of their sort orders; of equals, the earlier ones first. -/
def sortFields (fields : List Field) : List Field :=
  fields.mergeSort fun f g => f.sortOrder ≤ g.sortOrder

/-- Definitions in the order of their sort orders; of equals, the older ones first. -/
def sortEntities (entities : List Entity) : List Entity :=
  entities.mergeSort fun e f => e.sortOrder ≤ f.sortOrder

/-- The code of a draft, or a generated one. -/
def codeOf (draft : EntityDraft) (ambient : Ambient) : String :=
  match draft.code with
  | some code => trim code
  | none => "entity_" ++ ambient.codeSuffix

namespace Database

/-- The id of the next definition. -/
def nextEntityId (db : Database) : Except Fault Int :=
  (db.nextId .definitions (db.entities.map Entity.id)).mapError .database

/-- The id of the first of some new fields. Their ids follow one another, and there has to be one
for the last of them. -/
def nextFieldId (db : Database) (fields : List FieldDraft) : Except Fault Int :=
  if fields.isEmpty then .ok 1
  else (db.nextIds .fields (db.entities.flatMap fun e => e.fields.map Field.id)
    fields.length).mapError .database

/-- The definition that is not deleted with an id. -/
def entity? (db : Database) (id : Int) : Option Entity := db.live.find? fun e => e.id = id

/-- The definition that is not deleted with a code. -/
def entityByCode? (db : Database) (appId : Int) (code : String) : Option Entity :=
  db.live.find? fun e => e.appId = appId ∧ e.code = code

/-- The oldest definition that is not deleted with a name. -/
def entityByName? (db : Database) (appId : Int) (name : String) : Option Entity :=
  db.live.find? fun e => e.appId = appId ∧ e.name = name

/-- All definitions that are not deleted. -/
def listAll (db : Database) : List Entity := sortEntities db.live

/-- The definitions of an application that are not deleted. -/
def list (db : Database) (appId : Int) : List Entity :=
  sortEntities (db.live.filter fun e => e.appId = appId)

/-- The code of the entity that a table belongs to. -/
def owner? (db : Database) (table : String) : Option String :=
  (db.live.find? fun e => sameFold e.table table).map Entity.code

/-- Stores a definition with its fields. -/
def createEntity (db : Database) (draft : EntityDraft) (actor : String) (ambient : Ambient) :
    Except Fault (Entity × Database) := do
  let code := codeOf draft ambient
  let table := trim draft.table
  if (db.entityByCode? draft.appId code).isSome then throw (.duplicateCode code draft.appId)
  match db.owner? table with
  | some owner => throw (.invalid (.tableTaken table owner))
  | none =>
    let id ← db.nextEntityId
    let firstField ← db.nextFieldId draft.fields
    let audit := Audit.fresh actor ambient.now.toMicros
    let entity : Entity := {
      id
      name := trim draft.name
      code
      table
      displayName := draft.displayName
      description := draft.description
      appId := draft.appId
      kind := draft.kind
      status := draft.status
      autoCreate := draft.autoCreate
      tableCreated := false
      version := 1
      sortOrder := draft.sortOrder
      properties := draft.properties.map Json.reread
      audit
      deleted := false
      fields := sortFields (storedFields id firstField draft.layout audit draft.fields) }
    return (entity, ({ db with entities := db.entities ++ [entity] }.useIds .definitions [id]).useIds
      .fields (idsFrom firstField draft.fields))

/-- The database with the definition of an id changed. -/
def changeEntity (db : Database) (id : Int) (change : Entity → Entity) : Database :=
  { db with entities := db.entities.map fun e => if e.id = id then change e else e }

/-- Replaces all fields of a definition. -/
def replaceFields (db : Database) (id : Int) (fields : List FieldDraft) (actor : String)
    (ambient : Ambient) : Except Fault (Entity × Database) :=
  match db.entity? id with
  | none => .error (.entityNotFound (.id id))
  | some e =>
    let now := ambient.now.toMicros
    let kept := db.changeEntity id fun e => { e with fields := [] }
    match kept.nextFieldId fields with
    | .error f => .error f
    | .ok firstField =>
      let changed := { e with
        fields := sortFields (storedFields id firstField e.layout (.fresh actor now) fields)
        version := e.version + 1
        audit := e.audit.touched actor now }
      .ok (changed, (db.changeEntity id fun _ => changed).useIds .fields
        (idsFrom firstField fields))

/-- Marks the table of a definition, deleted or not, as made or not made. -/
def setTableCreated (db : Database) (id : Int) (created : Bool) : Except Fault Database :=
  if db.entities.any fun e => e.id = id then
    .ok (db.changeEntity id fun e => { e with tableCreated := created })
  else .error (.entityNotFound (.id id))

/-- Marks a definition as deleted, and gives it as it was before. -/
def softDelete (db : Database) (id : Int) (actor : String) (ambient : Ambient) :
    Except Fault (Entity × Database) :=
  match db.entity? id with
  | none => .error (.entityNotFound (.id id))
  | some e =>
    let touched (a : Audit) : Audit := a.touched actor ambient.now.toMicros
    .ok (e, db.changeEntity id fun e => { e with
      deleted := true
      audit := touched e.audit
      fields := e.fields.map fun f => { f with audit := touched f.audit } })

end Database

end Store

end EntityEngine
