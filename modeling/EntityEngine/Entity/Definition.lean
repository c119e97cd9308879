import EntityEngine.Entity.Identifier
import EntityEngine.Entity.Draft
import EntityEngine.Time.Calendar

/-!
Stored definitions: an entity with the ordered list of its fields. A definition is marked as
deleted, never removed, and each new list of fields raises its version.
-/

namespace EntityEngine

open Time

/-- Who made and who last changed something, and when. -/
structure Audit where
  createdBy : String
  createdAt : Instant
  updatedBy : String
  updatedAt : Instant
  deriving Repr, DecidableEq

/-- The audit of something just made. -/
def Audit.fresh (actor : String) (now : Instant) : Audit := ⟨actor, now, actor, now⟩

/-- The audit after a change. -/
def Audit.touched (a : Audit) (actor : String) (now : Instant) : Audit :=
  { a with updatedBy := actor, updatedAt := now }

structure Field where
  id : Int
  entityId : Int
  name : String
  code : String
  displayName : Option String
  description : Option String
  type : FieldType
  /-- The declared type of the column. -/
  columnType : String
  /-- The length of a text, or the precision of a decimal. -/
  length : Option Nat
  scale : Option Nat
  isKey : Bool
  isNotNull : Bool
  isUnique : Bool
  isIndexed : Bool
  default : Option String
  sortOrder : Int
  status : ItemStatus
  rules : Option String
  properties : Option Json
  audit : Audit
  deriving Repr, DecidableEq

/-- Whether every record has to give a value for the field. -/
def Field.isRequired (f : Field) : Bool := f.isNotNull && f.default.isNone

structure Entity where
  id : Int
  name : String
  code : String
  table : String
  displayName : Option String
  description : Option String
  appId : Int
  kind : EntityKind
  status : EntityStatus
  autoCreate : Bool
  /-- The table exists, and records live in it. -/
  tableCreated : Bool
  version : Int
  sortOrder : Int
  properties : Option Json
  audit : Audit
  deleted : Bool
  /-- In ascending order of `sortOrder`. -/
  fields : List Field
  deriving Repr, DecidableEq

namespace Entity

def layout (e : Entity) : Layout := e.kind.layout

/-- The field with a name, the case of letters included. -/
def field? (e : Entity) (name : String) : Option Field := e.fields.find? fun f => f.name = name

def declares (e : Entity) (name : String) : Bool := (e.field? name).isSome

def keys (e : Entity) : List Field := e.fields.filter Field.isKey

/-- The columns of the entity's table, in order. -/
def columns (e : Entity) : List String :=
  (match e.layout with
    | .template => systemColumns
    | .native => []) ++ e.fields.map Field.name

/-- The column that a name means, whatever the case of its letters. -/
def column? (e : Entity) (name : String) : Option String :=
  if e.layout = .template ∧ isSystemColumn name then some (Text.fold name)
  else (e.fields.find? fun f => Text.sameFold f.name name).map Field.name

end Entity

end EntityEngine
