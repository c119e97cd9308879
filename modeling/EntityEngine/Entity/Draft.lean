import EntityEngine.Entity.Kind
import EntityEngine.Json.Basic

/-!
What a caller declares: the draft of an entity with the drafts of its fields. Attributes that are
left out are filled in when the draft is stored.
-/

namespace EntityEngine

structure FieldDraft where
  name : String
  type : FieldType
  code : Option String := none
  displayName : Option String := none
  description : Option String := none
  columnType : Option String := none
  /-- The length of a text, or the precision of a decimal. -/
  length : Option Nat := none
  scale : Option Nat := none
  isKey : Bool := false
  isNotNull : Bool := false
  isUnique : Bool := false
  isIndexed : Bool := false
  default : Option String := none
  sortOrder : Option Int := none
  rules : Option String := none
  properties : Option Json := none
  deriving Repr, DecidableEq

namespace FieldDraft

/-- Made a key field, which is never null. -/
def asKey (f : FieldDraft) : FieldDraft := { f with isKey := true, isNotNull := true }

def asNotNull (f : FieldDraft) : FieldDraft := { f with isNotNull := true }

def asUnique (f : FieldDraft) : FieldDraft := { f with isUnique := true }

def asIndexed (f : FieldDraft) : FieldDraft := { f with isIndexed := true }

def withDefault (f : FieldDraft) (value : String) : FieldDraft := { f with default := some value }

def withDisplayName (f : FieldDraft) (name : String) : FieldDraft :=
  { f with displayName := some name }

end FieldDraft

structure EntityDraft where
  appId : Int
  name : String
  table : String
  fields : List FieldDraft
  code : Option String := none
  displayName : Option String := none
  description : Option String := none
  kind : EntityKind := .dynamic
  status : EntityStatus := .active
  /-- Asks for the table as soon as the definition is stored. -/
  autoCreate : Bool := false
  sortOrder : Int := 0
  properties : Option Json := none
  deriving Repr, DecidableEq

namespace EntityDraft

def layout (e : EntityDraft) : Layout := e.kind.layout

def withCode (e : EntityDraft) (code : String) : EntityDraft := { e with code := some code }

def withKind (e : EntityDraft) (kind : EntityKind) : EntityDraft := { e with kind }

def withAutoCreate (e : EntityDraft) : EntityDraft := { e with autoCreate := true }

end EntityDraft

end EntityEngine
