import EntityEngine.Entity.Draft
import EntityEngine.Entity.Identifier
import EntityEngine.Fault

/-!
The rules that drafts have to meet. The first rule that fails decides the fault: fields are looked
at one after the other, each with all its rules, before their keys are counted.
-/

namespace EntityEngine

open Text

/-- The fault of one field's name, after those of earlier fields. -/
def nameDefect? (layout : Layout) (earlier : List String) (name : String) : Option Defect :=
  if name.isEmpty then some .fieldUnnamed
  else if !isIdentifier name then some (.badField name)
  else if earlier.any (sameFold name) then some (.repeatedField name)
  else if layout = .template ∧ isSystemColumn name then some (.systemField name)
  else none

/-- The first fault among field names. -/
def namesDefect? (layout : Layout) (earlier : List String) : List String → Option Defect
  | [] => none
  | name :: names =>
    match nameDefect? layout earlier name with
    | some d => some d
    | none => namesDefect? layout (name :: earlier) names

/-- A native table needs a key, and a template table has room for one besides its own. -/
def keysDefect? (layout : Layout) (keys : Nat) : Option Defect :=
  match layout with
  | .native => if keys = 0 then some .noKey else none
  | .template => if 1 < keys then some (.severalKeys keys) else none

/-- The first fault of a list of fields. -/
def fieldsDefect? (fields : List FieldDraft) (layout : Layout) : Option Defect :=
  if fields.isEmpty then some .noFields
  else
    match namesDefect? layout [] (fields.map fun f => trim f.name) with
    | some d => some d
    | none => keysDefect? layout (fields.countP FieldDraft.isKey)

/-- The fault of a table's name. -/
def tableDefect? (table : String) : Option Defect :=
  if !isIdentifier table then some (.badTable table)
  else if isReservedTable table then some (.reservedTable table)
  else none

/-- The first fault of a draft. -/
def EntityDraft.defect? (e : EntityDraft) : Option Defect :=
  if isBlankText e.name then some .entityUnnamed
  else if isBlankText e.table then some .tableUnnamed
  else
    match tableDefect? (trim e.table) with
    | some d => some d
    | none =>
      if e.code.any isBlankText then some .blankCode
      else fieldsDefect? e.fields e.layout

/-- Refuses what has a defect. -/
def refuse : Option Defect → Except Fault Unit
  | some d => .error (.invalid d)
  | none => .ok ()

/-- Checks a list of fields for a table of a layout. -/
def validateFields (fields : List FieldDraft) (layout : Layout) : Except Fault Unit :=
  refuse (fieldsDefect? fields layout)

/-- Checks a draft with its fields. -/
def EntityDraft.validate (e : EntityDraft) : Except Fault Unit := refuse e.defect?

end EntityEngine
