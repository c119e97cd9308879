import EntityEngine.Fault
import EntityEngine.Record.Basic

/-!
Values on their way into a record: every required field must have one, and what is not declared
is left out.
-/

namespace EntityEngine

/-- A value is given, and it is not null. -/
def isGiven (values : ValueMap) (name : String) : Bool :=
  (values.get? name).any fun v => !v.isNull

/-- The first required field, in the order of the fields, without a value. -/
def missingField? (e : Entity) (values : ValueMap) : Option Field :=
  (e.fields.filter Field.isRequired).find? fun f => !isGiven values f.name

/-- The values under declared names, if no required one is missing. -/
def prepareValues (e : Entity) (values : ValueMap) : Except Fault ValueMap :=
  match missingField? e values with
  | some f => .error (.invalid (.valueMissing f.name e.code))
  | none => .ok (values.restrict e.declares)

end EntityEngine
