import EntityEngine.Proofs.Engine.RowKeys
import EntityEngine.Proofs.Engine.Rows
import EntityEngine.Proofs.Store.OneRow
import EntityEngine.Proofs.Store.RowAddress

/-! The key that a row of a native table shows under `id`. Looked for, it leads back to the row,
unless the row has a flag in its key, or JSON that is written in another way than it is shown. -/

namespace EntityEngine

open Store

variable {g : Engine} {made : Makings} {d e : Entity}

/-- The definition has one number for its key, and its table holds a row with the number. -/
def Entity.HoldsKey (e : Entity) (db : Database) (n : Int) : Bool :=
  e.layout == .native && !e.columns.contains "id" && e.keys.length == 1 &&
    e.keys.all (fun f => f.type == .integer) &&
      (db.table? e.table).any fun t => t.rows.any fun row =>
        e.keys.all fun f => t.valueOf row f.name == .integer n

def declareFlags : Operation :=
  .createEntity
    { appId := 1
      name := "Flag"
      table := "flag"
      code := some "flag"
      kind := .static
      fields := [{ name := "f", type := .boolean, isKey := true }]
      autoCreate := true }
    "a" ⟨⟨0, 0⟩, "r", "c"⟩

def storeFlag : Operation := .createRecord 1 "flag" [("f", .bool true)] "a" ⟨⟨0, 0⟩, "r", "c"⟩

/-- A flag that is set. -/
def flags : Engine := storeFlag.run (declareFlags.run (.start .empty ""))

/-- The keys that the rows of flags show. -/
def Engine.flagKeys (g : Engine) : Option (List String) :=
  (g.database.entity? 1).bind fun e =>
    (g.database.table? e.table).map fun t => t.rows.map (t.keyText e)

theorem run_flags : ∃ made, Run made flags := by
  have first : LeaveTypes declareFlags.fields := by
    intro f hf
    rw [List.mem_singleton.mp hf]
    rfl
  exact ⟨_, .step storeFlag (.step declareFlags (.start "") first) fun _ hf =>
    absurd hf List.not_mem_nil⟩

/-- The key of a flag is shown as a word, which finds nothing; its number does. -/
theorem flag_key_misses : (∃ made, Run made flags) ∧ flags.flagKeys = some ["true"] ∧
    (flags.recordByKey 1 "true").1.toOption = none ∧
      (flags.recordByKey 1 "1").1.toOption.isSome = true := by
  refine ⟨run_flags, ?_, ?_, ?_⟩
  · decide +kernel
  · decide +kernel
  · decide +kernel

end EntityEngine
