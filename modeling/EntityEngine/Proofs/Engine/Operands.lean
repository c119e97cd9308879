import EntityEngine.Proofs.Engine.Ownership
import EntityEngine.Proofs.Store.ShownValues

/-! What filters and orders see of a document, beside what its row shows. -/

namespace EntityEngine

open Number Sql Store

/-- Under every name but that of a time which is not declared, a statement on a document sees the
value that its row shows there, as the database has it, and null where the row has none. This is so
for every system value, for a value that is not there, and for every value without doubles in it.
A double is seen as it is shown exactly if the database and the reader of JSON make one number of
its text, and an array or an object exactly if it is written again as it was stored. -/
theorem operand_is_shown {r : Record} {e : Entity} {name : String}
    (own : e.declares name = true ∨ name ∉ ["created_at", "updated_at"])
    (version : inInt64 r.version = true)
    (integers : ∀ n, r.data.get? name = some (.integer n) → inInt64 n = true) :
    ((Query.IsMember e name → ∀ v, r.data.get? name = some v → v.IsPlain) →
      (documentReader r (Query.documentOperand e name)).value =
        ((shown? r e name).map Value.ofJson).getD .null) ∧
    (shown? r e name = none → (documentReader r (Query.documentOperand e name)).value = .null) ∧
    ((documentReader r (Query.documentOperand e name)).value =
        ((shown? r e name).map Value.ofJson).getD .null ↔
      (Query.IsMember e name → ∀ v, r.data.get? name = some v → v.ReadsAlike)) := by
  have alike : (documentReader r (Query.documentOperand e name)).value =
        ((shown? r e name).map Value.ofJson).getD .null ↔
      (Query.IsMember e name → ∀ v, r.data.get? name = some v → v.ReadsAlike) := by
    -- The row and the statement make this distinction in the same way.
    by_cases member : Query.IsMember e name
    · rw [operand_member member, shown?_member member]
      cases stored : r.data.get? name with
      | none => exact iff_of_true rfl fun _ v there => nomatch there
      | some v =>
        have alike := storedValue_eq_iff (v := v) fun n integer =>
          integers n (by rw [stored, integer])
        simp only [Option.getD_some, Option.map_some, member, true_imp_iff, Option.some.injEq,
          forall_eq', alike]
    · obtain ⟨v, shown, -, -, same⟩ := shown?_system (r := r) member
      have other : name ≠ "created_at" ∧ name ≠ "updated_at" := by
        rcases own with declared | other
        · exact absurd (Or.inl declared) member
        · simpa using other
      rw [shown, same version other.1 other.2]
      exact iff_of_true rfl fun absurd => (member absurd).elim
  refine ⟨fun plain => alike.mpr fun member v there => ?_, fun none => ?_, alike⟩
  · exact Json.readsAlike_of_plain (plain member v there)
  · have null := isNull_operand r e name
    rw [none] at null
    cases read : (documentReader r (Query.documentOperand e name)).value with
    | null => rfl
    | _ => rw [read] at null; cases null

theorem operand_is_shown_note : ∃ e ∈ notes.database.live, ∃ r ∈ notes.database.documents,
    r.data.get? "body" = some (.text "first") ∧
      (documentReader r (Query.documentOperand e "body")).value =
        ((shown? r e "body").map Value.ofJson).getD .null := by
  have stored : (notes.database.entity? 1).any (fun e => e.declares "body" &&
      notes.database.documents.any fun r =>
        inInt64 r.version && r.data.get? "body" == some (.text "first")) = true := by
    decide +kernel
  obtain ⟨e, known, facts⟩ := (Option.any_eq_true _ _).mp stored
  obtain ⟨declared, there⟩ := Bool.and_eq_true_iff.mp facts
  obtain ⟨r, hr, facts⟩ := List.any_eq_true.mp there
  obtain ⟨version, text⟩ := Bool.and_eq_true_iff.mp facts
  replace text := beq_iff_eq.mp text
  refine ⟨e, List.mem_of_find?_eq_some known, r, hr, text,
    (operand_is_shown (Or.inl declared) version fun n integer => ?_).1 fun _ v own => ?_⟩
  · rw [text] at integer
    cases integer
  · rw [text] at own
    rw [← Option.some.inj own]
    trivial

/-! ### A double that is read in two ways -/

def declareMeasure : Operation :=
  .createEntity
    { appId := 1
      name := "Measure"
      table := "measure"
      code := some "measure"
      fields := [{ name := "x", type := .decimal }] }
    "a" ⟨⟨0, 0⟩, "r", "c"⟩

def storeMeasure : Operation :=
  .createRecord 1 "measure" [("x", .real 5.907583807913315e-8)] "a" ⟨⟨0, 0⟩, "r", "c"⟩

/-- Measures, one of them stored. -/
def measures : Engine := storeMeasure.run (declareMeasure.run (.start .empty ""))

/-- The database reads the double that was stored, but the row shows the next one, for the reader of
JSON rounds more than once. -/
theorem double_shown_otherwise : ∃ e ∈ measures.database.live, ∃ r ∈ measures.database.documents,
    e.declares "x" = true ∧ inInt64 r.version = true ∧
      (documentReader r (Query.documentOperand e "x")).value = .real 5.907583807913315e-8 ∧
      shown? r e "x" = some (.real 5.9075838079133153e-8) ∧
      (documentReader r (Query.documentOperand e "x")).value ≠
        ((shown? r e "x").map Value.ofJson).getD .null := by
  have stored : (measures.database.entity? 1).any (fun e => e.declares "x" &&
      measures.database.documents.any fun r => inInt64 r.version &&
        (documentReader r (Query.documentOperand e "x")).value == .real 5.907583807913315e-8 &&
        shown? r e "x" == some (.real 5.9075838079133153e-8)) = true := by
    decide +kernel
  have other : Value.real 5.907583807913315e-8 ≠ .real 5.9075838079133153e-8 := by decide +kernel
  obtain ⟨e, known, facts⟩ := (Option.any_eq_true _ _).mp stored
  obtain ⟨declared, there⟩ := Bool.and_eq_true_iff.mp facts
  obtain ⟨r, hr, facts⟩ := List.any_eq_true.mp there
  simp only [Bool.and_eq_true, beq_iff_eq] at facts
  obtain ⟨⟨version, read⟩, shown⟩ := facts
  refine ⟨e, List.mem_of_find?_eq_some known, r, hr, declared, version, read, shown, ?_⟩
  rw [read, shown]
  exact other

end EntityEngine
