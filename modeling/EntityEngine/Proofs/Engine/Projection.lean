import EntityEngine.Engine.Records
import EntityEngine.Proofs.Engine.Ownership
import EntityEngine.Proofs.Query.OrderGrammar
import EntityEngine.Proofs.Record.Preparation

/-! The fields that a query selects. They narrow the rows of an answer once those are found, and
have no part in anything else: neither in which rows there are, nor in their order, their count or
their figures. -/

namespace EntityEngine

open Text

variable {p q : Params} {names : List String} {row : ValueMap}

/-- The well-formed names that parameters list as fields to select. -/
def listedNames (params : Params) : List String :=
  (((params.lookup "$select").map fun s => (split ',' s).map trim).getD []).filter isIdentifier

/-- The part of a row under some names and under `id`, or all of it if there are no names. -/
def narrowed (names : List String) (row : ValueMap) : ValueMap :=
  if names.isEmpty then row else row.restrict fun key => key = "id" ∨ key ∈ names

theorem narrowed_nil (row : ValueMap) : narrowed [] row = row := rfl

theorem narrowed_of_ne (some : names ≠ []) (row : ValueMap) :
    narrowed names row = row.restrict fun key => key = "id" ∨ key ∈ names := by
  rw [narrowed, List.isEmpty_eq_false_iff.mpr some, if_neg Bool.false_ne_true]

/-- A row that is narrowed once more stays as it is. -/
theorem narrowed_narrowed (names : List String) (row : ValueMap) :
    narrowed names (narrowed names row) = narrowed names row := by
  unfold narrowed
  split
  · rfl
  · exact List.filter_filter.trans (List.filter_congr fun _ _ => Bool.and_self _)

/-! ### Options -/

namespace QueryOptions

theorem select_ofParams (params : Params) : (ofParams params).select =
    if (listedNames params).isEmpty then none else some (listedNames params) := by
  show selectOf params = _
  unfold selectOf listedNames
  cases params.lookup "$select" with
  | none => rfl
  | some s =>
    simp only [Option.map_some, Option.getD_some]
    cases ((split ',' s).map trim).filter isIdentifier <;> rfl

theorem project_ofParams (params : Params) :
    (ofParams params).project = narrowed (listedNames params) := by
  funext row
  rw [project, select_ofParams, narrowed]
  cases (listedNames params).isEmpty with
  | true => rfl
  | false =>
    refine List.filter_congr fun entry _ => ?_
    simp [beq_eq_decide]

/-- Parameters that differ in the fields to select ask for the same but for these fields. -/
theorem ofParams_of_agree (agree : ∀ key, key ≠ "$select" → p.lookup key = q.lookup key) :
    ofParams p = { ofParams q with select := selectOf p } := by
  have order : orderOf p = orderOf q := by
    rw [orderOf, orderOf, filled?, filled?, agree "$orderby" (by decide)]
  rw [ofParams_of_lookup fun key _ other => agree key other, order]
  rfl

end QueryOptions

/-! ### Answers -/

namespace Engine

/-- The rows that a query finds are found without regard to the fields that it selects. -/
theorem foundRows_select (g : Engine) (e : Entity) (code : String) (o : QueryOptions)
    (fields : Option (List String)) :
    g.foundRows e code { o with select := fields } = g.foundRows e code o := rfl

/-- The answer to a query of which the rows are found. -/
def answerOf (g : Engine) (e : Entity) (o : QueryOptions) (p : Page ValueMap) : QueryResult where
  context := g.contextOf e.code
  rows := p.items.map o.project
  count := if o.count then p.total else none
  stats := if o.stats then some (Stats.aggregate p.items e.fields) else none

theorem query_of_resolve {g g' : Engine} {appId : Int} {code : String} {e : Entity}
    (resolved : g.resolve appId code = .ok (e, g')) (o : QueryOptions) :
    g.query appId code o = ((g'.foundRows e code o).map (g'.answerOf e o), g') := by
  rw [query, resolved]
  rfl

end Engine

/-- Answers that differ in the fields of their rows alone: they show the same rows in the same
order, each narrowed to its own names. -/
structure QueryResult.Alike (names others : List String) (a b : QueryResult) : Prop where
  context : a.context = b.context
  count : a.count = b.count
  stats : a.stats = b.stats
  rows : ∃ rows : List ValueMap, a.rows = rows.map (narrowed names) ∧
    b.rows = rows.map (narrowed others)

theorem QueryResult.Alike.whole {a b : QueryResult} (alike : a.Alike names [] b) :
    a.rows = b.rows.map (narrowed names) := by
  obtain ⟨rows, shown, whole⟩ := alike.rows
  rw [shown, whole, List.map_congr_left fun row _ => narrowed_nil row, List.map_id']

theorem QueryResult.Alike.narrowed_eq {others : List String} {a b : QueryResult}
    (alike : a.Alike names others b) : ∀ row ∈ a.rows, narrowed names row = row := by
  obtain ⟨rows, shown, -⟩ := alike.rows
  intro row hr
  rw [shown] at hr
  obtain ⟨whole, -, rfl⟩ := List.mem_map.mp hr
  exact narrowed_narrowed names whole

end EntityEngine
