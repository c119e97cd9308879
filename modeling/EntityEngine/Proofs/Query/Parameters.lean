import EntityEngine.Proofs.Query.StatementText
import EntityEngine.Proofs.Sql.Placeholders

/-! The values of the statements that answer a query. -/

namespace EntityEngine

open Sql

namespace Query

variable {e : Entity}

instance (e : Entity) (name : String) : Decidable (IsMember e name) :=
  inferInstanceAs (Decidable (_ ∨ _))

/-- The value that a name binds on documents: its path, if it is the name of a value of the
document. -/
def pathOf (e : Entity) (name : String) : List Value :=
  if IsMember e name then [.text ("$." ++ name)] else []

/-- The value that a filter binds on documents: a pattern, a number, a text that is taken as a
number, or the literal as it is. -/
def documentValue : Filter → Value
  | .test _ t literal => .text (t.pattern literal)
  | .compare _ op literal =>
    match literal.number? with
    | some n => .ofScalar n
    | none => if op.isOrdering then .text literal.text else .ofScalar literal.scalar

/-- The value that a filter binds on a column: a pattern, or the literal as it is. -/
def columnValue : Filter → Value
  | .test _ t literal => .text (t.pattern literal)
  | .compare _ _ literal => .ofScalar literal.scalar

theorem bare_documentOperand (e : Entity) (name : String) : (documentOperand e name).IsBare := by
  unfold documentOperand
  split
  · trivial
  · split
    · exact (by decide : IsBareText "record_id")
    · split
      · rename_i stored
        have all : ∀ s ∈ storedNames, IsBareText s := by decide
        exact all name (by simpa using stored)
      · trivial

theorem params_documentOperand (e : Entity) (name : String) :
    (documentOperand e name).render.params = pathOf e name := by
  by_cases member : IsMember e name
  · rw [documentOperand_member member, pathOf, if_pos member]
    rfl
  · rw [pathOf, if_neg member]
    obtain ⟨undeclared, known⟩ := not_or.mp member
    rw [documentOperand, if_neg undeclared]
    rcases List.mem_cons.mp (not_not.mp known) with id | stored
    · rw [if_pos id]
      rfl
    · split
      · rfl
      · rw [if_pos (by simpa using stored)]
        rfl

theorem params_documentCondition (operand : Operand) (f : Filter) :
    (documentCondition operand f).render.params = operand.render.params ++ [documentValue f] := by
  cases f with
  | test field t literal => rfl
  | compare field op literal =>
    unfold documentCondition documentValue
    dsimp only
    cases literal.number? with
    | some n => rfl
    | none =>
      cases op.isOrdering with
      | true => rfl
      | false => rfl

theorem bare_documentCondition {operand : Operand} (bare : operand.IsBare) (f : Filter) :
    (documentCondition operand f).IsBare := by
  cases f with
  | test field t literal => exact bare
  | compare field op literal =>
    unfold documentCondition
    dsimp only
    split
    · exact bare
    · split
      · exact bare
      · exact bare

theorem params_columnCondition (column : String) (f : Filter) :
    (columnCondition (.column column) f).render.params = [columnValue f] := by
  cases f <;> rfl

theorem bare_columnCondition (column : String) (f : Filter) :
    (columnCondition (.column column) f).IsBare := by
  cases f <;> trivial

/-- Only whole pages are skipped, so no more rows than are asked for. -/
theorem offset_eq {o : QueryOptions} {m : Nat} (paged : o.page = .ok m) :
    o.offset = .ok ((m - 1) * o.top) ∧ (m - 1) * o.top ≤ o.skip := by
  refine ⟨by rw [QueryOptions.offset, paged]; rfl, ?_⟩
  have page : m = o.skip / max o.top 1 + 1 := by
    unfold QueryOptions.page Number.add32 at paged
    split at paged
    · exact (Except.ok.inj paged).symm
    · cases paged
  calc (m - 1) * o.top = o.skip / max o.top 1 * o.top := by rw [page, Nat.add_sub_cancel]
    _ ≤ o.skip / max o.top 1 * max o.top 1 := Nat.mul_le_mul_left _ (Nat.le_max_left _ _)
    _ ≤ o.skip := Nat.div_mul_le_self _ _

theorem boundedOffset_eq {n : Nat} (small : n ≤ Number.maxNat32) : boundedOffset n = n := by
  unfold Number.maxNat32 at small
  unfold boundedOffset Number.maxInt64
  omega

theorem overDocuments_ok {o : QueryOptions} {s : Selection} (h : overDocuments e o = .ok s) :
    s.IsBare ∧ ∃ offset, o.offset = .ok offset ∧ s.render.params =
      [.integer e.appId, .text e.code] ++
        o.filter.toList.flatMap (fun f => pathOf e f.field ++ [documentValue f]) ++
        o.orderBy.flatMap (fun c => pathOf e c.field) ++
        [.integer o.top, .integer (boundedOffset offset)] := by
  obtain ⟨offset, before, h⟩ := bind_ok h
  rw [← Except.ok.inj h]
  refine ⟨⟨?_, ?_, ?_⟩, offset, before, ?_⟩
  · have bare : ∀ name ∈ recordColumns, IsBareText name := by decide
    intro c hc
    obtain ⟨name, hn, rfl⟩ := List.mem_map.mp hc
    exact ⟨bare name hn, rfl⟩
  · intro c hc
    rcases List.mem_append.mp hc with hc | hc
    · simp only [scope, List.mem_cons, List.not_mem_nil, or_false] at hc
      rcases hc with rfl | rfl | rfl
      · exact (by decide : IsBareText "app_id")
      · exact (by decide : IsBareText "entity_code")
      · trivial
    · obtain ⟨f, -, rfl⟩ := Option.map_eq_some_iff.mp (Option.mem_toList.mp hc)
      exact bare_documentCondition (bare_documentOperand e f.field) f
  · intro t ht
    dsimp only at ht
    split at ht
    · simp only [documentOrder, List.mem_cons, List.not_mem_nil, or_false] at ht
      rcases ht with rfl | rfl
      · exact (by decide : IsBareText "created_at")
      · exact (by decide : IsBareText "id")
    · obtain ⟨c, -, rfl⟩ := List.mem_map.mp ht
      exact bare_documentOperand e c.field
  · have filter : (o.filter.map fun f => documentCondition (documentOperand e f.field) f).toList.flatMap
        (fun c => c.render.params) =
          o.filter.toList.flatMap fun f => pathOf e f.field ++ [documentValue f] := by
      rw [Option.toList_map, List.flatMap_map]
      refine List.flatMap_congr fun f _ => ?_
      rw [params_documentCondition, params_documentOperand]
    have order : (if o.orderBy.isEmpty then documentOrder
        else o.orderBy.map fun c => ⟨documentOperand e c.field, c.direction⟩).flatMap
          (fun t => t.operand.render.params) = o.orderBy.flatMap fun c => pathOf e c.field := by
      split
      · rename_i none
        rw [List.isEmpty_iff.mp none]
        rfl
      · rw [List.flatMap_map]
        exact List.flatMap_congr fun c _ => params_documentOperand e c.field
    rw [Selection.params_render, List.flatMap_append, filter, order]
    rfl

theorem columnOrder?_some {clauses : List OrderClause} {terms : List OrderTerm}
    (h : columnOrder? e clauses = some terms) :
    ∀ t ∈ terms, ∃ column, t.operand = .column column := by
  unfold columnOrder? at h
  induction clauses generalizing terms with
  | nil =>
    intro t ht
    rw [← Option.some.inj h] at ht
    cases ht
  | cons c clauses ih =>
    rw [List.mapM_cons] at h
    obtain ⟨first, named, h⟩ := Option.bind_eq_some_iff.mp h
    obtain ⟨rest, others, h⟩ := Option.bind_eq_some_iff.mp h
    obtain ⟨column, -, rfl⟩ := Option.map_eq_some_iff.mp named
    rw [← Option.some.inj h]
    intro t ht
    rcases List.mem_cons.mp ht with rfl | ht
    · exact ⟨column, rfl⟩
    · exact ih others t ht

/-- An order of rows is one of columns, or of the number of the row, and takes no value. -/
theorem order_overTable {o : QueryOptions} {s : Selection} (h : overTable e o = .ok s) :
    ∀ t ∈ s.order, t.operand.IsBare ∧ t.operand.render.params = [] := by
  have usual : ∀ layout, ∀ t ∈ tableOrder layout,
      t.operand.IsBare ∧ t.operand.render.params = [] := by
    intro layout t ht
    cases layout with
    | template =>
      simp only [tableOrder, List.mem_cons, List.not_mem_nil, or_false] at ht
      rcases ht with rfl | rfl
      · exact ⟨trivial, rfl⟩
      · exact ⟨trivial, rfl⟩
    | native =>
      rw [List.mem_singleton.mp ht]
      exact ⟨(by decide : IsBareText "rowid"), rfl⟩
  obtain ⟨offset, -, h⟩ := bind_ok h
  rw [← Except.ok.inj h]
  intro t ht
  dsimp only at ht
  split at ht
  · exact usual _ t ht
  · exact usual _ t ht
  · rename_i found
    obtain ⟨column, operand⟩ := columnOrder?_some found t ht
    rw [operand]
    exact ⟨trivial, rfl⟩

theorem overTable_ok {o : QueryOptions} {s : Selection} (h : overTable e o = .ok s) :
    s.IsBare ∧ ∃ offset, o.offset = .ok offset ∧ s.render.params =
      o.filter.toList.flatMap (fun f =>
        if (e.column? f.field).isSome then [columnValue f] else []) ++
        [.integer o.top, .integer (boundedOffset offset)] := by
  have order := order_overTable h
  obtain ⟨offset, before, h⟩ := bind_ok h
  refine ⟨⟨?_, ?_, fun t ht => (order t ht).1⟩, offset, before, ?_⟩
  · rw [← Except.ok.inj h]
    intro c hc
    obtain ⟨name, -, rfl⟩ := List.mem_map.mp hc
    exact ⟨trivial, rfl⟩
  · rw [← Except.ok.inj h]
    intro c hc
    obtain ⟨f, -, found⟩ := Option.bind_eq_some_iff.mp (Option.mem_toList.mp hc)
    obtain ⟨column, -, rfl⟩ := Option.map_eq_some_iff.mp found
    exact bare_columnCondition column f
  · have filter : (o.filter.bind fun f => (e.column? f.field).map fun column =>
        columnCondition (.column column) f).toList.flatMap (fun c => c.render.params) =
          o.filter.toList.flatMap fun f =>
            if (e.column? f.field).isSome then [columnValue f] else [] := by
      cases o.filter with
      | none => rfl
      | some f => cases found : e.column? f.field <;> simp [found, params_columnCondition]
    rw [Selection.params_render, List.flatMap_eq_nil_iff.mpr fun t ht => (order t ht).2,
      List.append_nil, ← filter, ← Except.ok.inj h]

/-- Whatever the options of a query, as long as their page can be counted: both statements over the
documents of an entity, and both over its table, have a placeholder for every value, where the value
is meant to stand. The values are those of the scope, the path of the filter's field and its literal
or pattern, the paths of the order's fields, and the limit and the offset. In a table nothing but
the filter's value, the limit and the offset are values. -/
theorem parameters_line_up (e : Entity) (o : QueryOptions) {m : Nat} (paged : o.page = .ok m) :
    ∃ offset, o.offset = .ok offset ∧
      (o.skip ≤ Number.maxNat32 → boundedOffset offset = offset) ∧
    (∃ s, overDocuments e o = .ok s ∧ s.LinesUp ∧ s.render.params =
      [.integer e.appId, .text e.code] ++
        o.filter.toList.flatMap (fun f => pathOf e f.field ++ [documentValue f]) ++
        o.orderBy.flatMap (fun c => pathOf e c.field) ++
        [.integer o.top, .integer (boundedOffset offset)]) ∧
    ∃ s, overTable e o = .ok s ∧ s.LinesUp ∧ s.render.params =
      o.filter.toList.flatMap (fun f =>
        if (e.column? f.field).isSome then [columnValue f] else []) ++
        [.integer o.top, .integer (boundedOffset offset)] := by
  obtain ⟨before, whole⟩ := offset_eq paged
  have documents : ∃ s, overDocuments e o = .ok s := ⟨_, by rw [overDocuments, before]; rfl⟩
  have rows : ∃ s, overTable e o = .ok s := ⟨_, by rw [overTable, before]; rfl⟩
  refine ⟨_, before, fun small => boundedOffset_eq (Nat.le_trans whole small), ?_, ?_⟩
  · obtain ⟨s, selected⟩ := documents
    obtain ⟨bare, offset, same, params⟩ := overDocuments_ok selected
    rw [before] at same
    rw [← Except.ok.inj same] at params
    exact ⟨s, selected, Selection.linesUp bare, params⟩
  · obtain ⟨s, selected⟩ := rows
    obtain ⟨bare, offset, same, params⟩ := overTable_ok selected
    rw [before] at same
    rw [← Except.ok.inj same] at params
    exact ⟨s, selected, Selection.linesUp bare, params⟩

/-- A note by its title, with a quote in it, under an order by a value of the document. -/
theorem parameters_line_up_notes : ∃ s, overDocuments notes
    (counted "title eq 'O''Hara?'" "title desc, version" "5") = .ok s ∧ s.LinesUp ∧
      s.render.params = [.integer 1, .text "notes", .text "$.title", .text "O'Hara?",
        .text "$.title", .integer 5, .integer 0] := by
  obtain ⟨offset, before, -, ⟨s, selected, lines, params⟩, -⟩ :=
    parameters_line_up notes (counted "title eq 'O''Hara?'" "title desc, version" "5") (m := 1)
      (by decide +kernel)
  have start : (counted "title eq 'O''Hara?'" "title desc, version" "5").offset = .ok 0 := by
    decide +kernel
  obtain rfl := Except.ok.inj (before.symm.trans start)
  refine ⟨s, selected, lines, params.trans ?_⟩
  decide +kernel

end Query

end EntityEngine
