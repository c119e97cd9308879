import EntityEngine.Proofs.Identifier
import EntityEngine.Proofs.Outcome
import EntityEngine.Query.Plan
import Mathlib.Data.List.Forall2
import Mathlib.Data.List.Nodup

/-! The names that queries know on tables. A name means a column exactly if some column has it,
whatever the case of its letters. A filter and an order on such names take part in the query, and
are left out on any other name. -/

namespace EntityEngine

open Sql

namespace Entity

variable {e : Entity} {name column : String}

theorem mem_columns_of_system (template : e.layout = .template) (system : column ∈ systemColumns) :
    column ∈ e.columns := by
  rw [columns, template]
  exact List.mem_append_left _ system

/-- A name means a column that has it. -/
theorem column?_some (found : e.column? name = some column) :
    column ∈ e.columns ∧ Text.fold column = Text.fold name := by
  unfold column? at found
  split at found
  · rename_i system
    obtain ⟨template, system⟩ := system
    obtain ⟨c, hc, same⟩ := List.any_eq_true.mp system
    have folded : ∀ c ∈ systemColumns, Text.fold c = c := by decide +kernel
    have own : Text.fold name = c := (Text.sameFold_iff.mp same).trans (folded c hc)
    rw [← Option.some.inj found, own]
    exact ⟨mem_columns_of_system template hc, folded c hc⟩
  · obtain ⟨f, first, rfl⟩ := Option.map_eq_some_iff.mp found
    refine ⟨List.mem_append_right _ (List.mem_map_of_mem (List.mem_of_find?_eq_some first)), ?_⟩
    exact Text.sameFold_iff.mp (by simpa using List.find?_some first)

theorem column?_isSome_iff :
    (e.column? name).isSome = true ↔ Text.fold name ∈ e.columns.map Text.fold := by
  constructor
  · intro some
    obtain ⟨column, found⟩ := Option.isSome_iff_exists.mp some
    obtain ⟨mem, same⟩ := column?_some found
    exact List.mem_map.mpr ⟨column, mem, same⟩
  · intro mem
    obtain ⟨column, hc, same⟩ := List.mem_map.mp mem
    unfold column?
    split
    · rfl
    · rename_i other
      have field : column ∈ e.fields.map Field.name := by
        unfold columns at hc
        cases layout : e.layout with
        | native => simpa [layout] using hc
        | template =>
          rw [layout] at hc
          refine (List.mem_append.mp hc).resolve_left fun system => other ⟨layout, ?_⟩
          exact List.any_eq_true.mpr ⟨column, system, Text.sameFold_iff.mpr same.symm⟩
      obtain ⟨f, hf, rfl⟩ := List.mem_map.mp field
      rw [Option.isSome_map, List.find?_isSome]
      exact ⟨f, hf, Text.sameFold_iff.mpr same⟩

/-- Where the names of columns are apart, a name means the one that has it. -/
theorem column?_of_mem (apart : (e.columns.map Text.fold).Nodup) (mem : column ∈ e.columns)
    (same : Text.fold column = Text.fold name) : e.column? name = some column := by
  have known : (e.column? name).isSome = true :=
    column?_isSome_iff.mpr (List.mem_map.mpr ⟨column, mem, same⟩)
  obtain ⟨other, found⟩ := Option.isSome_iff_exists.mp known
  obtain ⟨mem', same'⟩ := column?_some found
  rw [found, List.inj_on_of_nodup_map apart mem' mem (same'.trans same.symm)]

end Entity

namespace Query

variable {e : Entity} {o : QueryOptions} {s : Selection}

/-- An order is resolved clause by clause, or not at all. -/
theorem columnOrder?_cons (c : OrderClause) (clauses : List OrderClause) :
    columnOrder? e (c :: clauses) = (e.column? c.field).bind fun column =>
      (columnOrder? e clauses).map fun terms => ⟨.column column, c.direction⟩ :: terms := by
  simp only [columnOrder?, List.mapM_cons]
  cases e.column? c.field with
  | none => rfl
  | some column =>
    simp only [Option.map_some, Option.bind_eq_bind, Option.bind_some]
    exact Option.map_eq_bind.symm

theorem columnOrder?_eq_some_iff {clauses : List OrderClause} {terms : List OrderTerm} :
    columnOrder? e clauses = some terms ↔ List.Forall₂ (fun c t => ∃ column,
      e.column? c.field = some column ∧ t = ⟨.column column, c.direction⟩) clauses terms := by
  induction clauses generalizing terms with
  | nil => simp [columnOrder?, eq_comm]
  | cons c clauses ih =>
    rw [columnOrder?_cons, List.forall₂_cons_left_iff, Option.bind_eq_some_iff]
    simp only [Option.map_eq_some_iff, ih]
    constructor
    · rintro ⟨column, found, rest, others, rfl⟩
      exact ⟨_, rest, ⟨column, found, rfl⟩, others, rfl⟩
    · rintro ⟨term, rest, ⟨column, found, rfl⟩, others, rfl⟩
      exact ⟨column, found, rest, others, rfl⟩

theorem columnOrder?_isSome_iff {clauses : List OrderClause} :
    (columnOrder? e clauses).isSome = true ↔
      ∀ c ∈ clauses, Text.fold c.field ∈ e.columns.map Text.fold := by
  simp only [← Entity.column?_isSome_iff]
  induction clauses with
  | nil => simp [columnOrder?]
  | cons c clauses ih =>
    rw [columnOrder?_cons, List.forall_mem_cons, ← ih]
    cases e.column? c.field <;> simp

/-- A selection of rows names the columns of a definition, and looks for a field of the query under
the column of its name. The filter and the order of the query are in it, unless they have names that
are no columns. -/
structure LooksUp (e : Entity) (o : QueryOptions) (s : Selection) : Prop where
  columns : s.columns = e.columns.map .column
  filtered : ∀ f ∈ o.filter, ∀ column ∈ e.columns, Text.fold column = Text.fold f.field →
    s.conditions = [columnCondition (.column column) f]
  unfiltered : (∀ f ∈ o.filter, Text.fold f.field ∉ e.columns.map Text.fold) → s.conditions = []
  ordered : o.orderBy ≠ [] → (∀ c ∈ o.orderBy, Text.fold c.field ∈ e.columns.map Text.fold) →
    List.Forall₂ (fun (c : OrderClause) t => ∃ column ∈ e.columns,
      Text.fold column = Text.fold c.field ∧ t = ⟨.column column, c.direction⟩) o.orderBy s.order
  unordered : (o.orderBy = [] ∨ ∃ c ∈ o.orderBy, Text.fold c.field ∉ e.columns.map Text.fold) →
    s.order = tableOrder e.layout

theorem looksUp (apart : (e.columns.map Text.fold).Nodup) (planned : overTable e o = .ok s) :
    LooksUp e o s := by
  obtain ⟨offset, -, eq⟩ := bind_ok planned
  obtain rfl := Except.ok.inj eq
  constructor
  case columns => rfl
  case filtered =>
    intro f hf column mem same
    rw [Option.mem_def.mp hf]
    simp only [Option.bind_some, Entity.column?_of_mem apart mem same]
    rfl
  case unfiltered =>
    intro other
    cases filter : o.filter with
    | none => rfl
    | some f =>
      have none : e.column? f.field = none := by
        rw [← Option.not_isSome_iff_eq_none, Entity.column?_isSome_iff]
        exact other f filter
      simp [none]
  case ordered =>
    intro some all
    obtain ⟨terms, resolved⟩ := Option.isSome_iff_exists.mp (columnOrder?_isSome_iff.mpr all)
    have each := columnOrder?_eq_some_iff.mp resolved
    have own : List.Forall₂ (fun (c : OrderClause) t => ∃ column ∈ e.columns,
        Text.fold column = Text.fold c.field ∧ t = ⟨.column column, c.direction⟩)
          o.orderBy terms := by
      refine each.imp ?_
      rintro c t ⟨column, found, rfl⟩
      obtain ⟨mem, same⟩ := Entity.column?_some found
      exact ⟨column, mem, same, rfl⟩
    cases terms with
    | nil => exact absurd (List.forall₂_nil_right_iff.mp each) some
    | cons term terms =>
      simp only [resolved]
      exact own
  case unordered =>
    rintro (none | ⟨c, hc, other⟩)
    · simp only [none]
      rfl
    · have unresolved : columnOrder? e o.orderBy = none := by
        rw [← Option.not_isSome_iff_eq_none, columnOrder?_isSome_iff]
        exact fun all => other (all c hc)
      simp only [unresolved]

end Query

end EntityEngine
