import EntityEngine.Proofs.Store.Chronology
import EntityEngine.Proofs.Store.Fit

/-! What statements on the rows of a definition write besides values of its fields: the number of a
new row is left to the table, and its time is the present one; an update keeps both. So it is as
long as no field takes the name of a system column, or one of the names for the numbers of rows
without a column of its own. -/

namespace EntityEngine

open Sql Store

/-- No field of a template has the name of a system column. -/
def Entity.HasOwnNames (e : Entity) : Prop :=
  e.layout = .template → ∀ f ∈ e.fields, isSystemColumn f.name = false

theorem Entity.HasOwnNames.of_stored {e : Entity} {id first : Int} {fields : List FieldDraft}
    {audit : Audit} (valid : validateFields fields e.layout = .ok ())
    (stored : e.fields = sortFields (storedFields id first e.layout audit fields)) :
    e.HasOwnNames := by
  intro template f hf
  rw [stored] at hf
  obtain ⟨⟨draft, i⟩, mem, rfl⟩ := List.mem_map.mp ((List.mergeSort_perm _ _).mem_iff.mp hf)
  exact (names_of_validateFields valid draft (List.fst_mem_of_mem_zipIdx mem)).2 template

theorem not_sameFold_of_isSystemColumn {name column : String} (own : isSystemColumn name = false)
    (system : column ∈ systemColumns) : Text.sameFold name column = false :=
  Bool.eq_false_iff.mpr (List.any_eq_false.mp own column system)

theorem Store.mem_givenValues {e : Entity} {data : ValueMap} {p : String × Value}
    (hp : p ∈ givenValues e data) : ∃ f ∈ e.fields, f.name = p.1 := by
  obtain ⟨⟨name, v⟩, mem, rfl⟩ := List.mem_map.mp hp
  have declared : (e.field? name).isSome = true := (List.mem_filter.mp mem).2
  obtain ⟨f, found⟩ := Option.isSome_iff_exists.mp declared
  exact ⟨f, List.mem_of_find?_eq_some found, by simpa using List.find?_some found⟩

namespace Store.Table

variable {t : Table} {e m : Entity}

/-- No field of a definition that lacks a column has a name for the numbers of rows. -/
def KeepsNumbers (t : Table) (e : Entity) : Prop :=
  ∀ f ∈ e.fields, isRowNumberName f.name = true → t.hasColumn f.name = true

/-- A table that serves a definition has a column for each of its fields. -/
theorem Serves.keepsNumbers (h : t.Serves e) : t.KeepsNumbers e := fun _ hf _ =>
  h.shown _ (List.mem_append_right _ (List.mem_map_of_mem hf))

namespace IsBuiltFrom

/-- A name that is not that of the number column does not stand for the number of a row, as long as
a column has it if it is one of the names for that. -/
theorem not_number (h : t.IsBuiltFrom m) (template : m.layout = .template) {name : String}
    (other : Text.sameFold name "id" = false)
    (taken : isRowNumberName name = true → t.hasColumn name = true) :
    (match t.resolve? name with
      | some .number => true
      | some (.column _) => t.isNumberColumn name
      | none => false) = false := by
  rw [resolve?]
  cases place : t.place? name with
  | some i =>
    show t.isNumberColumn name = false
    rw [h.isNumberColumn_eq template, other]
  | none =>
    rw [hasColumn, place] at taken
    rw [if_neg fun own => Bool.false_ne_true (taken own)]

/-- What stands beside the fields, and the fields themselves, leave the numbers of rows alone. -/
theorem not_number_of_mem (h : t.IsBuiltFrom m) (template : m.layout = .template)
    (layout : e.layout = .template) (own : e.HasOwnNames) (keeps : t.KeepsNumbers e)
    {name : String} (mem : name ∈ systemColumns.tail ∨ ∃ f ∈ e.fields, f.name = name) :
    (match t.resolve? name with
      | some .number => true
      | some (.column _) => t.isNumberColumn name
      | none => false) = false := by
  rcases mem with system | ⟨f, hf, rfl⟩
  · have apart : ∀ name ∈ systemColumns.tail, Text.sameFold name "id" = false ∧
        isRowNumberName name = false := by decide
    obtain ⟨other, plain⟩ := apart name system
    exact h.not_number template other fun number => by
      rw [plain] at number
      cases number
  · exact h.not_number template
      (not_sameFold_of_isSystemColumn (own layout f hf) (by decide)) (keeps f hf)

/-- A new row of a definition. -/
theorem stamps_newValues (h : t.IsBuiltFrom m) (template : m.layout = .template)
    (layout : e.layout = .template) (own : e.HasOwnNames) (keeps : t.KeepsNumbers e)
    (data : ValueMap) (ambient : Ambient) :
    (Statement.insert (newValues e data ambient)).Stamps t ambient.now := by
  have values : newValues e data ambient = systemValues ambient ++ givenValues e data := by
    rw [newValues, layout]
  have second : Text.sameFold "record_id" createdAtColumn.name = false := by decide
  have third : Text.sameFold "created_at" createdAtColumn.name = true := Text.sameFold_refl _
  constructor
  · rw [givenNumber?, List.find?_eq_none.mpr, Option.map_none]
    intro p hp
    rw [Bool.not_eq_true]
    refine h.not_number_of_mem template layout own keeps ?_
    rw [values, List.mem_reverse] at hp
    rcases List.mem_append.mp hp with hp | hp
    · have names : ∀ p ∈ systemValues ambient, p.1 ∈ systemColumns.tail := by
        simp [systemValues, systemColumns]
      exact Or.inl (names p hp)
    · exact Or.inr (mem_givenValues hp)
  · simp only [values, given?, systemValues, List.cons_append, List.find?_cons, second, third]
    rfl

/-- An update of a row of a definition. -/
theorem stamps_rowChanges (h : t.IsBuiltFrom m) (template : m.layout = .template)
    (layout : e.layout = .template) (own : e.HasOwnNames) (keeps : t.KeepsNumbers e)
    (data : ValueMap) (ambient : Ambient) (now : Time.Instant) :
    (Statement.update (Database.rowChanges e data ambient)).Stamps t now := by
  have mem : ∀ p ∈ Database.rowChanges e data ambient,
      p.1 = "version" ∨ p.1 = "updated_at" ∨ ∃ f ∈ e.fields, f.name = p.1 := by
    intro p hp
    rw [Database.rowChanges, layout] at hp
    rcases List.mem_append.mp hp with hp | hp
    · rcases List.mem_cons.mp hp with rfl | hp
      · exact Or.inl rfl
      · exact Or.inr (Or.inl (congrArg Prod.fst (List.mem_singleton.mp hp)))
    · obtain ⟨q, hq, rfl⟩ := List.mem_map.mp hp
      exact Or.inr (Or.inr (mem_givenValues hq))
  constructor
  · intro row
    rw [changedNumber?, List.find?_eq_none.mpr, Option.map_none]
    intro p hp
    rw [Bool.not_eq_true]
    refine h.not_number_of_mem template layout own keeps ?_
    rcases mem p (List.mem_reverse.mp hp) with version | updated | field
    · rw [version]
      exact Or.inl (by decide)
    · rw [updated]
      exact Or.inl (by decide)
    · exact Or.inr field
  · intro old
    rw [changedValue, List.find?_eq_none.mpr]
    intro p hp
    rw [Bool.not_eq_true]
    show Text.sameFold p.1 createdAtColumn.name = false
    have system : ∀ name ∈ ["version", "updated_at"],
        Text.sameFold name createdAtColumn.name = false := by decide
    rcases mem p (List.mem_reverse.mp hp) with version | updated | ⟨f, hf, field⟩
    · rw [version]
      exact system _ (by decide)
    · rw [updated]
      exact system _ (by decide)
    · rw [← field]
      exact not_sameFold_of_isSystemColumn (own layout f hf) (by decide)

end IsBuiltFrom

end Store.Table

end EntityEngine
