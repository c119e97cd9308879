import EntityEngine.Proofs.Sql.ColumnType
import EntityEngine.Proofs.Sql.LastColumn
import EntityEngine.Proofs.Store.Definitions
import EntityEngine.Sql.TableSpec.Parser

/-! The statements that make the table of a stored definition. Names, defaults and comments stay what
they are whatever their texts; the texts that callers give as column types go into a statement as
they stand, so that all depends on those. -/

namespace EntityEngine

open Sql Store

/-! ### Stored fields -/

/-- What a stored field has of its draft. -/
structure Field.Stores (x : Field) (f : FieldDraft) (layout : Layout) : Prop where
  name : x.name = Text.trim f.name
  columnType : x.columnType = FieldDraft.typeFor f layout
  default : x.default = f.default
  displayName : x.displayName = f.displayName

namespace Store.Database.Created

variable {db db' : Database} {draft : EntityDraft} {ambient : Ambient} {e : Entity}

theorem stores (c : db.Created draft ambient e db') :
    ∀ x ∈ e.fields, ∃ f ∈ draft.fields, x.Stores f e.layout := by
  obtain ⟨first, audit, stored⟩ := c.fields
  intro x hx
  rw [stored, sortFields, List.mem_mergeSort] at hx
  obtain ⟨⟨f, i⟩, mem, rfl⟩ := List.mem_map.mp hx
  exact ⟨f, List.fst_mem_of_mem_zipIdx mem, rfl, by rw [c.layout]; rfl, rfl, rfl⟩

theorem stored (c : db.Created draft ambient e db') :
    ∀ f ∈ draft.fields, ∃ x ∈ e.fields, x.Stores f e.layout := by
  obtain ⟨first, audit, stored⟩ := c.fields
  intro f hf
  obtain ⟨i, less, rfl⟩ := List.mem_iff_getElem.mp hf
  refine ⟨storedField e.id (first + i) draft.layout audit i draft.fields[i], ?_, rfl, ?_, rfl, rfl⟩
  · rw [stored, sortFields, List.mem_mergeSort]
    exact List.mem_map.mpr ⟨(draft.fields[i], i), List.mk_mem_zipIdx_iff_getElem?.mpr
      (List.getElem?_eq_getElem less), rfl⟩
  · rw [c.layout]
    rfl

end Store.Database.Created

/-- A type that is given and not blank has to be delimited itself; any other one follows from the
type of the field. -/
theorem delimited_typeFor {f : FieldDraft} (layout : Layout)
    (given : ∀ t, f.columnType = some t → Text.isBlankText t = false → Delimited t.toList) :
    Delimited (FieldDraft.typeFor f layout).toList := by
  unfold FieldDraft.typeFor
  split
  · rename_i t found
    obtain ⟨type, some⟩ := Option.filter_eq_some_iff.mp found
    exact given t type (by simpa using some)
  · exact (FieldType.columnType_ordinary f.type f.length f.scale layout).delimited

/-! ### Columns -/

/-- The texts of a field besides its name and its type are read to their ends. -/
def Field.HasWholeTexts (x : Field) : Prop :=
  ∀ s, x.default = some s ∨ x.displayName = some s → IsWhole s.toList

def FieldDraft.HasWholeTexts (f : FieldDraft) : Prop :=
  ∀ s, f.default = some s ∨ f.displayName = some s → IsWhole s.toList

namespace Field

variable {x : Field} {layout : Layout}

theorem Stores.hasWholeTexts {f : FieldDraft} (h : x.Stores f layout) :
    x.HasWholeTexts ↔ f.HasWholeTexts := by
  rw [HasWholeTexts, FieldDraft.HasWholeTexts, h.default, h.displayName]

theorem mem_constraints {k : ColumnConstraint} (hk : k ∈ (x.columnText layout).constraints) :
    k = .notNull ∨ k = .unique ∨ ∃ s, x.default = some s ∧ k = .default (.ofText x.type s) := by
  rcases List.mem_append.mp hk with hk | hk
  · rcases List.mem_append.mp hk with hk | hk
    · split at hk
      · exact Or.inl (List.mem_singleton.mp hk)
      · cases hk
    · split at hk
      · exact Or.inr (Or.inl (List.mem_singleton.mp hk))
      · cases hk
  · split at hk
    · rename_i s found
      exact Or.inr (Or.inr ⟨s, found, List.mem_singleton.mp hk⟩)
    · cases hk

theorem default_mem_constraints {s : String} (found : x.default = some s) :
    .default (.ofText x.type s) ∈ (x.columnText layout).constraints := by
  simp [columnText, found]

theorem standsAlone (type : Delimited x.columnType.toList) :
    (x.columnText layout).StandsAlone := by
  refine ⟨type, fun k hk => ?_⟩
  rcases mem_constraints hk with rfl | rfl | ⟨s, -, rfl⟩
  · exact piece_notNull
  · exact piece_unique
  · exact piece_defaultConstraint (DefaultValue.stands_ofText x.type s).piece

theorem isWhole_default {s : String} :
    IsWhole (ColumnConstraint.render (.default (.ofText x.type s))).toList ↔ IsWhole s.toList := by
  rw [ColumnConstraint.render, String.toList_append, isWhole_append,
    (DefaultValue.stands_ofText x.type s).isWhole_literal]
  simp

/-- The column of a field is whole if its texts are. -/
theorem isWhole_columnText (name : IsWhole x.name.toList) (type : IsWhole x.columnType.toList) :
    IsWhole (x.columnText layout).render.toList ↔ x.HasWholeTexts := by
  rw [isWhole_column]
  constructor
  · rintro ⟨-, -, constraints, comment⟩ s (default | displayName)
    · exact isWhole_default.mp (constraints _ (default_mem_constraints default))
    · exact comment s displayName
  · intro whole
    refine ⟨name, type, fun k hk => ?_, fun s comment => whole s (Or.inr comment)⟩
    rcases mem_constraints hk with rfl | rfl | ⟨s, default, rfl⟩
    · simp [ColumnConstraint.render]
    · simp [ColumnConstraint.render]
    · exact isWhole_default.mpr (whole s (Or.inl default))

end Field

theorem standsAlone_systemColumnTexts : ∀ c ∈ systemColumnTexts, c.StandsAlone := by
  have types : ∀ c ∈ systemColumnTexts, Delimited c.type.toList := by decide
  have one : IsPiece (ColumnConstraint.render (.default (.number "1"))).toList :=
    piece_defaultConstraint (piece_numeral (n := ⟨false, ['1'], none, none⟩) rfl)
  have active : IsPiece (ColumnConstraint.render (.default (.text "ACTIVE"))).toList :=
    piece_defaultConstraint (piece_quotedText "ACTIVE")
  have constraints : ∀ c ∈ systemColumnTexts, ∀ k ∈ c.constraints, IsPiece k.render.toList := by
    simp [systemColumnTexts, piece_autoKey, piece_notNull, piece_unique, one, active]
  exact fun c hc => ⟨types c hc, constraints c hc⟩

theorem isWhole_systemColumnTexts : ∀ c ∈ systemColumnTexts, IsWhole c.render.toList := by
  have all : ∀ c ∈ systemColumnTexts, c.render.toList.all (fun d => d.toNat ≠ 0) = true := by
    decide
  exact fun c hc => isWhole_iff_all.mpr (all c hc)

theorem isWhole_identifier {name : String} (h : isIdentifier name = true) :
    IsWhole name.toList := by
  intro c hc
  have range := identifierChar_iff.mp (all_of_isIdentifier h c hc)
  omega

/-! ### Definitions -/

/-- Making the table of a definition carries out the statements of the table and of its indexes, and
nothing else. -/
structure Entity.RunsOwn (e : Entity) : Prop where
  /-- Each text is one statement. The first one makes the table, each other one an index on it. -/
  statements : ∃ first others, e.statements = first :: others ∧
    IsTableStatement e.table first ∧ ∀ s ∈ others, IsIndexStatement e.table s
  /-- No further statement is carried out with the first one. -/
  further : e.tableText.further = []

theorem Sql.IsTableStatement.further {t : TableText} (h : IsTableStatement t.table t.render) :
    t.further = [] := by
  obtain ⟨inner, isInner, statement⟩ := h
  unfold TableText.further TableText.tokens
  rw [statement.single]
  split <;> rfl

namespace Entity

variable {e : Entity}

theorem standsAlone_columns (types : ∀ x ∈ e.fields, Delimited x.columnType.toList) :
    ∀ c ∈ e.tableText.columns, c.StandsAlone := by
  intro c hc
  rcases List.mem_append.mp hc with hc | hc
  · cases layout : e.layout with
    | template =>
      rw [layout] at hc
      exact standsAlone_systemColumnTexts c hc
    | native =>
      rw [layout] at hc
      cases hc
  · obtain ⟨x, hx, rfl⟩ := List.mem_map.mp hc
    exact Field.standsAlone (types x hx)

theorem isWhole_tableText (table : isIdentifier e.table = true)
    (names : ∀ x ∈ e.fields, isIdentifier x.name = true)
    (types : ∀ x ∈ e.fields, Delimited x.columnType.toList) :
    IsWhole e.tableText.render.toList ↔ ∀ x ∈ e.fields, x.HasWholeTexts := by
  have column : ∀ x ∈ e.fields,
      (IsWhole (x.columnText e.layout).render.toList ↔ x.HasWholeTexts) := fun x hx =>
    Field.isWhole_columnText (isWhole_identifier (names x hx)) (types x hx).whole
  rw [isWhole_table]
  constructor
  · rintro ⟨-, columns, -⟩ x hx
    exact (column x hx).mp (columns _ (List.mem_append_right _ (List.mem_map_of_mem hx)))
  · intro whole
    refine ⟨isWhole_identifier table, fun c hc => ?_, fun name hn => ?_⟩
    · rcases List.mem_append.mp hc with hc | hc
      · cases layout : e.layout with
        | template =>
          rw [layout] at hc
          exact isWhole_systemColumnTexts c hc
        | native =>
          rw [layout] at hc
          cases hc
      · obtain ⟨x, hx, rfl⟩ := List.mem_map.mp hc
        exact (column x hx).mpr (whole x hx)
    · simp only [tableText] at hn
      split at hn
      · cases hn
      · obtain ⟨x, hx, rfl⟩ := List.mem_map.mp hn
        exact isWhole_identifier (names x (List.mem_of_mem_filter hx))

theorem isIndexStatement_indexText (table : isIdentifier e.table = true) {x : Field}
    (name : isIdentifier x.name = true) : IsIndexStatement e.table (e.indexText x).render := by
  refine IndexText.isIndexStatement_render ?_
  have tableWhole := isWhole_identifier table
  have nameWhole := isWhole_identifier name
  unfold IndexText.render IndexText.renderWith Text.join
  simp [String.intercalate_singleton, isWhole_quotedName, tableWhole, nameWhole]

/-- Where the types of the columns are delimited, only U+0000 in a default or a comment breaks a
statement, which is then cut short. -/
theorem runsOwn_iff (table : isIdentifier e.table = true)
    (names : ∀ x ∈ e.fields, isIdentifier x.name = true)
    (types : ∀ x ∈ e.fields, Delimited x.columnType.toList) :
    e.RunsOwn ↔ ∀ x ∈ e.fields, x.HasWholeTexts := by
  rw [← isWhole_tableText table names types]
  constructor
  · intro own
    obtain ⟨first, others, eq, ⟨inner, isInner, statement⟩, -⟩ := own.statements
    obtain ⟨rfl, -⟩ := List.cons.inj eq
    exact statement.whole
  · intro whole
    have isTable : IsTableStatement e.table e.tableText.render :=
      TableText.isTableStatement_render rfl (standsAlone_columns types) whole
    refine ⟨⟨_, _, rfl, isTable, fun s hs => ?_⟩, isTable.further⟩
    obtain ⟨i, hi, rfl⟩ := List.mem_map.mp hs
    obtain ⟨x, hx, rfl⟩ := List.mem_map.mp hi
    exact isIndexStatement_indexText table (names x (List.mem_of_mem_filter hx))

end Entity

/-! ### Types -/

/-- A template with one field of a given type, which is the last column of its table. -/
def loneDraft (type : String) (displayName : Option String) : EntityDraft where
  appId := 1
  name := "Note"
  table := "note"
  code := some "note"
  fields := [{ name := "body", type := .text, columnType := some type, displayName }]

theorem validate_loneDraft (type : String) (displayName : Option String) :
    (loneDraft type displayName).validate = .ok () := by
  have same : (loneDraft type displayName).defect? = (loneDraft "" none).defect? := by
    unfold EntityDraft.defect? fieldsDefect? loneDraft
    simp only [List.map_cons, List.countP_cons]
    rfl
  have valid : (loneDraft "" none).defect? = none := by decide
  rw [EntityDraft.validate, same, valid]
  rfl

/-- What is stored of it. -/
theorem stored_loneDraft {type : String} (displayName : Option String)
    (some : Text.isBlankText type = false) :
    ∃ e db', Database.empty.createEntity (loneDraft type displayName) "a" ⟨⟨0, 0⟩, "r", "c"⟩ =
        .ok (e, db') ∧ e.table = "note" ∧
      e.tableText = .withLast "note" systemColumnTexts "body" type displayName := by
  obtain ⟨e, db', created⟩ : ∃ e db', Database.empty.createEntity (loneDraft type displayName) "a"
      ⟨⟨0, 0⟩, "r", "c"⟩ = .ok (e, db') := ⟨_, _, rfl⟩
  have c := Database.created_of_createEntity created
  have table : e.table = "note" := by
    have trimmed : Text.trim "note" = "note" := by decide
    rw [c.table, ← trimmed]
    rfl
  have layout : e.layout = .template := c.layout
  obtain ⟨first, audit, fields⟩ := c.fields
  have given : ∀ f ∈ (loneDraft type displayName).fields, FieldDraft.typeFor f .template = type := by
    simp [loneDraft, FieldDraft.typeFor, Option.filter, some]
  have name : Text.trim "body" = "body" := by decide
  refine ⟨e, db', created, table, ?_⟩
  rw [Entity.tableText, table, layout, fields]
  simp [loneDraft, storedFields, storedField, sortFields, TableText.withLast, Field.columnText]
  exact ⟨name, given _ List.mem_cons_self⟩

/-- Making tables runs nothing else exactly if the types that callers may give are delimited: they
are read by themselves, as tokens that end no statement and close the parentheses they open. With
such types, every definition stored for a valid draft runs its own statements only, but for those
that U+0000 in a default or a display name cuts short; and any other type makes a statement of
another kind in some table. -/
theorem runs_own_iff (types : String → Prop) :
    (∀ t, types t → Text.isBlankText t = false → Delimited t.toList) ↔
      ∀ (db : Database) (draft : EntityDraft) (actor : String) (ambient : Ambient) (e : Entity)
        (db' : Database), draft.validate = .ok () →
        db.createEntity draft actor ambient = .ok (e, db') →
        (∀ f ∈ draft.fields, ∀ t, f.columnType = some t → types t) →
        (e.RunsOwn ↔ ∀ f ∈ draft.fields, f.HasWholeTexts) := by
  constructor
  · intro delimited db draft actor ambient e db' valid created given
    have c := Database.created_of_createEntity created
    obtain ⟨free, fieldsValid⟩ := validate_ok valid
    have identifiers := names_of_validateFields fieldsValid
    have table : isIdentifier e.table = true := by
      rw [c.table]
      exact (isFree_iff.mp free).1
    have names : ∀ x ∈ e.fields, isIdentifier x.name = true := by
      intro x hx
      obtain ⟨f, hf, stores⟩ := c.stores x hx
      rw [stores.name]
      exact (identifiers f hf).1
    have columns : ∀ x ∈ e.fields, Delimited x.columnType.toList := by
      intro x hx
      obtain ⟨f, hf, stores⟩ := c.stores x hx
      rw [stores.columnType]
      exact delimited_typeFor e.layout fun t type => delimited t (given f hf t type)
    rw [Entity.runsOwn_iff table names columns]
    constructor
    · intro whole f hf
      obtain ⟨x, hx, stores⟩ := c.stored f hf
      exact stores.hasWholeTexts.mp (whole x hx)
    · intro whole x hx
      obtain ⟨f, hf, stores⟩ := c.stores x hx
      exact stores.hasWholeTexts.mpr (whole f hf)
  · intro own t ht some
    have single : ∀ displayName, (∀ s, displayName = Option.some s → IsWhole s.toList) →
        IsTableStatement "note"
          (TableText.withLast "note" systemColumnTexts "body" t displayName).render := by
      intro displayName whole
      obtain ⟨e, db', created, table, text⟩ := stored_loneDraft displayName some
      have given : ∀ f ∈ (loneDraft t displayName).fields, ∀ u, f.columnType = Option.some u →
          types u := by
        intro f hf u type
        rw [List.mem_singleton.mp hf] at type
        rwa [← Option.some.inj type]
      have texts : ∀ f ∈ (loneDraft t displayName).fields, f.HasWholeTexts := by
        intro f hf s text
        rw [List.mem_singleton.mp hf] at text
        rcases text with default | comment
        · cases default
        · exact whole s comment
      have runs := (own _ _ _ _ e db' (validate_loneDraft t displayName) created given).mpr texts
      obtain ⟨first, others, eq, isTable, -⟩ := runs.statements
      obtain ⟨rfl, -⟩ := List.cons.inj eq
      rwa [table, text] at isTable
    refine TableText.delimited_of_last standsAlone_systemColumnTexts (single none (by simp))
      (single (Option.some "\n;") fun s eq => ?_)
    rw [← Option.some.inj eq]
    simp

/-- A type that ends the statement, and hides what is left of it in a comment. -/
example : ¬ Delimited "INT); DROP TABLE note; /*".toList := by decide

example : Delimited "DECIMAL(10, 2) COLLATE NOCASE CHECK (\"a;b\" > 0)".toList := by decide

end EntityEngine
