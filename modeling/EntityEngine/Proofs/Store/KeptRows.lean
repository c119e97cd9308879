import EntityEngine.Proofs.Sql.StoredValue
import EntityEngine.Proofs.Store.Versions

/-! The values of rows, as the columns of a definition's table keep them. Each has been stored under
the affinity of its column, and there is one in every column that may not be null. Writes keep to
that, whatever values they give. -/

namespace EntityEngine.Store

open Sql

/-- A statement gives no value but such as a caller or a clock does. -/
def Statement.IsGiven : Statement → Prop
  | insert given => ∀ p ∈ given, p.2.IsGiven
  | update changes => ∀ p ∈ changes, ∀ v, p.2 = .set v → v.IsGiven
  | delete => True

namespace Table

variable {t : Table} {m e : Entity}

/-- The values of a row are such as its columns keep. The number of the row is left aside. -/
structure Suits (t : Table) (row : Row) : Prop where
  kept : ∀ (i : Nat) (c : Column) (v : Value), t.columns[i]? = some c → row.values[i]? = some v →
    t.isNumberColumn c.name = false → c.affinity.Keeps v
  filled : t.FillsIn {} row

/-! ### Columns of definitions -/

/-- What a column is to its values: it has no affinity of doubles, texts are compared byte by byte,
and its default is one of those that definitions have. -/
structure IsPlainColumn (c : Column) : Prop where
  affinity : c.affinity ≠ .real
  collation : c.collation = .bytes
  default : ∀ x, c.default = some x → ∃ d : DefaultValue, x = d.expression

theorem IsBuiltFrom.isPlainColumn (h : t.IsBuiltFrom m) : ∀ c ∈ t.columns, IsPlainColumn c := by
  rw [h.isMadeOf.columns]
  intro c hc
  obtain ⟨d, hd, rfl⟩ := List.mem_map.mp hc
  refine ⟨?_, rfl, ?_⟩
  · simp only [columnOf, ColumnText.spec]
    rcases List.mem_append.mp hd with system | field
    · split at system
      · have own : ∀ d ∈ systemColumnTexts,
            Affinity.ofType (declaredType d.type.toList) ≠ .real := by decide +kernel
        exact own d system
      · cases system
    · obtain ⟨f, hf, rfl⟩ := List.mem_map.mp field
      simp only [Field.columnText]
      rw [h.derived.derived f hf]
      cases textual : f.type.isTextual with
      | true =>
        rw [FieldType.textual_affinity textual]
        decide
      | false =>
        rcases FieldType.number_affinity textual f.length f.scale m.layout with same | same
        · rw [same]
          decide
        · rw [same]
          decide
  · intro x default
    obtain ⟨d, -, rfl⟩ := Option.map_eq_some_iff.mp default
    exact ⟨d, rfl⟩

/-! ### Writes -/

theorem keeps_newValue {c : Column} (plain : IsPlainColumn c) {given : List (String × Value)}
    (values : ∀ p ∈ given, p.2.IsGiven) {context : Setting} {v : Value}
    (made : newValue context given c = .ok v) : c.affinity.Keeps v := by
  unfold newValue at made
  split at made
  · rename_i w own
    obtain ⟨p, found, rfl⟩ := Option.map_eq_some_iff.mp own
    rw [← Except.ok.inj made]
    exact Affinity.keeps_store plain.affinity (values p (List.mem_of_find?_eq_some found))
  · split at made
    · rename_i x default
      obtain ⟨w, value, rfl⟩ := map_ok made
      obtain ⟨d, rfl⟩ := plain.default x default
      exact Affinity.keeps_store plain.affinity (DefaultValue.isGiven_expression value)
    · rw [← Except.ok.inj made]
      exact Affinity.keeps_null _

theorem keeps_changedValue {c : Column} (plain : IsPlainColumn c)
    {changes : List (String × Change)} (values : ∀ p ∈ changes, ∀ v, p.2 = .set v → v.IsGiven)
    {old : Value} (kept : c.affinity.Keeps old) : c.affinity.Keeps (changedValue changes c old) := by
  unfold changedValue
  split
  · rename_i name change found
    refine Affinity.keeps_store plain.affinity ?_
    cases change with
    | set v => exact values _ (List.mem_reverse.mp (List.mem_of_find?_eq_some found)) v rfl
    | increment => exact Value.isGiven_next old
  · exact kept

/-- A row that a statement stores suits its table as the older ones do. -/
theorem Stores.kept (plain : ∀ c ∈ t.columns, IsPlainColumn c) {statement : Statement} {row : Row}
    {others : List Row} (stores : t.Stores statement row others) (given : statement.IsGiven)
    (older : ∀ r ∈ t.rows, t.Suits r) : ∀ (i : Nat) (c : Column) (v : Value),
      t.columns[i]? = some c → row.values[i]? = some v → t.isNumberColumn c.name = false →
        c.affinity.Keeps v := by
  intro i c w column value other
  have mem := List.mem_of_getElem? column
  cases stores with
  | new next found =>
    obtain ⟨v, there, rfl⟩ := numbered_getElem? column value
    have made := mapM_ok found column there
    simp only [other, Bool.false_eq_true, if_false] at made ⊢
    exact keeps_newValue (plain c mem) given made
  | @changed changes old _ there made =>
    obtain ⟨number, rfl⟩ := changedRow_ok made
    obtain ⟨v, there', rfl⟩ := numbered_getElem? column value
    rw [List.getElem?_map, Option.map_eq_some_iff] at there'
    obtain ⟨⟨c', before⟩, pair, rfl⟩ := there'
    obtain ⟨column', value'⟩ := List.getElem?_zip_eq_some.mp pair
    rw [column] at column'
    obtain rfl := Option.some.inj column'
    simp only [other, Bool.false_eq_true, if_false]
    exact keeps_changedValue (plain c mem) given ((older old there).kept i c before column value' other)

theorem RowsMove.suits (plain : ∀ c ∈ t.columns, IsPlainColumn c) {statement : Statement}
    {rows : List Row} (move : t.RowsMove statement rows) (given : statement.IsGiven)
    (older : ∀ r ∈ t.rows, t.Suits r) : ∀ r ∈ rows, t.Suits r := by
  intro r hr
  cases move with
  | removed number => exact older r (List.mem_filter.mp hr).1
  | stored stores apart files fills =>
    rcases mem_place.mp hr with rfl | hr
    · exact ⟨stores.kept plain given older, fills fun r hr => (older r hr).filled⟩
    · exact older r (stores.others r hr)

theorem Suits.of_bare {u : Table} {row : Row} (h : u.Suits row) (same : t.bare = u.bare) :
    t.Suits row := by
  have bare : u.bare.Suits row := ⟨h.kept, h.filled⟩
  rw [← same] at bare
  exact ⟨bare.kept, bare.filled⟩

end Table

namespace Database

variable {db db' : Database} {name : String} {statement : Statement}

theorem RowWrite.suits (write : RowWrite name statement db db') (tidy : db.Tidy) (built : db.IsBuilt)
    (given : statement.IsGiven) (older : ∀ t, db.table? name = some t → ∀ r ∈ t.rows, t.Suits r) :
    ∀ u, db'.table? name = some u → ∀ r ∈ u.rows, u.Suits r := by
  induction write with
  | refl => exact older
  | counted _ _ _ ih => exact ih
  | @put d t rows before _ now move ih =>
    intro u there
    rw [table?_putTable (u := { t with rows }) now rfl] at there
    obtain ⟨-, m, own⟩ := built.write tidy before t (table?_some now).1
    have suits := move.suits own.isPlainColumn given (ih t now)
    rw [← Option.some.inj there]
    exact fun r hr => (suits r hr).of_bare rfl

/-! ### What definitions write -/

variable {e : Entity}

theorem isGiven_givenValues (e : Entity) (data : ValueMap) :
    ∀ p ∈ givenValues e data, p.2.IsGiven := by
  intro p hp
  obtain ⟨q, -, rfl⟩ := List.mem_map.mp hp
  exact Value.isGiven_ofJson q.2

theorem isGiven_newValues (e : Entity) (data : ValueMap) (ambient : Ambient) :
    (Statement.insert (newValues e data ambient)).IsGiven := by
  intro p hp
  rcases List.mem_append.mp hp with system | given
  · split at system
    · have own : ∀ p ∈ systemValues ambient, p.2.IsGiven := by
        have one : Number.inInt64 1 = true := by decide
        simp [systemValues, Value.IsGiven, one]
      exact own p system
    · cases system
  · exact isGiven_givenValues e data p given

theorem isGiven_rowChanges (e : Entity) (data : ValueMap) (ambient : Ambient) :
    (Statement.update (rowChanges e data ambient)).IsGiven := by
  rintro p hp v set
  rcases List.mem_append.mp hp with system | given
  · split at system
    · rcases List.mem_cons.mp system with rfl | system
      · cases set
      · rw [List.mem_singleton.mp system] at set
        rw [← Table.Change.set.inj set]
        trivial
    · cases system
  · obtain ⟨q, hq, rfl⟩ := List.mem_map.mp given
    rw [← Table.Change.set.inj set]
    exact isGiven_givenValues e data q hq

end Database

end EntityEngine.Store
