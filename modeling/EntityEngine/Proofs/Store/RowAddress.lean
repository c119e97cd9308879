import EntityEngine.Proofs.Sql.Characters
import EntityEngine.Proofs.Sql.WrittenNumber
import EntityEngine.Proofs.Store.RowKeys
import EntityEngine.Proofs.Store.RowValues
import EntityEngine.Proofs.Text.Parts

/-! The key that a row shows, taken as the key that is looked for. It is shown by the type of the
field and looked for by the type of the column, and mostly the two agree: integers and texts find
themselves again. Flags do not, for they are stored as numbers and shown as words, and of the texts
of JSON only those do that are written as they are shown. -/

namespace EntityEngine

open Number Sql Store

/-! ### Keys of several parts -/

/-- Parts without the character between them are found again. -/
theorem Text.split_join {parts : List String} (some : parts ≠ [])
    (plain : ∀ p ∈ parts, ',' ∉ p.toList) : split ',' (join "," parts) = parts := by
  have comma : ",".toList = [','] := by simp
  have apart : ∀ l ∈ parts.map String.toList, ',' ∉ l := by
    intro l hl
    obtain ⟨p, hp, rfl⟩ := List.mem_map.mp hl
    exact plain p hp
  rw [split, splitAt_iff.mpr ⟨by simpa using some, apart, by rw [toList_join, comma]⟩, List.map_map]
  simp

/-! ### Values and the texts that they are shown as -/

/-- A text that is kept equals what becomes of another text exactly if it is that text. -/
theorem Sql.Affinity.Keeps.form_text {a : Affinity} {s k : String} (kept : a.Keeps (.text s))
    (other : a ≠ .real) : (Value.text s).form = (a.convert (.text k)).form ↔ k = s := by
  constructor
  · intro same
    have converted : a.convert (.text k) = .text k ∨ (a.convert (.text k)).rank = 1 := by
      cases number : a.isNumeric with
      | false => cases a <;> first | exact Or.inl rfl | cases number
      | true =>
        rw [convert_numeric number]
        show ((numeric? k).map condense).getD (.text k) = _ ∨
          (((numeric? k).map condense).getD (.text k)).rank = 1
        cases found : numeric? k with
        | none => exact Or.inl rfl
        | some w =>
          right
          obtain ⟨n, rfl⟩ := Value.numeral_of_numeric? found
          show (condense (numeralValue n)).rank = 1
          unfold numeralValue
          split
          · rfl
          · rcases condense_cases n.countedDouble with ⟨i, whole⟩ | same
            · rw [whole]
              rfl
            · rw [same]
              rfl
    rcases converted with text | number
    · rw [text] at same
      have bytes : Text.textBytes s.toList = Text.textBytes k.toList := congrArg (·.2.2) same
      exact (String.toList_inj.mp (Text.textBytes_injective bytes)).symm
    · have rank : 2 = (a.convert (.text k)).rank := congrArg (·.1) same
      rw [number] at rank
      cases rank
  · rintro rfl
    rw [kept.convert other]

/-- The text that is shown for a value of a field is read as that value: any integer but a flag, and
any text but one that writes JSON in another way than it is shown. -/
def FieldType.Rereads (type : FieldType) : Value → Prop
  | .integer _ => type ≠ .boolean
  | .text s => type = .json → ∀ v, Json.parse? s = some v → keyPart v = s
  | _ => False

/-- A value of a field's column equals the text that it is shown as exactly if that is read as the
value. -/
theorem compares_keyPart {r : Reading} {type : FieldType} {length scale : Option Nat}
    {layout : Layout}
    (declared : r.affinity = .ofType (declaredType (type.columnType length scale layout).toList))
    (bytes : r.collation = .bytes) (kept : r.affinity.Keeps r.value)
    (given : r.value.isNull = false) (whole : ∀ x, r.value ≠ .real x) :
    r.compares .eq (.text (keyPart (shownValue (some type) r.value))) = true ↔
      type.Rereads r.value := by
  have number (other : type.isTextual = false) : r.affinity.isNumeric = true := by
    rcases FieldType.number_affinity other length scale layout with same | same <;>
      rw [declared, same] <;> rfl
  have text (textual : type.isTextual = true) : r.affinity = .text := by
    rw [declared, FieldType.textual_affinity textual]
  have other : r.affinity ≠ .real := by
    cases textual : type.isTextual with
    | true =>
      rw [text textual]
      decide
    | false =>
      rcases FieldType.number_affinity textual length scale layout with same | same <;>
        rw [declared, same] <;> decide
  rw [Reading.compares_iff kept other bytes, given]
  simp only [true_and]
  cases value : r.value with
  | null =>
    rw [value] at given
    cases given
  | real x => exact absurd value (whole x)
  | blob b =>
    rw [value] at kept
    exact kept.given.elim
  | integer n =>
    rw [value] at kept
    have fits : inInt64 n = true := kept.given
    cases textual : type.isTextual with
    | true =>
      -- A column of texts keeps no integer.
      have stored := kept.stored
      rw [text textual] at stored
      cases stored
    | false =>
      rw [Affinity.convert_numeric (number textual)]
      by_cases flag : type = .boolean
      · rw [flag]
        have word : numeric? "true" = none ∧ numeric? "false" = none := by decide +kernel
        refine iff_of_false (fun same => ?_) fun rereads => rereads rfl
        have rank := congrArg (·.1) same
        cases truth : n != 0 with
        | true =>
          simp [shownValue, truth, keyPart, Json.render, Json.chars, Affinity.convert, word,
            Value.form, Value.rank] at rank
        | false =>
          simp [shownValue, truth, keyPart, Json.render, Json.chars, Affinity.convert, word,
            Value.form, Value.rank] at rank
      · refine iff_of_true ?_ flag
        have shown : shownValue (some type) (.integer n) = .integer n := by
          cases type <;> first | rfl | exact absurd rfl flag
        have part : keyPart (.integer n) = toString n := String.ofList_toList
        have converted : Affinity.numeric.convert (.text (toString n)) =
            ((numeric? (toString n)).map condense).getD (.text (toString n)) := rfl
        rw [shown, part, converted, numeric?_integer fits]
        rfl
  | text s =>
    rw [value] at kept
    rw [kept.form_text other]
    by_cases json : type = .json
    · rw [json]
      show keyPart ((Json.parse? s).getD (.text s)) = s ↔ _
      cases parsed : Json.parse? s with
      | none => simp [FieldType.Rereads, keyPart, parsed]
      | some v => simp [FieldType.Rereads, parsed]
    · have shown : shownValue (some type) (.text s) = .text s := by
        cases type <;> first | rfl | exact absurd rfl json
      rw [shown]
      exact iff_of_true rfl fun own => absurd own json

/-! ### The key that a row shows -/

namespace Store

variable {t : Table} {e m : Entity} {row : Row} {db : Database}

/-- The conditions that a key of given parts stands for, one for each key field. -/
theorem keyConditions?_join (native : e.layout = .native) (keyed : e.keys ≠ [])
    {part : Field → String}
    (plain : 1 < e.keys.length → ∀ f ∈ e.keys, ',' ∉ (part f).toList) :
    keyConditions? e (Text.join "," (e.keys.map part)) =
      some (e.keys.map fun f => .compare (.column f.name) .eq (.text (part f))) := by
  unfold keyConditions?
  rw [native]
  simp only
  split
  · rename_i none
    exact absurd none keyed
  · rename_i f only
    rw [only, List.map_cons, List.map_nil, Text.join, String.intercalate_singleton]
    rfl
  · rename_i several
    have more : 1 < e.keys.length := by
      rcases keys : e.keys with - | ⟨f, - | ⟨g, fs⟩⟩
      · exact absurd keys keyed
      · exact absurd keys (several f)
      · simp
    have parts : Text.split ',' (Text.join "," (e.keys.map part)) = e.keys.map part := by
      refine Text.split_join (by simpa using keyed) fun p hp => ?_
      obtain ⟨f, hf, rfl⟩ := List.mem_map.mp hp
      exact plain more f hf
    rw [parts, List.length_map, if_pos rfl, List.zipWith_map, List.zipWith_self]

namespace Table

/-- The text that a row shows for a key field. -/
def keyPartOf (t : Table) (row : Row) (f : Field) : String :=
  keyPart (shownValue (some f.type) (t.valueOf row f.name))

/-- The key that a row shows, as a text. -/
def keyText (t : Table) (e : Entity) (row : Row) : String :=
  Text.join "," (e.keys.map (t.keyPartOf row))

/-- The key that a row shows: the value of the key field, or one text of the values of several. -/
def shownKey (t : Table) (e : Entity) (row : Row) : Json :=
  match e.keys with
  | [f] => shownValue (some f.type) (t.valueOf row f.name)
  | fs => .text (Text.join "," (fs.map (t.keyPartOf row)))

theorem keyPart_shownKey (t : Table) (e : Entity) (row : Row) :
    keyPart (t.shownKey e row) = t.keyText e row := by
  unfold shownKey keyText
  split
  · rename_i f keys
    rw [keys, List.map_cons, List.map_nil, Text.join, String.intercalate_singleton, keyPartOf]
  · rfl

/-- A row of a native table shows its key under `id`, unless a field has that name. -/
theorem get?_id_native (native : e.layout = .native) (keyed : e.keys ≠ [])
    (once : ∀ f ∈ e.keys, e.field? f.name = some f) (free : "id" ∉ e.columns) (row : Row) :
    (t.shown e row).get? "id" = some (t.shownKey e row) := by
  have absent : (shownRow e (t.reader row)).contains "id" = false := by
    rw [ValueMap.contains, get?_shownRow, if_neg free]
    rfl
  have each : ∀ f ∈ e.keys, (shownRow e (t.reader row)).get? f.name =
      some (shownValue (some f.type) (t.valueOf row f.name)) := by
    intro f hf
    have mem : f.name ∈ e.columns := by
      rw [Entity.columns, native]
      exact List.mem_map_of_mem (List.mem_filter.mp hf).1
    rw [get?_shownRow, if_pos mem, once f hf]
    rfl
  have values : ∀ fs : List Field, (∀ f ∈ fs, f ∈ e.keys) →
      (fs.mapM fun f => (shownRow e (t.reader row)).get? f.name) =
        some (fs.map fun f => shownValue (some f.type) (t.valueOf row f.name)) := by
    intro fs all
    induction fs with
    | nil => rfl
    | cons f fs ih =>
      rw [List.mapM_cons, each f (all f List.mem_cons_self),
        ih fun g hg => all g (List.mem_cons_of_mem f hg)]
      rfl
  have shown : rowKey? e (shownRow e (t.reader row)) = some (t.shownKey e row) := by
    rw [rowKey?, values e.keys fun f hf => hf, shownKey]
    rcases keys : e.keys with - | ⟨f, - | ⟨g, fs⟩⟩
    · exact absurd keys keyed
    · rfl
    · simp only [List.map_cons, List.map_map]
      rfl
  rw [Table.shown, withKey, absent, if_neg Bool.false_ne_true, shown]
  exact ValueMap.get?_insert_self _ _ _

theorem IsMadeOf.get?_id (own : t.IsMadeOf e) (native : e.layout = .native)
    (keyed : e.keys ≠ []) (free : "id" ∉ e.columns) (row : Row) :
    ∃ id, (t.shown e row).get? "id" = some id ∧ keyPart id = t.keyText e row :=
  ⟨_, get?_id_native native keyed (fun _ hf => own.field?_eq (List.mem_filter.mp hf).1) free row,
    t.keyPart_shownKey e row⟩

/-- A key field has a value such as its column keeps. -/
theorem IsMadeOf.keeps_key (own : t.IsMadeOf e) (native : e.layout = .native) (suits : t.Suits row)
    {f : Field} (hf : f ∈ e.keys) :
    (t.reader row (.column f.name)).affinity.Keeps (t.reader row (.column f.name)).value ∧
      (t.reader row (.column f.name)).value.isNull = false := by
  obtain ⟨hf, isKey⟩ := List.mem_filter.mp hf
  obtain ⟨i, place, column⟩ := own.place_of_mem (mem_columns hf)
  have needed : (columnOf (f.columnText e.layout).spec).notNull.isSome = true := by
    simp [columnOf, ColumnText.spec, Field.columnText, isKey]
  have noNumber (name : String) : t.isNumberColumn name = false := by
    rw [isNumberColumn, own.numberColumn, Entity.numberColumn?_tableText own.derived, native]
    rfl
  -- Only what is known of the column matters from here on, not the type that it is declared with.
  generalize columnOf (f.columnText e.layout).spec = c at column needed
  have read : t.reader row (.column f.name) = ⟨valueAt row i, c.affinity, c.collation⟩ :=
    reader_column place column row
  rw [read]
  exact ⟨suits.keeps column (noNumber c.name),
    suits.filled i c column needed (noNumber c.name) rfl⟩

/-- A key field equals the text that is shown for it exactly if that is read as its value. -/
theorem IsMadeOf.compares_keyPartOf (own : t.IsMadeOf e) (native : e.layout = .native)
    (suits : t.Suits row) {f : Field} (hf : f ∈ e.keys)
    (whole : ∀ x, t.valueOf row f.name ≠ .real x) :
    (t.reader row (.column f.name)).compares .eq (.text (t.keyPartOf row f)) = true ↔
      f.type.Rereads (t.valueOf row f.name) := by
  obtain ⟨kept, given⟩ := own.keeps_key native suits hf
  have mem := (List.mem_filter.mp hf).1
  obtain ⟨affinity, bytes⟩ := own.reader_field mem row
  rw [own.derived.derived f mem] at affinity
  exact compares_keyPart affinity bytes kept given whole

/-- Key fields of other types than flags and JSON are always read again. -/
theorem IsMadeOf.rereads_key (own : t.IsMadeOf e) (native : e.layout = .native)
    (suits : t.Suits row) {f : Field} (hf : f ∈ e.keys)
    (whole : ∀ x, t.valueOf row f.name ≠ .real x) (noFlag : f.type ≠ .boolean)
    (noJson : f.type ≠ .json) : f.type.Rereads (t.valueOf row f.name) := by
  obtain ⟨kept, given⟩ := own.keeps_key native suits hf
  have kept := kept.given
  rw [← valueOf] at kept given
  cases value : t.valueOf row f.name with
  | integer n => exact noFlag
  | text s => exact fun json => absurd json noJson
  | real x => exact absurd value (whole x)
  | null =>
    rw [value] at given
    cases given
  | blob b =>
    rw [value] at kept
    exact kept.elim

/-- A row is named by the key that it shows exactly if each part of it is read as the value that it
is shown for. -/
theorem IsMadeOf.names_keyText_iff (own : t.IsMadeOf e) (native : e.layout = .native)
    (keyed : e.keys ≠ []) (suits : t.Suits row)
    (whole : ∀ f ∈ e.keys, ∀ x, t.valueOf row f.name ≠ .real x)
    (plain : 1 < e.keys.length → ∀ f ∈ e.keys, ',' ∉ (t.keyPartOf row f).toList) :
    t.names e (t.keyText e row) row = true ↔
      ∀ f ∈ e.keys, f.type.Rereads (t.valueOf row f.name) := by
  rw [names, keyText, keyConditions?_join native keyed plain, Option.any_some,
    Reader.satisfiesAll, List.all_map, List.all_eq_true]
  exact forall₂_congr fun f hf => own.compares_keyPartOf native suits hf (whole f hf)

end Table

end Store

end EntityEngine
