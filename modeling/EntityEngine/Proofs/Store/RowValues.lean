import EntityEngine.Proofs.Json.RoundTrip
import EntityEngine.Proofs.Sql.NumberText
import EntityEngine.Proofs.Sql.StoredValue
import EntityEngine.Proofs.Store.Versions

/-! What a row gives back for the values that it was given. Texts, integers and flags come back from
columns of their own types as they are. A column for JSON takes numbers for numbers, flags too, and
keeps everything else as text, which it shows as the number or the JSON that it writes; so not every
value comes back. -/

namespace EntityEngine

open Sql Store

/-! ### Values and columns -/

/-- The values of a field's own type, those with numbers other than integers of 64 bits apart. -/
def FieldType.Has : FieldType → Json → Prop
  | .string, v | .text, v => ∃ s, v = .text s
  | .integer, v | .long, v => ∃ n, Number.inInt64 n = true ∧ v = .integer n
  | .boolean, v => ∃ b, v = .bool b
  | .json, v => v.IsPlain ∧ v ≠ .null
  | _, _ => False

/-- What a column for JSON gives back: no flag, no text that is a number or writes other JSON, and no
arrays and objects that are nested too deep. -/
def Json.OutlivesColumn : Json → Prop
  | .bool _ => False
  | .text s => numeric? s = none ∧ ∀ v, Json.parse? s = some v → v = .text s
  | v => v.nesting < Json.Reading.nestingBound

/-- The value comes back from a column of a field's type. -/
def FieldType.GivesBack (type : FieldType) (v : Json) : Prop := type = .json → v.OutlivesColumn

/-- Numbers of texts are shown as numbers. -/
theorem toJson_condense_ne (n : Number.Numeral) (s : String) :
    shownValue (some .json) (condense (numeralValue n)) ≠ .text s := by
  have shown : ∀ v : Value, (∃ k, v = .integer k) ∨ (∃ x, v = .real x) →
      shownValue (some .json) v ≠ .text s := by
    rintro v (⟨k, rfl⟩ | ⟨x, rfl⟩)
    · exact fun same => nomatch same
    · show Value.toJson (.real x) ≠ _
      rw [Value.toJson]
      split <;> exact fun same => nomatch same
  refine shown _ ?_
  unfold numeralValue
  split
  · exact Or.inl ⟨_, rfl⟩
  · rw [condense]
    split
    · exact Or.inl ⟨_, rfl⟩
    · exact Or.inr ⟨_, rfl⟩

theorem shownValue_text (s : String) :
    shownValue (some .json) (Affinity.numeric.store (.text s)) = .text s ↔
      (Json.text s).OutlivesColumn := by
  have stored : Affinity.numeric.store (.text s) = ((numeric? s).map condense).getD (.text s) := rfl
  rw [stored, Json.OutlivesColumn]
  cases number : numeric? s with
  | some w =>
    obtain ⟨n, rfl⟩ := Value.numeral_of_numeric? number
    constructor
    · exact fun same => absurd same (toJson_condense_ne n s)
    · exact fun keeps => nomatch keeps.1
  | none =>
    show (Json.parse? s).getD (.text s) = .text s ↔ _
    cases Json.parse? s with
    | none => simp
    | some v => simp

/-- Arrays and objects are kept as their text. -/
theorem shownValue_render {v : Json} {c : Char} {s : List Char} (plain : v.IsPlain)
    (start : v.chars = c :: s) (opening : c = '[' ∨ c = '\x7b') (noText : ∀ s, v ≠ .text s) :
    shownValue (some .json) (Affinity.numeric.store (.text v.render)) = v ↔
      v.nesting < Json.Reading.nestingBound := by
  -- The text starts as no number does, so it is stored as it is.
  have none : numeric? v.render = none := by
    have blank : isSpace c = false := by rcases opening with rfl | rfl <;> decide
    have other : Number.Numeral.scan (c :: s) = none :=
      Number.Numeral.scan_of_other (by rcases opening with rfl | rfl <;> decide) s
    rw [numeric?, Json.render, String.toList_ofList, start, List.dropWhile_cons, blank,
      if_neg Bool.false_ne_true, other]
  have stored : Affinity.numeric.store (.text v.render) =
      ((numeric? v.render).map condense).getD (.text v.render) := rfl
  rw [stored, none]
  show (Json.parse? v.render).getD (.text v.render) = v ↔ _
  rw [Json.parse?_render plain]
  split
  · rename_i fits
    exact iff_of_true rfl fits
  · rename_i deep
    exact iff_of_false (fun same => noText v.render same.symm) deep

/-- A value of a field's own type comes back from its column, unless that is one for JSON, from which
it comes back exactly if it is such a value as outlives it. -/
theorem shownValue_store {type : FieldType} {v : Json} (has : type.Has v)
    (length scale : Option Nat) :
    shownValue (some type) ((Affinity.ofType (declaredType
      (type.columnType length scale .template).toList)).store (.ofJson v)) = v ↔
        type.GivesBack v := by
  have integers : ∀ n, Number.inInt64 n = true → Value.ofJson (.integer n) = .integer n :=
    fun n fits => if_pos fits
  have kept : type ≠ .json → type.GivesBack v := fun other own => absurd own other
  cases type with
  | string =>
    obtain ⟨s, rfl⟩ := has
    rw [FieldType.textual_affinity rfl]
    exact iff_of_true rfl (kept (by decide))
  | text =>
    obtain ⟨s, rfl⟩ := has
    rw [FieldType.textual_affinity rfl]
    exact iff_of_true rfl (kept (by decide))
  | integer =>
    obtain ⟨n, fits, rfl⟩ := has
    have affinity : Affinity.ofType (declaredType "INT".toList) = .integer := by decide
    rw [FieldType.columnType, affinity, integers n fits]
    exact iff_of_true rfl (kept (by decide))
  | long =>
    obtain ⟨n, fits, rfl⟩ := has
    have affinity : Affinity.ofType (declaredType "BIGINT".toList) = .integer := by decide
    rw [FieldType.columnType, affinity, integers n fits]
    exact iff_of_true rfl (kept (by decide))
  | boolean =>
    obtain ⟨b, rfl⟩ := has
    have affinity : Affinity.ofType (declaredType "TINYINT(1)".toList) = .integer := by
      decide
    rw [FieldType.columnType, affinity]
    refine iff_of_true ?_ (kept (by decide))
    cases b <;> rfl
  | json =>
    obtain ⟨plain, some⟩ := has
    have affinity : Affinity.ofType (declaredType "JSON".toList) = .numeric := by decide
    have own : FieldType.json.GivesBack v ↔ v.OutlivesColumn := by simp [FieldType.GivesBack]
    rw [FieldType.columnType, affinity, own]
    cases v with
    | null => exact absurd rfl some
    | real x => exact plain.elim
    | bool b => exact iff_of_false (by intro same; cases same) fun keeps => keeps
    | integer n =>
      rw [integers n plain]
      exact iff_of_true rfl (show 0 < Json.Reading.nestingBound by decide)
    | text s => exact shownValue_text s
    | array vs => exact shownValue_render plain rfl (Or.inl rfl) (by intro s same; cases same)
    | object es => exact shownValue_render plain rfl (Or.inr rfl) (by intro s same; cases same)
  | _ => exact has.elim

/-! ### The column of a field -/

/-- A field is found by its name, if no other field has the name. -/
theorem Entity.field?_of_mem {e : Entity} {f : Field}
    (once : ∀ g ∈ e.fields, g.name = f.name → g = f) (hf : f ∈ e.fields) :
    e.field? f.name = some f := by
  unfold field?
  cases found : e.fields.find? fun g => g.name = f.name with
  | none => exact absurd (List.find?_eq_none.mp found f hf) (by simp)
  | some g =>
    have named : g.name = f.name := by simpa using List.find?_some found
    rw [once g (List.mem_of_find?_eq_some found) named]

namespace Store.Table

variable {t : Table} {e m : Entity} {f : Field}

namespace IsMadeOf

/-- The fields of a definition with a table have names apart, whatever the case of letters. -/
theorem eq_of_fold (h : t.IsMadeOf e) {g : Field} (hf : f ∈ e.fields) (hg : g ∈ e.fields)
    (same : Text.sameFold f.name g.name = true) : f = g := by
  have apart := h.distinct
  rw [Entity.tableText, List.map_append, List.map_map] at apart
  exact List.inj_on_of_nodup_map (List.nodup_append.mp apart).2.1 hf hg (Text.sameFold_iff.mp same)

theorem field?_eq (h : t.IsMadeOf e) (hf : f ∈ e.fields) : e.field? f.name = some f :=
  Entity.field?_of_mem
    (fun _ hg named => h.eq_of_fold hg hf (by rw [named, Text.sameFold_refl])) hf

/-- Of the values for a new row, the column of a field takes the one under its name. -/
theorem given?_newValues (h : t.IsMadeOf e) (template : e.layout = .template)
    (own : e.HasOwnNames) (hf : f ∈ e.fields) {data : ValueMap} {v : Json}
    (there : data.get? f.name = some v) (ambient : Ambient) :
    given? (newValues e data ambient) (columnOf (f.columnText e.layout).spec) =
      some (.ofJson v) := by
  have system : (systemValues ambient).find? (fun p => Text.sameFold p.1 f.name) = none := by
    refine List.find?_eq_none.mpr fun p hp => ?_
    have mem : p.1 ∈ systemColumns := by
      simp only [systemValues, List.mem_cons, List.not_mem_nil, or_false] at hp
      rcases hp with rfl | rfl | rfl | rfl | rfl <;> simp [systemColumns]
    rw [Text.sameFold_comm, not_sameFold_of_isSystemColumn (own template f hf) mem]
    exact Bool.false_ne_true
  have declared : e.declares f.name = true := by rw [Entity.declares, h.field?_eq hf]; rfl
  have given : (givenValues e data).find? (fun p => Text.sameFold p.1 f.name) =
      some (f.name, .ofJson v) := by
    unfold givenValues
    induction data with
    | nil => cases there
    | cons p data ih =>
      obtain ⟨name, w⟩ := p
      rw [ValueMap.get?, List.lookup_cons] at there
      by_cases same : f.name = name
      · rw [← same] at there ⊢
        rw [beq_self_eq_true] at there
        simp [declared, Text.sameFold_refl, Option.some.inj there]
      · rw [beq_eq_false_iff_ne.mpr same] at there
        replace there : ValueMap.get? data f.name = some v := there
        cases known : e.declares name with
        | false => simpa [known] using ih there
        | true =>
          -- Another field has another name, whatever the case of letters.
          have apart : Text.sameFold name f.name = false := by
            rw [← Bool.not_eq_true]
            intro folded
            obtain ⟨g, found⟩ := Option.isSome_iff_exists.mp known
            have named : g.name = name := by simpa using List.find?_some found
            rw [← named] at folded same
            exact same (congrArg Field.name
              (h.eq_of_fold (List.mem_of_find?_eq_some found) hf folded)).symm
          simpa [known, apart] using ih there
  have all : (newValues e data ambient).find? (fun p => Text.sameFold p.1 f.name) =
      some (f.name, .ofJson v) := by
    rw [newValues, template, List.find?_append, system, Option.none_or, given]
  exact congrArg (Option.map Prod.snd) all

/-- A new row shows what the column of a field makes of the value that is given for it. -/
theorem get?_new (h : t.IsMadeOf e) (built : t.IsBuiltFrom m) (template : e.layout = .template)
    (own : e.HasOwnNames) (hf : f ∈ e.fields) {data : ValueMap} {v : Json}
    (there : data.get? f.name = some v) {ambient : Ambient} {new : Row}
    (made : t.Makes (newValues e data ambient) new) {u : Table} (bare : u.bare = t.bare) :
    (u.shown e new).get? f.name = some (shownValue (some f.type)
      ((Affinity.ofType (declaredType f.columnType.toList)).store (.ofJson v))) := by
  obtain ⟨context, number, values, rfl, found⟩ := made
  obtain ⟨i, place, column⟩ := h.place_of_mem (mem_columns hf)
  have ofTemplate : m.layout = .template := (built.isMadeOf.layout_eq h).trans template
  have plain : t.isNumberColumn f.name = false := by
    rw [built.isNumberColumn_eq ofTemplate]
    exact not_sameFold_of_isSystemColumn (own template f hf) (by decide)
  have holds : t.Holds f.name i (columnOf (f.columnText e.layout).spec) := ⟨place, column, plain⟩
  have affinity : (columnOf (f.columnText e.layout).spec).affinity =
      .ofType (declaredType f.columnType.toList) := by
    simp only [columnOf, ColumnText.spec, Field.columnText]
  have value : u.valueOf ⟨number, t.numbered number values⟩ f.name =
      (Affinity.ofType (declaredType f.columnType.toList)).store (.ofJson v) := by
    rw [valueOf_congr bare, ← affinity]
    exact holds.new (h.given?_newValues template own hf there ambient) found
  have mem : f.name ∈ e.columns := by
    rw [Entity.columns, template]
    exact List.mem_append_right _ (List.mem_map_of_mem hf)
  rw [get?_shown template mem, h.field?_eq hf, ← valueOf, value, Option.map_some]

/-- It shows the value itself exactly if that comes back from a column of the field's type. -/
theorem get?_new_iff (h : t.IsMadeOf e) (built : t.IsBuiltFrom m) (template : e.layout = .template)
    (own : e.HasOwnNames) (hf : f ∈ e.fields) {data : ValueMap} {v : Json}
    (there : data.get? f.name = some v) (has : f.type.Has v) {ambient : Ambient} {new : Row}
    (made : t.Makes (newValues e data ambient) new) {u : Table} (bare : u.bare = t.bare) :
    (u.shown e new).get? f.name = some v ↔ f.type.GivesBack v := by
  rw [h.get?_new built template own hf there made bare, Option.some_inj, h.derived.derived f hf,
    template]
  exact shownValue_store has f.length f.scale

end IsMadeOf

end Store.Table

/-! ### Reading a row -/

namespace Store.Database

variable {db db' : Database} {t : Table} {e m : Entity}

/-- Whatever way of reading leads to the row under an identifier shows the same, and every way
does. -/
structure ShowsRow (db : Database) (e : Entity) (key : String) (shown : ValueMap) : Prop where
  getRow : db.getRow e key = .ok (some shown)
  query : ∀ options page, db.queryRows e options = .ok page → ∃ t, ∃ rows : List Row,
    db.needTable e.table = .ok t ∧ page.items = rows.map (t.shown e) ∧ ∀ row ∈ rows,
      (t.reader row (.column "record_id")).value = .text key → t.shown e row = shown
  queried : ∃ least, ∀ options, options.filter = none → options.offset = .ok 0 →
    least ≤ options.top → ∃ page, db.queryRows e options = .ok page ∧ shown ∈ page.items

/-- A row of a template is shown under its identifier. -/
theorem showsRow (tidy : db.Tidy) (free : IsFree e.table) (there : db.table? e.table = some t)
    (built : t.IsBuiltFrom m) (same : m.layout = e.layout) (template : e.layout = .template)
    (orderly : t.IsOrderly) {row : Row} (hr : row ∈ t.rows) {key : String}
    (value : (t.reader row (.column "record_id")).value = .text key) :
    db.ShowsRow e key (t.shown e row) := by
  have needed := (needTable_iff tidy free).mpr there
  have only : ∀ other, t.Meets e key other ↔ other = row := fun other =>
    built.meets_iff orderly same template hr value
  constructor
  case getRow =>
    obtain ⟨found, meets, got⟩ := Table.getRow_of_meets needed ((only row).mpr rfl)
    rw [got, (only found).mp meets]
  case query =>
    intro options page answer
    obtain ⟨plan, -, answer⟩ := bind_ok answer
    obtain ⟨u, found, answer⟩ := bind_ok answer
    obtain rfl : t = u := Except.ok.inj (needed.symm.trans (mapError_ok found))
    simp only at answer
    split at answer
    · cases answer
    · rw [← Except.ok.inj answer]
      refine ⟨t, _, needed, rfl, fun other hother own => ?_⟩
      have mem := List.mem_of_mem_drop (List.mem_of_mem_take hother)
      rw [built.eq_of_recordId (same.trans template) orderly (Table.mem_select.mp mem).1 hr own
        value]
  case queried =>
    refine ⟨t.rows.length, fun options all first large => ?_⟩
    obtain ⟨page, queried, whole⟩ := queryRows_whole all first large needed
    exact ⟨page, queried, whole row hr⟩

end Store.Database

end EntityEngine
