import EntityEngine.Record.Preparation
import Mathlib.Data.List.Find

/-! Values as they are prepared for a record. What is accepted has a value under every required
field. Null is none: where the field is required it counts as missing, so values that are accepted
have null only under fields that may be null or have a default. What is refused names the first
field that misses a value. -/

namespace EntityEngine

variable {e : Entity} {f : Field} {values data d : ValueMap} {name : String}

/-! ### Values under names -/

/-- The values but for those of a name. -/
def ValueMap.without (m : ValueMap) (name : String) : ValueMap := m.restrict fun key => key != name

theorem ValueMap.get?_restrict (keep : String → Bool) (m : ValueMap) (key : String) :
    (m.restrict keep).get? key = if keep key then m.get? key else none := by
  induction m with
  | nil => exact (ite_self none).symm
  | cons p m ih =>
    obtain ⟨name, v⟩ := p
    have cons : restrict keep ((name, v) :: m) =
        if keep name then (name, v) :: restrict keep m else restrict keep m := List.filter_cons
    by_cases same : key = name
    · subst same
      cases kept : keep key with
      | true => simp [cons, kept, get?]
      | false => simpa [cons, kept] using ih
    · have other (rest : ValueMap) : get? ((name, v) :: rest) key = rest.get? key := by
        rw [get?, List.lookup_cons, beq_eq_false_iff_ne.mpr same]
        rfl
      rw [cons, other, ← ih]
      split
      · exact other _
      · rfl

theorem ValueMap.get?_without (m : ValueMap) (name key : String) :
    (m.without name).get? key = if key = name then none else m.get? key := by
  rw [without, get?_restrict]
  by_cases same : key = name <;> simp [same]

/-- A map that is restricted has kept keys only. -/
theorem ValueMap.keep_of_restrict {keep : String → Bool} {m : ValueMap} {p : String × Json}
    (hp : p ∈ m.restrict keep) : keep p.1 = true := (List.mem_filter.mp hp).2

theorem ValueMap.nodup_restrict (once : (values.map Prod.fst).Nodup) (keep : String → Bool) :
    ((values.restrict keep).map Prod.fst).Nodup :=
  once.sublist (List.filter_sublist.map _)

theorem ValueMap.restrict_without (m : ValueMap) (keep : String → Bool) (name : String) :
    (m.without name).restrict keep = (m.restrict keep).without name := by
  rw [without, without, restrict, restrict, restrict, restrict, List.filter_filter,
    List.filter_filter]
  exact List.filter_congr fun p _ => Bool.and_comm _ _

/-- What a definition reads is under declared names. -/
theorem ValueMap.get?_restrict_declares (hf : f ∈ e.fields) :
    (values.restrict e.declares).get? f.name = values.get? f.name := by
  have declared : e.declares f.name = true :=
    List.find?_isSome.mpr ⟨f, hf, beq_self_eq_true f.name⟩
  rw [get?_restrict, declared, if_pos rfl]

/-- The first field that may not be null, and is given null all the same. -/
def Entity.nulled? (e : Entity) (values : ValueMap) : Option Field :=
  e.fields.find? fun f => f.isNotNull && (values.get? f.name).any Json.isNull

theorem Entity.nulled?_restrict : e.nulled? (values.restrict e.declares) = e.nulled? values :=
  List.find?_congr fun f hf => by rw [ValueMap.get?_restrict_declares hf]

theorem missingField?_restrict :
    missingField? e (values.restrict e.declares) = missingField? e values :=
  List.find?_congr fun f hf => by
    rw [isGiven, ValueMap.get?_restrict_declares (List.mem_filter.mp hf).1, isGiven]

/-! ### Null that counts as missing -/

theorem prepareValues_ok (h : prepareValues e values = .ok d) : d = values.restrict e.declares := by
  unfold prepareValues at h
  split at h
  · cases h
  · exact (Except.ok.inj h).symm

theorem prepareValues_accepted (prepared : prepareValues e values = .ok data) :
    missingField? e values = none := by
  unfold prepareValues at prepared
  split at prepared
  · cases prepared
  · assumption

/-- Null counts as missing. -/
theorem missingField?_without (null : values.get? name = some .null) :
    missingField? e (values.without name) = missingField? e values := by
  refine List.find?_congr fun f _ => ?_
  rw [isGiven, isGiven, ValueMap.get?_without]
  by_cases same : f.name = name
  · rw [if_pos same, same, null]
    rfl
  · rw [if_neg same]

/-- A required field that is null is missing. -/
theorem prepareValues_without (hf : f ∈ e.fields) (required : f.isRequired = true)
    (null : values.get? f.name = some .null) :
    ∃ fault, prepareValues e values = .error fault ∧
      prepareValues e (values.without f.name) = .error fault := by
  cases missing : missingField? e values with
  | none =>
    have given := List.find?_eq_none.mp missing f (List.mem_filter.mpr ⟨hf, required⟩)
    simp [isGiven, null, Json.isNull] at given
  | some first =>
    refine ⟨_, by rw [prepareValues, missing], ?_⟩
    rw [prepareValues, missingField?_without null, missing]

theorem Entity.nulled?_some (nulled : e.nulled? values = some f) :
    f ∈ e.fields ∧ f.isNotNull = true ∧ values.get? f.name = some .null := by
  have own := List.find?_some (p := fun f : Field =>
    f.isNotNull && (values.get? f.name).any Json.isNull) nulled
  obtain ⟨needed, given⟩ := Bool.and_eq_true_iff.mp own
  obtain ⟨v, there, null⟩ := (Option.any_eq_true _ _).mp given
  cases v with
  | null => exact ⟨List.mem_of_find?_eq_some nulled, needed, there⟩
  | _ => cases null

/-- Values that are accepted are so without null, which then is under a field with a default. -/
theorem prepareValues_nulled (prepared : prepareValues e values = .ok data)
    (nulled : e.nulled? values = some f) :
    f.default.isSome = true ∧
      prepareValues e (values.without f.name) = .ok (data.without f.name) := by
  obtain ⟨hf, needed, null⟩ := Entity.nulled?_some nulled
  constructor
  · rw [← Bool.not_eq_false]
    intro none
    have required : f.isRequired = true := by
      rw [Field.isRequired, needed, ← Option.not_isSome, none]
      rfl
    obtain ⟨fault, refused, -⟩ := prepareValues_without hf required null
    rw [prepared] at refused
    cases refused
  · rw [prepareValues, missingField?_without null, prepareValues_accepted prepared,
      prepareValues_ok prepared, ValueMap.restrict_without]

/-- Another field is the first one that is null against its will once that one has no value. -/
theorem Entity.nulled?_without (e : Entity) (values : ValueMap) (name : String) :
    (e.nulled? (values.without name)).map Field.name ≠ some name := by
  intro same
  obtain ⟨f, nulled, own⟩ := Option.map_eq_some_iff.mp same
  obtain ⟨-, -, null⟩ := nulled?_some nulled
  rw [ValueMap.get?_without, if_pos own] at null
  cases null

/-! ### Fields without a value -/

/-- The field is required, and it is given no value, or null. -/
def Field.IsMissing (f : Field) (values : ValueMap) : Prop :=
  f.isNotNull = true ∧ f.default = none ∧
    (values.get? f.name = none ∨ values.get? f.name = some .null)

/-- The field is the first one that is missing, in the order of the fields. -/
def Entity.FirstMissing (e : Entity) (values : ValueMap) (f : Field) : Prop :=
  ∃ before after, e.fields = before ++ f :: after ∧ f.IsMissing values ∧
    ∀ b ∈ before, ¬ b.IsMissing values

theorem not_isGiven_iff : isGiven values name = false ↔
    values.get? name = none ∨ values.get? name = some .null := by
  unfold isGiven
  cases values.get? name with
  | none => simp
  | some v => cases v <;> simp [Json.isNull]

theorem Field.isMissing_iff :
    f.IsMissing values ↔ f.isRequired = true ∧ isGiven values f.name = false := by
  rw [IsMissing, ← not_isGiven_iff, Field.isRequired, Bool.and_eq_true,
    Option.isNone_iff_eq_none, and_assoc]

theorem missingField?_iff : missingField? e values = some f ↔ e.FirstMissing values f := by
  rw [missingField?, List.find?_filter, List.find?_eq_some_iff_append]
  simp only [decide_eq_true_eq, Bool.not_eq_true', decide_eq_false_iff_not, ← Field.isMissing_iff]
  constructor
  · rintro ⟨missing, before, after, fields, given⟩
    exact ⟨before, after, fields, missing, given⟩
  · rintro ⟨before, after, fields, missing, given⟩
    exact ⟨missing, before, after, fields, given⟩

theorem missingField?_none_iff :
    missingField? e values = none ↔ ∀ f ∈ e.fields, ¬ f.IsMissing values := by
  rw [missingField?, List.find?_filter, List.find?_eq_none]
  simp only [decide_eq_true_eq, Bool.not_eq_true', ← Field.isMissing_iff]

end EntityEngine
