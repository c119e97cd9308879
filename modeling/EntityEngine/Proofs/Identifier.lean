import EntityEngine.Entity.Validation

/-! Names that an entity's table may have: none of them is the name of a table that the engine or
the database keeps for itself, whatever the case of its letters. -/

namespace EntityEngine

open Text

/-- The characters of names, by their code points. -/
theorem identifierChar_iff {c : Char} : isIdentifierChar c = true ↔
    (65 ≤ c.toNat ∧ c.toNat ≤ 90) ∨ (97 ≤ c.toNat ∧ c.toNat ≤ 122) ∨
      (48 ≤ c.toNat ∧ c.toNat ≤ 57) ∨ c.toNat = 95 := by
  have underscore : c = '_' ↔ c.toNat = 95 := by
    rw [← Char.toNat_inj]
    rfl
  have within : ∀ low high : UInt32, c.val ≥ low ∧ c.val ≤ high ↔
      low.toNat ≤ c.toNat ∧ c.toNat ≤ high.toNat := by
    intro low high
    rw [ge_iff_le, UInt32.le_iff_toNat_le, UInt32.le_iff_toNat_le]
    rfl
  have both : ∀ {p q : Prop} [Decidable p] [Decidable q],
      (decide p && decide q) = true ↔ p ∧ q := by
    intro p q _ _
    rw [Bool.and_eq_true, decide_eq_true_eq, decide_eq_true_eq]
  have upper : c.isUpper = true ↔ 65 ≤ c.toNat ∧ c.toNat ≤ 90 :=
    decide_eq_true_iff.trans (within 65 90)
  have lower : c.isLower = true ↔ 97 ≤ c.toNat ∧ c.toNat ≤ 122 := both.trans (within 97 122)
  have digit : c.isDigit = true ↔ 48 ≤ c.toNat ∧ c.toNat ≤ 57 := both.trans (within 48 57)
  have letter : c.isAlpha = (c.isUpper || c.isLower) := rfl
  rw [isIdentifierChar, Char.isAlphanum, letter, Bool.or_eq_true, Bool.or_eq_true, Bool.or_eq_true,
    upper, lower, digit, beq_iff_eq, underscore, or_assoc, or_assoc]

theorem not_blank_of_identifierChar {c : Char} (h : isIdentifierChar c = true) :
    isBlank c = false := by
  have range := identifierChar_iff.mp h
  simp only [isBlank, Bool.or_eq_false_iff, Bool.and_eq_false_iff, decide_eq_false_iff_not,
    beq_eq_false_iff_ne]
  omega

theorem identifierChar_of_start {c : Char} (h : isIdentifierStart c = true) :
    isIdentifierChar c = true := by
  unfold isIdentifierStart at h
  unfold isIdentifierChar Char.isAlphanum
  rcases Bool.or_eq_true_iff.mp h with letter | underscore
  · simp [letter]
  · simp [underscore]

theorem all_of_isIdentifier {name : String} (h : isIdentifier name = true) :
    ∀ c ∈ name.toList, isIdentifierChar c = true := by
  unfold isIdentifier isIdentifierText at h
  split at h
  · cases h
  · rename_i first rest chars
    simp only [Bool.and_eq_true, List.all_eq_true] at h
    intro c hc
    rw [chars] at hc
    rcases List.mem_cons.mp hc with rfl | hc
    · exact identifierChar_of_start h.1.1
    · exact h.1.2 c hc

/-- A text whose ends are not white space is trimmed. -/
theorem trim_eq_self {s : String} (h : ∀ c ∈ s.toList, isBlank c = false) : trim s = s := by
  have kept : ∀ l : List Char, (∀ c ∈ l, isBlank c = false) → l.dropWhile isBlank = l := by
    intro l hl
    cases l with
    | nil => rfl
    | cons c r => simp [hl c List.mem_cons_self]
  unfold trim trimRight trimLeft
  rw [kept _ h, kept _ fun c hc => h c (List.mem_reverse.mp hc), List.reverse_reverse,
    String.ofList_toList]

theorem trim_identifier {name : String} (h : isIdentifier name = true) : trim name = name :=
  trim_eq_self fun c hc => not_blank_of_identifierChar (all_of_isIdentifier h c hc)

/-! ### Free names -/

/-- A name that an entity's table may have. -/
def IsFree (table : String) : Prop := tableDefect? table = none

theorem refuse_ok {defect : Option Defect} (h : refuse defect = .ok ()) : defect = none := by
  cases defect with
  | none => rfl
  | some d => cases h

theorem isFree_iff {table : String} :
    IsFree table ↔ isIdentifier table = true ∧ isReservedTable table = false := by
  unfold IsFree tableDefect?
  cases isIdentifier table <;> cases isReservedTable table <;> simp

/-- A name that is kept: one of the engine's tables, or one that starts as the database's own. -/
def IsKept (name : String) : Prop :=
  name ∈ engineTables ∨ startsWith reservedStart (name.toList.map Char.toLower) = true

theorem not_sameFold_of_isFree {table name : String} (h : IsFree table) (kept : IsKept name) :
    sameFold table name = false := by
  obtain ⟨identifier, unreserved⟩ := isFree_iff.mp h
  unfold isReservedTable at unreserved
  rw [trim_identifier identifier] at unreserved
  obtain ⟨notEngine, notDatabase⟩ := Bool.or_eq_false_iff.mp unreserved
  cases same : sameFold table name with
  | false => rfl
  | true =>
    have folds : fold table = fold name := sameFold_iff.mp same
    rcases kept with engine | database
    · have found : engineTables.any (sameFold table) = true :=
        List.any_eq_true.mpr ⟨name, engine, same⟩
      rw [notEngine] at found
      cases found
    · rw [← toList_fold, ← folds, toList_fold, notDatabase] at database
      cases database

/-- A name that is no kept one, whatever the case of its letters. -/
def IsUnkept (table : String) : Prop := ∀ name, IsKept name → sameFold table name = false

theorem IsFree.unkept {table : String} (h : IsFree table) : IsUnkept table :=
  fun _ kept => not_sameFold_of_isFree h kept

theorem IsUnkept.ne {table name : String} (h : IsUnkept table) (kept : IsKept name) :
    table ≠ name := by
  rintro rfl
  have other := h table kept
  rw [sameFold_iff.mpr rfl] at other
  cases other

/-- The table of a valid draft has a free name, white space at its ends left out, and its fields are
valid by themselves. -/
theorem validate_ok {draft : EntityDraft} (h : draft.validate = .ok ()) :
    IsFree (trim draft.table) ∧ validateFields draft.fields draft.layout = .ok () := by
  have none := refuse_ok h
  unfold EntityDraft.defect? at none
  split at none
  · cases none
  · split at none
    · cases none
    · split at none
      · cases none
      · rename_i free
        split at none
        · cases none
        · refine ⟨free, ?_⟩
          rw [validateFields, none]
          rfl

theorem some_of_validateFields {fields : List FieldDraft} {layout : Layout}
    (h : validateFields fields layout = .ok ()) : fields ≠ [] := by
  rintro rfl
  cases refuse_ok h

theorem exists_nameDefect?_none {layout : Layout} {names earlier : List String}
    (h : namesDefect? layout earlier names = none) :
    ∀ name ∈ names, ∃ before, nameDefect? layout before name = none := by
  induction names generalizing earlier with
  | nil => simp
  | cons name names ih =>
    rw [namesDefect?] at h
    split at h
    · cases h
    · rename_i own
      rw [List.forall_mem_cons]
      exact ⟨⟨earlier, own⟩, ih h⟩

/-- The names of valid fields are identifiers, and in a template none is that of a system column. -/
theorem names_of_validateFields {fields : List FieldDraft} {layout : Layout}
    (h : validateFields fields layout = .ok ()) : ∀ f ∈ fields, isIdentifier (trim f.name) = true ∧
      (layout = .template → isSystemColumn (trim f.name) = false) := by
  have none := refuse_ok h
  unfold fieldsDefect? at none
  split at none
  · cases none
  · split at none
    · cases none
    · rename_i names
      intro f hf
      obtain ⟨before, own⟩ := exists_nameDefect?_none names _ (List.mem_map_of_mem hf)
      unfold nameDefect? at own
      repeat' split at own
      all_goals simp_all

namespace Text

theorem sameFold_refl (s : String) : sameFold s s = true := sameFold_iff.mpr rfl

theorem sameFold_comm (s t : String) : sameFold s t = sameFold t s := by
  rw [Bool.eq_iff_iff, sameFold_iff, sameFold_iff, eq_comm]

theorem sameFold_congr {s t : String} (h : sameFold s t = true) (u : String) :
    sameFold s u = sameFold t u := by
  rw [Bool.eq_iff_iff, sameFold_iff, sameFold_iff, sameFold_iff.mp h]

end Text

end EntityEngine
