import EntityEngine.Proofs.Number.Numeral
import EntityEngine.Sql.Like
import EntityEngine.Sql.TableText

/-! Texts without U+0000, at which the reading of a statement ends. Writing a text into a statement
leaves such a character where it is, whatever else becomes of the text. -/

namespace EntityEngine.Sql

open Number

/-- A text that is read to its end. -/
def IsWhole (s : List Char) : Prop := ∀ c ∈ s, c.toNat ≠ 0

variable {a b s : List Char} {c : Char}

@[simp] theorem isWhole_nil : IsWhole [] := by simp [IsWhole]

@[simp] theorem isWhole_cons : IsWhole (c :: s) ↔ c.toNat ≠ 0 ∧ IsWhole s := by simp [IsWhole]

@[simp] theorem isWhole_append : IsWhole (a ++ b) ↔ IsWhole a ∧ IsWhole b :=
  List.forall_mem_append

theorem isWhole_iff_all : IsWhole s ↔ s.all (fun c => c.toNat ≠ 0) = true := by simp [IsWhole]

theorem IsWhole.untilNull (h : IsWhole s) : untilNull s = s :=
  List.takeWhile_eq_self_iff.mpr fun c hc => by simpa using h c hc

/-! ### Quotes and comments -/

theorem isWhole_double (quote : c.toNat ≠ 0) : IsWhole (Text.double c s) ↔ IsWhole s := by
  induction s with
  | nil => rfl
  | cons d s ih =>
    by_cases same : d = c
    · have twice : Text.double c (d :: s) = c :: c :: Text.double c s := by simp [Text.double, same]
      rw [twice, isWhole_cons, isWhole_cons, isWhole_cons, ih, same]
      simp [quote]
    · have once : Text.double c (d :: s) = d :: Text.double c s := by simp [Text.double, same]
      rw [once, isWhole_cons, isWhole_cons, ih]

theorem isWhole_quotedName {name : String} :
    IsWhole (quotedName name).toList ↔ IsWhole name.toList := by
  rw [quotedName, String.toList_ofList, isWhole_cons, isWhole_append, isWhole_double (by decide)]
  simp

theorem isWhole_quotedText {t : String} : IsWhole (quotedText t).toList ↔ IsWhole t.toList := by
  rw [quotedText, String.toList_ofList, isWhole_cons, isWhole_append, isWhole_double (by decide)]
  simp

theorem isWhole_replacePair :
    IsWhole (Text.replacePair '*' '/' ['*', ' ', '/'] s) ↔ IsWhole s := by
  fun_induction Text.replacePair '*' '/' ['*', ' ', '/'] s with
  | case1 => rfl
  | case2 => rfl
  | case3 c d r both ih =>
    obtain ⟨rfl, rfl⟩ := both
    rw [isWhole_append, ih]
    simp
  | case4 c d r other ih => rw [isWhole_cons, ih, isWhole_cons (s := d :: r)]

theorem isWhole_commentText {t : String} :
    IsWhole (ColumnText.commentText t).toList ↔ IsWhole t.toList := by
  simp [ColumnText.commentText, isWhole_replacePair]

/-! ### Trimmed texts and numerals -/

/-- What is not white space stays when a text is trimmed. -/
theorem isWhole_of_trim {t : String} (h : IsWhole (Text.trim t).toList) : IsWhole t.toList := by
  intro c hc null
  have kept : Text.isBlank c = false := by simp [Text.isBlank, null]
  refine h c ?_ null
  have left : c ∈ Text.trimLeft t.toList := by
    rw [← List.takeWhile_append_dropWhile (p := Text.isBlank) (l := t.toList)] at hc
    rcases List.mem_append.mp hc with taken | rest
    · rw [List.mem_takeWhile_imp taken] at kept
      cases kept
    · exact rest
  rw [Text.trim, String.toList_ofList, Text.trimRight, List.mem_reverse]
  have reversed := List.mem_reverse.mpr left
  rw [← List.takeWhile_append_dropWhile (p := Text.isBlank) (l := (Text.trimLeft t.toList).reverse)]
    at reversed
  rcases List.mem_append.mp reversed with taken | rest
  · rw [List.mem_takeWhile_imp taken] at kept
    cases kept
  · exact rest

theorem isWhole_of_trim_fold {t u : String} (h : Text.sameFold (Text.trim t) u = true)
    (whole : IsWhole (Text.fold u).toList) : IsWhole t.toList := by
  refine isWhole_of_trim fun c hc null => ?_
  rw [← Text.sameFold_iff.mp h, Text.toList_fold] at whole
  refine whole c.toLower (List.mem_map_of_mem hc) ?_
  have zero : c = Char.ofNat 0 := by rw [← null, Char.ofNat_toNat]
  rw [zero]
  rfl

/-- A numeral ends in front of U+0000. -/
theorem isWhole_of_scan {n : Numeral} (h : Numeral.scan s = some (n, [])) : IsWhole s := by
  intro c hc null
  obtain ⟨x, y, rfl⟩ := List.append_of_mem hc
  have zero : c = Char.ofNat 0 := by rw [← null, Char.ofNat_toNat]
  have ends : Numeral.Ends (c :: y) := by
    intro d hd
    obtain rfl : c = d := Option.some.inj hd
    rw [zero]
    decide
  rw [Numeral.scan_append ends] at h
  cases scanned : Numeral.scan x with
  | none => rw [scanned] at h; cases h
  | some p =>
    rw [scanned, Option.map_some] at h
    have rest := (Prod.mk.inj (Option.some.inj h)).2
    exact absurd rest (by simp)

/-! ### Defaults -/

theorem toUpper_toLower (c : Char) : c.toLower.toUpper = c.toUpper := by
  by_cases ascii : c.toNat < 128
  · have all : ∀ n < 128, (Char.ofNat n).toLower.toUpper = (Char.ofNat n).toUpper := by decide
    have same := all c.toNat ascii
    rwa [Char.ofNat_toNat] at same
  · have kept : c.toLower = c := by
      unfold Char.toLower
      rw [dif_neg]
      rintro ⟨-, high⟩
      have low : c.toNat ≤ 90 := high
      omega
    rw [kept]

/-- Texts that are the same up to case have the same capitals. -/
theorem capitals_of_sameFold {t u : String} (h : Text.sameFold t u = true) :
    Text.capitals t = Text.capitals u := by
  have folded : ∀ w : String, Text.capitals (Text.fold w) = Text.capitals w := by
    intro w
    rw [Text.capitals, Text.toList_fold, List.map_map, Text.capitals]
    refine congrArg String.ofList (List.map_congr_left fun c _ => toUpper_toLower c)
  rw [← folded t, Text.sameFold_iff.mp h, folded u]

theorem scan_of_finite? {t : String} (h : (finite? t).isSome = true) :
    ∃ n, Numeral.scan t.toList = some (n, []) := by
  unfold finite? at h
  split at h
  · rename_i n found
    exact ⟨n, found⟩
  · cases h

namespace DefaultValue

/-- What a text may stand for as a default. -/
inductive Stands (raw : String) : DefaultValue → Prop
  | number {n : Numeral} (whole : Numeral.scan (Text.trim raw).toList = some (n, [])) :
      Stands raw (.number (Text.trim raw))
  | flag (b : Bool) (same : Text.sameFold (Text.trim raw) (if b then "true" else "false") = true) :
      Stands raw (.flag b)
  | clock {word : String} (mem : word ∈ clockWords)
      (same : Text.sameFold (Text.trim raw) word = true) : Stands raw (.clock word)
  | text : Stands raw (.text raw)

theorem stands_ofText (type : FieldType) (raw : String) : Stands raw (ofText type raw) := by
  have number : Stands raw (if (finite? (Text.trim raw)).isSome then .number (Text.trim raw)
      else .text raw) := by
    split
    · obtain ⟨n, whole⟩ := scan_of_finite? ‹_›
      exact .number whole
    · exact .text
  have clock : Stands raw (if clockWords.any (Text.sameFold (Text.trim raw)) then
      .clock (Text.capitals (Text.trim raw)) else .text raw) := by
    split
    · obtain ⟨word, mem, same⟩ := List.any_eq_true.mp ‹_›
      have capital : ∀ w ∈ clockWords, Text.capitals w = w := by decide
      rw [capitals_of_sameFold same, capital word mem]
      exact .clock mem same
    · exact .text
  have flag : Stands raw (if Text.sameFold (Text.trim raw) "true" then .flag true
      else if Text.sameFold (Text.trim raw) "false" then .flag false else .text raw) := by
    split
    · exact .flag true ‹_›
    · split
      · exact .flag false ‹_›
      · exact .text
  cases type with
  | integer => exact number
  | long => exact number
  | decimal => exact number
  | boolean => exact flag
  | datetime => exact clock
  | _ => exact .text

/-- A default is whole if the text is that it stands for. -/
theorem Stands.isWhole_literal {raw : String} {value : DefaultValue} (h : Stands raw value) :
    IsWhole value.literal.toList ↔ IsWhole raw.toList := by
  cases h with
  | number whole =>
    have value := isWhole_of_scan whole
    exact iff_of_true value (isWhole_of_trim value)
  | flag b same =>
    refine iff_of_true ?_ (isWhole_of_trim_fold same ?_)
    · cases b <;> simp [literal]
    · cases b <;> simp [Text.fold]
  | clock mem same =>
    have words : ∀ w ∈ clockWords, IsWhole w.toList ∧ IsWhole (Text.fold w).toList := by
      simp [clockWords, Text.fold]
    exact iff_of_true (words _ mem).1 (isWhole_of_trim_fold same (words _ mem).2)
  | text => exact isWhole_quotedText

end DefaultValue

/-! ### Tables -/

theorem isWhole_join {separator : String} (own : IsWhole separator.toList) {lines : List String} :
    IsWhole (Text.join separator lines).toList ↔ ∀ line ∈ lines, IsWhole line.toList := by
  induction lines with
  | nil => simp [Text.join]
  | cons line lines ih =>
    cases lines with
    | nil => simp [Text.join, String.intercalate_singleton]
    | cons next lines =>
      rw [Text.join, String.intercalate_cons_cons, String.toList_append, String.toList_append,
        isWhole_append, isWhole_append, List.forall_mem_cons, ← ih, Text.join]
      exact and_congr_left fun _ => and_iff_left own

theorem isWhole_constraints {constraints : List ColumnConstraint} :
    IsWhole (String.join (constraints.map fun k => " " ++ k.render)).toList ↔
      ∀ k ∈ constraints, IsWhole k.render.toList := by
  induction constraints with
  | nil => simp
  | cons k constraints ih =>
    rw [List.map_cons, String.join_cons, String.toList_append, isWhole_append, ih,
      List.forall_mem_cons, String.toList_append, isWhole_append]
    simp

theorem isWhole_column {c : ColumnText} : IsWhole c.render.toList ↔
    IsWhole c.name.toList ∧ IsWhole c.type.toList ∧
      (∀ k ∈ c.constraints, IsWhole k.render.toList) ∧
      ∀ s, c.comment = some s → IsWhole s.toList := by
  obtain ⟨name, type, constraints, _ | comment⟩ := c
  · rw [ColumnText.render]
    simp only [String.toList_append, isWhole_append, isWhole_constraints, isWhole_quotedName]
    simp [and_assoc]
  · rw [ColumnText.render]
    simp only [String.toList_append, isWhole_append, isWhole_constraints, isWhole_quotedName,
      isWhole_commentText]
    simp [and_assoc]

theorem isWhole_table {t : TableText} : IsWhole t.render.toList ↔
    IsWhole t.table.toList ∧ (∀ c ∈ t.columns, IsWhole c.render.toList) ∧
      ∀ name ∈ t.primaryKey, IsWhole name.toList := by
  have opening : IsWhole t.opening.toList := by
    unfold TableText.opening
    split <;> simp
  have comma : IsWhole ", ".toList := by simp
  have line : IsWhole ",\n  ".toList := by simp
  have key : (∀ text ∈ (if t.primaryKey.isEmpty then [] else [TableText.keyText t.primaryKey]),
      IsWhole text.toList) ↔ ∀ name ∈ t.primaryKey, IsWhole name.toList := by
    cases keys : t.primaryKey with
    | nil => simp
    | cons name names =>
      rw [if_neg (by simp), List.forall_mem_singleton]
      unfold TableText.keyText
      simp only [String.toList_append, isWhole_append, isWhole_join comma, List.forall_mem_map,
        isWhole_quotedName]
      simp
  rw [TableText.render, String.toList_append, isWhole_append, TableText.body]
  simp only [String.toList_append, isWhole_append, isWhole_join line, List.forall_mem_append,
    List.forall_mem_map, key, isWhole_quotedName]
  simp [opening]

end EntityEngine.Sql
