import EntityEngine.Proofs.Sql.Piece
import EntityEngine.Sql.TableSpec

/-! The column types that follow from the types of fields: each is a type and nothing else, whatever
its length and scale, and none makes a key the number of the row. Each is delimited. -/

namespace EntityEngine.Sql

open Token

/-- The digits of a number. -/
theorem digits_of_toString (n : Nat) :
    (toString n).toList ≠ [] ∧ (toString n).toList.all Char.isDigit = true := by
  have eq : (toString n).toList = Nat.toDigits 10 n := by simp
  rw [eq, List.all_eq_true]
  refine ⟨Nat.toDigits_ne_nil, fun c hc => ?_⟩
  exact Nat.isDigit_of_mem_toDigits (by omega) (by omega) hc

/-- A word of a type, which ends at an opening parenthesis. -/
structure IsSizedWord (word : List Char) : Prop where
  next : ∀ t, next? (word ++ '(' :: t) = some (⟨.word, word⟩, '(' :: t)
  type : isTypeWord ⟨.word, word⟩ = true
  whole : word.all (fun c => c.toNat ≠ 0) = true
  inner : IsInner [⟨.word, word⟩]

theorem varchar_sized : IsSizedWord "VARCHAR".toList :=
  ⟨fun _ => rfl, by decide +kernel, by decide, by decide +kernel⟩

theorem decimal_sized : IsSizedWord "DECIMAL".toList :=
  ⟨fun _ => rfl, by decide +kernel, by decide, by decide +kernel⟩

variable {word s a b : List Char} {ts : List Token}

theorem digit_ne_null (digits : a.all Char.isDigit = true) :
    a.all (fun c => c.toNat ≠ 0) = true := by
  rw [List.all_eq_true] at digits ⊢
  intro c hc
  have low : (48 : Nat) ≤ c.toNat := (Char.isDigit_iff_toNat.mp (digits c hc)).1
  have ne : c.toNat ≠ 0 := by omega
  simpa using ne

/-- What may stand in the parentheses of a type, and its tokens. -/
structure IsSize (s : List Char) (ts : List Token) : Prop where
  scan : ∀ u, scan (s ++ ')' :: u) = ts ++ Token.scan (')' :: u)
  inner : IsInner ts
  meaningful : ∀ t ∈ ts, t.isMeaningful = true
  whole : s.all (fun c => c.toNat ≠ 0) = true
  after : afterLength? (signOf '(' :: (ts ++ [signOf ')'])) = some []

theorem inner_number (a : List Char) : IsInner [⟨.number, a⟩] :=
  inner_of_plain (by simp) rfl rfl rfl

theorem size_number (some : a ≠ []) (digits : a.all Char.isDigit = true) :
    IsSize a [⟨.number, a⟩] where
  scan u := scan_eq (next?_digits some digits ⟨_, _, rfl, by simp⟩)
  inner := inner_number a
  meaningful := by simp [isMeaningful]
  whole := digit_ne_null digits
  after := rfl

theorem size_numbers (some : a ≠ []) (digits : a.all Char.isDigit = true) (some' : b ≠ [])
    (digits' : b.all Char.isDigit = true) :
    IsSize (a ++ ',' :: b) [⟨.number, a⟩, signOf ',', ⟨.number, b⟩] where
  scan u := by
    rw [List.append_assoc, List.cons_append, scan_eq (next?_digits some digits ⟨_, _, rfl, by simp⟩),
      scan_eq (comma_next _), scan_eq (next?_digits some' digits' ⟨_, _, rfl, by simp⟩)]
    rfl
  inner := by
    have comma : IsInner [signOf ','] := by decide +kernel
    exact (inner_number a).append (comma.append (inner_number b))
  meaningful := by simp [signOf, isMeaningful]
  whole := by
    rw [List.all_append, List.all_cons, digit_ne_null digits, digit_ne_null digits']
    rfl
  after := rfl

/-- The tokens of a word with something in parentheses. -/
def sizedTokens (word : List Char) (ts : List Token) : List Token :=
  ⟨.word, word⟩ :: signOf '(' :: (ts ++ [signOf ')'])

theorem scan_sized (h : IsSizedWord word) (size : IsSize s ts) (u : List Char) :
    scan (word ++ '(' :: (s ++ ')' :: u)) = sizedTokens word ts ++ scan u := by
  rw [scan_eq (h.next _), scan_eq (opening_next _), size.scan, scan_eq (closing_next _)]
  simp [sizedTokens, signOf]

theorem meaningful_sized (size : IsSize s ts) :
    ∀ t ∈ sizedTokens word ts, t.isMeaningful = true := by
  have own := size.meaningful
  simpa [sizedTokens, signOf, isMeaningful, or_imp, forall_and] using own

theorem whole_sized (h : IsSizedWord word) (size : IsSize s ts) :
    (word ++ '(' :: (s ++ [')'])).all (fun c => c.toNat ≠ 0) = true := by
  rw [List.all_append, List.all_cons, List.all_append, h.whole, size.whole]
  rfl

theorem isPlainType_of_scan (whole : s.all (fun c => c.toNat ≠ 0) = true) (scanned : scan s = ts)
    (meaningful : ∀ t ∈ ts, t.isMeaningful = true) (first : ts.head?.any isTypeWord = true)
    (after : afterType? ts = some []) : isPlainType s = true := by
  have filtered : ts.filter isMeaningful = ts := List.filter_eq_self.mpr meaningful
  have comments : ts.any (fun t => t.kind = .comment) = false := by
    rw [List.any_eq_false]
    intro t ht comment
    have kind : t.kind = .comment := by simpa using comment
    have silent : t.isMeaningful = false := by rw [isMeaningful, kind]
    rw [meaningful t ht] at silent
    cases silent
  unfold isPlainType
  simp only [scanned, filtered, comments, first, after, whole]
  rfl

theorem isPlainType_sized (h : IsSizedWord word) (size : IsSize s ts) :
    isPlainType (word ++ '(' :: (s ++ [')'])) = true := by
  have scanned := scan_sized h size []
  rw [scan_nil, List.append_nil] at scanned
  refine isPlainType_of_scan (whole_sized h size) scanned (meaningful_sized size) h.type ?_
  rw [sizedTokens, afterType?, List.dropWhile_cons_of_pos h.type]
  exact size.after

theorem delimited_sized (h : IsSizedWord word) (size : IsSize s ts) :
    Delimited (word ++ '(' :: (s ++ [')'])) := by
  have blank : scan [' '] = [⟨.blank, [' ']⟩] := rfl
  have scanned := scan_sized h size [' ']
  have text : word ++ '(' :: (s ++ ')' :: [' ']) = word ++ '(' :: (s ++ [')']) ++ [' '] := by simp
  rw [blank, text] at scanned
  refine ⟨isWhole_iff_all.mpr (whole_sized h size), ?_, ?_⟩
  · rw [scanned, List.getLast?_concat]
    rfl
  · rw [scanned, List.filter_append, List.filter_eq_self.mpr (meaningful_sized size)]
    have inner : IsInner (sizedTokens word ts) := h.inner.append size.inner.parens
    simpa [isMeaningful] using inner

/-- A text with a closing parenthesis at its end does not end with a word. -/
theorem withoutLast?_closing (s : List Char) : withoutLast? "always" (s ++ [')']) = none := by
  unfold withoutLast?
  simp only
  rw [if_neg]
  rintro ⟨-, same⟩
  have folded := congrArg String.toList (Text.sameFold_iff.mp same)
  rw [Text.toList_fold, Text.toList_fold, String.toList_ofList] at folded
  have last := congrArg List.getLast? folded
  have six : "always".length = 6 := by decide
  have long : ¬ (s ++ [')']).length ≤ (s ++ [')']).length - 6 := by
    rw [List.length_append, List.length_singleton]
    omega
  rw [List.getLast?_map, List.getLast?_drop, six, if_neg long, List.getLast?_concat] at last
  exact absurd last (by decide)

/-- A text that ends with a closing parenthesis is a type as it stands. -/
theorem declaredType_closing {c : Char} {r : List Char} (blank : isBlankChar c = false)
    (bare : dequoted (c :: r ++ [')']) = c :: r ++ [')']) :
    declaredType (c :: r ++ [')']) = String.ofList (c :: r ++ [')']) := by
  have trimmed : trimSpaces (c :: r ++ [')']) = c :: r ++ [')'] := by
    have start : (c :: r ++ [')']).dropWhile isBlankChar = c :: r ++ [')'] := by simp [blank]
    have closing : isBlankChar ')' = false := by decide
    rw [trimSpaces, start, trimEnd]
    simp [closing]
  have kept := withoutLast?_closing (c :: r)
  unfold declaredType
  simp only [trimmed, kept]
  split
  · rw [bare]
  · rw [bare]

theorem not_numberType_closing (s : List Char) :
    TableText.isNumberType (String.ofList (s ++ [')'])) = false := by
  rw [Bool.eq_false_iff]
  intro same
  have folded := congrArg String.toList (Text.sameFold_iff.mp same)
  rw [Text.toList_fold, Text.toList_fold, String.toList_ofList] at folded
  have last := congrArg List.getLast? folded
  rw [List.getLast?_map, List.getLast?_concat] at last
  exact absurd last (by decide)

/-- A type that is nothing else, and does not make a key the number of the row. -/
structure IsOrdinaryType (type : String) : Prop where
  plain : isPlainType type.toList = true
  notNumber : TableText.isNumberType (declaredType type.toList) = false
  delimited : Delimited type.toList

/-- The types without a length of their own. -/
theorem fixed_ordinary : ∀ type ∈ ["INT", "BIGINT", "BOOLEAN", "TINYINT(1)", "DATETIME", "TEXT",
    "JSON"], IsOrdinaryType type := by
  have all : ∀ type ∈ ["INT", "BIGINT", "BOOLEAN", "TINYINT(1)", "DATETIME", "TEXT", "JSON"],
      isPlainType type.toList = true ∧
        TableText.isNumberType (declaredType type.toList) = false ∧ Delimited type.toList := by
    decide +kernel
  intro type h
  exact ⟨(all type h).1, (all type h).2.1, (all type h).2.2⟩

theorem ordinary_of_closing {type : String} {c : Char} {r : List Char}
    (eq : type.toList = c :: r ++ [')']) (plain : isPlainType (c :: r ++ [')']) = true)
    (delimited : Delimited (c :: r ++ [')'])) (blank : isBlankChar c = false)
    (bare : dequoted (c :: r ++ [')']) = c :: r ++ [')']) :
    IsOrdinaryType type := by
  constructor
  · rw [eq]
    exact plain
  · rw [eq, declaredType_closing blank bare]
    exact not_numberType_closing (c :: r)
  · rw [eq]
    exact delimited

/-- A word does not occur where one of its letters does not. -/
theorem occurs_of_notMem {part : List Char} {c : Char} (hc : c ∈ part) (absent : c ∉ s) :
    occurs part s = false := by
  induction s with
  | nil =>
    cases part with
    | nil => cases hc
    | cons _ _ => rfl
  | cons d s ih =>
    have first : part.isPrefixOf (d :: s) = false := by
      rw [Bool.eq_false_iff]
      intro start
      exact absent ((List.isPrefixOf_iff_prefix.mp start).subset hc)
    rw [occurs, first, ih fun mem => absent (List.mem_cons_of_mem d mem)]
    rfl

theorem toLower_digit {c : Char} (digit : c.isDigit = true) : c.toLower = c := by
  unfold Char.toLower
  rw [dif_neg]
  rintro ⟨low, -⟩
  have capital : 65 ≤ c.toNat := low
  have high : c.toNat ≤ 57 := (Char.isDigit_iff_toNat.mp digit).2
  omega

/-- A text of some length is a text, however long it is. -/
theorem affinity_varchar (digits : a.all Char.isDigit = true) :
    Affinity.ofType (String.ofList ("VARCHAR".toList ++ '(' :: (a ++ [')']))) = .text := by
  have folded : ("VARCHAR".toList ++ '(' :: (a ++ [')'])).map Char.toLower =
      "varchar(".toList ++ (a ++ [')']) := by
    have kept : a.map Char.toLower = a.map id :=
      List.map_congr_left fun c hc => toLower_digit (List.all_eq_true.mp digits c hc)
    simp [kept]
  have absent : 'i' ∉ "varchar(".toList ++ (a ++ [')']) := by
    intro mem
    rcases List.mem_append.mp mem with letter | mem
    · exact absurd letter (by decide)
    · rcases List.mem_append.mp mem with digit | close
      · exact absurd (List.all_eq_true.mp digits 'i' digit) (by decide)
      · exact absurd close (by decide)
  have whole : occurs "int".toList ("varchar(".toList ++ (a ++ [')'])) = false :=
    occurs_of_notMem (by decide) absent
  have part : occurs "char".toList ("varchar(".toList ++ (a ++ [')'])) = true := rfl
  unfold Affinity.ofType
  simp only [String.toList_ofList, folded, whole, part]
  rfl

/-- A number of some digits is a number, however many there are. -/
theorem affinity_decimal (digits : a.all Char.isDigit = true) (digits' : b.all Char.isDigit = true) :
    Affinity.ofType (String.ofList ("DECIMAL".toList ++ '(' :: (a ++ ',' :: (b ++ [')'])))) =
      .numeric := by
  have kept : ∀ s : List Char, s.all Char.isDigit = true → s.map Char.toLower = s := fun s all =>
    (List.map_congr_left fun c hc => toLower_digit (List.all_eq_true.mp all c hc)).trans
      (List.map_id s)
  have folded : ("DECIMAL".toList ++ '(' :: (a ++ ',' :: (b ++ [')']))).map Char.toLower =
      "decimal(".toList ++ (a ++ ',' :: (b ++ [')'])) := by
    simp [kept a digits, kept b digits']
  have absent : ∀ c : Char, c.isDigit = false → c ∉ "decimal(".toList ++ [',', ')'] →
      c ∉ "decimal(".toList ++ (a ++ ',' :: (b ++ [')'])) := by
    intro c letter other mem
    have digit : ∀ s : List Char, s.all Char.isDigit = true → c ∉ s := by
      intro s all hc
      rw [List.all_eq_true.mp all c hc] at letter
      cases letter
    simp only [List.mem_append, List.mem_cons, List.not_mem_nil, or_false] at mem other
    rcases mem with word | number | comma | number | close
    · exact other (Or.inl word)
    · exact digit a digits number
    · exact other (Or.inr (Or.inl comma))
    · exact digit b digits' number
    · exact other (Or.inr (Or.inr close))
  have without : ∀ {word : List Char} {c : Char}, c ∈ word → c.isDigit = false →
      c ∉ "decimal(".toList ++ [',', ')'] →
        occurs word ("decimal(".toList ++ (a ++ ',' :: (b ++ [')']))) = false :=
    fun hc letter other => occurs_of_notMem hc (absent _ letter other)
  have int : occurs "int".toList _ = false := without (c := 't') (by decide) rfl (by decide)
  have char : occurs "char".toList _ = false := without (c := 'h') (by decide) rfl (by decide)
  have clob : occurs "clob".toList _ = false := without (c := 'o') (by decide) rfl (by decide)
  have text : occurs "text".toList _ = false := without (c := 't') (by decide) rfl (by decide)
  have blob : occurs "blob".toList _ = false := without (c := 'o') (by decide) rfl (by decide)
  have real : occurs "real".toList _ = false := without (c := 'r') (by decide) rfl (by decide)
  have float : occurs "floa".toList _ = false := without (c := 'f') (by decide) rfl (by decide)
  have double : occurs "doub".toList _ = false := without (c := 'u') (by decide) rfl (by decide)
  unfold Affinity.ofType
  simp only [String.toList_ofList, folded, int, char, clob, text, blob, real, float, double]
  rfl

end EntityEngine.Sql

namespace EntityEngine.FieldType

open Sql

theorem columnType_ordinary (t : FieldType) (length scale : Option Nat) (layout : Layout) :
    IsOrdinaryType (t.columnType length scale layout) := by
  cases t with
  | string =>
    obtain ⟨some, digits⟩ := digits_of_toString (length.getD defaultLength)
    have size := size_number some digits
    refine ordinary_of_closing (c := 'V')
      (r := "ARCHAR".toList ++ '(' :: (toString (length.getD defaultLength)).toList) ?_ ?_ ?_
      rfl rfl
    · simp [columnType]
    · simpa using isPlainType_sized varchar_sized size
    · simpa using delimited_sized varchar_sized size
  | decimal =>
    obtain ⟨some, digits⟩ := digits_of_toString (length.getD (defaultPrecision layout).1)
    obtain ⟨some', digits'⟩ := digits_of_toString (scale.getD (defaultPrecision layout).2)
    have size := size_numbers some digits some' digits'
    refine ordinary_of_closing (c := 'D')
      (r := "ECIMAL".toList ++ '(' :: ((toString (length.getD (defaultPrecision layout).1)).toList
        ++ ',' :: (toString (scale.getD (defaultPrecision layout).2)).toList)) ?_ ?_ ?_ rfl rfl
    · simp [columnType]
    · simpa using isPlainType_sized decimal_sized size
    · simpa using delimited_sized decimal_sized size
  | boolean => cases layout <;> exact fixed_ordinary _ (by simp [columnType])
  | _ => exact fixed_ordinary _ (by simp [columnType])

/-- The columns of texts keep texts as they are, whatever they look like. -/
theorem textual_affinity {t : FieldType} (textual : t.isTextual = true) (length scale : Option Nat)
    (layout : Layout) :
    Affinity.ofType (declaredType (t.columnType length scale layout).toList) = .text := by
  cases t with
  | string =>
    obtain ⟨-, digits⟩ := digits_of_toString (length.getD defaultLength)
    have text : (columnType .string length scale layout).toList = 'V' :: ("ARCHAR".toList ++ '(' ::
        (toString (length.getD defaultLength)).toList) ++ [')'] := by simp [columnType]
    rw [text, declaredType_closing rfl rfl]
    simpa using affinity_varchar digits
  | text =>
    show Affinity.ofType (declaredType "TEXT".toList) = .text
    decide +kernel
  | _ => cases textual

/-- The columns of other types keep numbers. -/
theorem number_affinity {t : FieldType} (other : t.isTextual = false) (length scale : Option Nat)
    (layout : Layout) :
    Affinity.ofType (declaredType (t.columnType length scale layout).toList) = .integer ∨
      Affinity.ofType (declaredType (t.columnType length scale layout).toList) = .numeric := by
  have integer : ∀ type ∈ ["INT", "BIGINT", "TINYINT(1)"],
      Affinity.ofType (declaredType type.toList) = .integer := by decide +kernel
  have numeric : ∀ type ∈ ["BOOLEAN", "DATETIME", "JSON"],
      Affinity.ofType (declaredType type.toList) = .numeric := by decide +kernel
  cases t with
  | string | text => cases other
  | integer | long => exact Or.inl (integer _ (by simp [columnType]))
  | datetime | json => exact Or.inr (numeric _ (by simp [columnType]))
  | boolean =>
    cases layout with
    | native => exact Or.inr (numeric _ (by simp [columnType]))
    | template => exact Or.inl (integer _ (by simp [columnType]))
  | decimal =>
    obtain ⟨-, digits⟩ := digits_of_toString (length.getD (defaultPrecision layout).1)
    obtain ⟨-, digits'⟩ := digits_of_toString (scale.getD (defaultPrecision layout).2)
    have text : (columnType .decimal length scale layout).toList = 'D' :: ("ECIMAL".toList ++
        '(' :: ((toString (length.getD (defaultPrecision layout).1)).toList ++
          ',' :: (toString (scale.getD (defaultPrecision layout).2)).toList)) ++ [')'] := by
      simp [columnType]
    right
    rw [text, declaredType_closing rfl rfl]
    simpa using affinity_decimal digits digits'

end EntityEngine.FieldType
