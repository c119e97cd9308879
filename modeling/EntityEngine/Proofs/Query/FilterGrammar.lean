import EntityEngine.Proofs.Identifier
import EntityEngine.Proofs.Number.Numeral
import EntityEngine.Proofs.Outcome
import EntityEngine.Query.Filter.Parser
import Mathlib.Data.List.TakeDrop

/-! The texts that write a filter. The parser reads a filter from a text exactly if the text is one
of its forms: `name(field, 'text')` or `field op value`, with white space wherever it is free. Each
step of the parser is met by one form, stated for any text behind it. -/

namespace EntityEngine

open Text

/-- White space, or nothing. -/
def Blanks (s : List Char) : Prop := ∀ c ∈ s, isBlank c = true

/-- A text in single quotes, with each quote in it written twice. -/
def quotedForm (t : String) : List Char := '\'' :: (double '\'' t.toList ++ ['\''])

/-- The value of a comparison as it is written: a text in quotes, or a word without white space that
does not start with a quote. -/
inductive Literal.Form : Literal → List Char → Prop
  | quoted (t : String) : Form (.quoted t) (quotedForm t)
  | bare {t : String} : t ≠ "" → (∀ c ∈ t.toList, isBlank c = false) →
      t.toList.head? ≠ some '\'' → Form (.bare t) t.toList

/-- A filter as it is written, without white space around it. A function or an operator stands in
capitals or small letters. A value that touches its operator does not go on with the operator's
word. -/
inductive Filter.Form : Filter → List Char → Prop
  | test {t : TextTest} {name field value : String} {a b c d e : List Char} :
      sameFold t.word name = true → isIdentifier field = true →
      Blanks a → Blanks b → Blanks c → Blanks d → Blanks e →
      Form (.test field t value) (name.toList ++ (a ++ '(' :: (b ++ (field.toList ++ (c ++ ',' ::
        (d ++ (quotedForm value ++ (e ++ [')']))))))))
  | compare {op : Comparison} {field name : String} {value : Literal} {a b v : List Char} :
      isIdentifier field = true → a ≠ [] → Blanks a → sameFold op.word name = true → Blanks b →
      value.Form v → (b = [] → ∀ c ∈ v.head?, isIdentifierChar c = false) →
      Form (.compare field op value) (field.toList ++ (a ++ (name.toList ++ (b ++ v))))

/-- A text that writes a filter, with white space around it. -/
def Filter.Renders (p : Filter) (s : String) : Prop :=
  ∃ a w b, Blanks a ∧ p.Form w ∧ Blanks b ∧ s.toList = a ++ (w ++ b)

/-- The literals that a text can write: a bare one is a word. -/
def Literal.IsWritten : Literal → Prop
  | .quoted _ => True
  | .bare t => t ≠ "" ∧ (∀ c ∈ t.toList, isBlank c = false) ∧ t.toList.head? ≠ some '\''

/-- The filters that a text can write. -/
def Filter.IsWritten : Filter → Prop
  | .test field _ _ => isIdentifier field = true
  | .compare field _ value => isIdentifier field = true ∧ value.IsWritten

/-- What may stand behind a value: the value goes on up to it. -/
def Literal.Ends : Literal → List Char → Prop
  | .quoted _, r => r.head? ≠ some '\''
  | .bare _, r => ∀ c ∈ r.head?, isBlank c = true

/-! ### White space and words -/

theorem span_iff {p : Char → Bool} {s w r : List Char} : s.span p = (w, r) ↔
    s = w ++ r ∧ (∀ c ∈ w, p c = true) ∧ ∀ c ∈ r.head?, p c = false := by
  rw [List.span_eq_takeWhile_dropWhile, Prod.mk.injEq]
  constructor
  · rintro ⟨rfl, rfl⟩
    refine ⟨List.takeWhile_append_dropWhile.symm, fun c hc => List.mem_takeWhile_imp hc, ?_⟩
    intro c hc
    have stop := List.head?_dropWhile_not p s
    rw [Option.mem_def.mp hc] at stop
    exact stop
  · rintro ⟨rfl, all, stop⟩
    obtain ⟨taken, dropped⟩ := Number.takeWhile_append_stop stop w
    rw [taken, dropped, List.takeWhile_eq_self_iff.mpr all, List.dropWhile_eq_nil_iff.mpr all]
    exact ⟨rfl, rfl⟩

theorem blanks_nil : Blanks [] := fun _ h => absurd h List.not_mem_nil

theorem blanks_one : Blanks [' '] := by
  intro c h
  rw [List.mem_singleton.mp h]
  decide

theorem trimLeft_iff {s r : List Char} : trimLeft s = r ↔
    ∃ a, Blanks a ∧ s = a ++ r ∧ ∀ c ∈ r.head?, isBlank c = false := by
  have whole : trimLeft s = r ↔ s.span isBlank = (s.takeWhile isBlank, r) := by
    rw [List.span_eq_takeWhile_dropWhile, Prod.mk.injEq]
    exact (and_iff_right rfl).symm
  rw [whole, span_iff]
  constructor
  · rintro ⟨split, all, stop⟩
    exact ⟨_, all, split, stop⟩
  · rintro ⟨a, all, rfl, stop⟩
    have taken := (span_iff (p := isBlank)).mpr ⟨rfl, all, stop⟩
    rw [List.span_eq_takeWhile_dropWhile] at taken
    rw [(Prod.mk.inj taken).1]
    exact ⟨rfl, all, stop⟩

theorem exists_trimLeft (s : List Char) : ∃ a r, Blanks a ∧ s = a ++ r ∧ trimLeft s = r ∧
    ∀ c ∈ r.head?, isBlank c = false := by
  obtain ⟨a, blanks, whole, stop⟩ := trimLeft_iff.mp (Eq.refl (trimLeft s))
  exact ⟨a, trimLeft s, blanks, whole, rfl, stop⟩

theorem trimLeft_append {a r : List Char} (blanks : Blanks a)
    (stop : ∀ c ∈ r.head?, isBlank c = false) : trimLeft (a ++ r) = r :=
  trimLeft_iff.mpr ⟨a, blanks, rfl, stop⟩

namespace Filter

variable {input s r : List Char}

theorem word_iff {w : List Char} : word s = (w, r) ↔ s = w ++ r ∧
    (∀ c ∈ w, isIdentifierChar c = true) ∧ ∀ c ∈ r.head?, isIdentifierChar c = false := span_iff

/-- A word ends at white space, -/
theorem stop_of_cons {d : Char} {a : List Char} (blanks : Blanks (d :: a)) :
    ∀ c ∈ (d :: a ++ r).head?, isIdentifierChar c = false := by
  intro c hc
  obtain rfl : d = c := Option.some.inj hc
  cases part : isIdentifierChar d with
  | false => rfl
  | true =>
    have visible := not_blank_of_identifierChar part
    rw [blanks d List.mem_cons_self] at visible
    cases visible

/-- and without white space at what is no part of it either. -/
theorem stop_of_blanks {a : List Char} (blanks : Blanks a)
    (stop : ∀ c ∈ r.head?, isIdentifierChar c = false) :
    ∀ c ∈ (a ++ r).head?, isIdentifierChar c = false := by
  cases a with
  | nil => exact stop
  | cons d a => exact stop_of_cons blanks

theorem identifierChar_of_toLower {c : Char} (h : isIdentifierChar c.toLower = true) :
    isIdentifierChar c = true := by
  unfold Char.toLower at h
  split at h
  · rename_i capital
    exact identifierChar_iff.mpr (Or.inl ⟨capital.1, capital.2⟩)
  · exact h

/-- A name that is read as one word. -/
structure IsWord (name : String) : Prop where
  filled : name.toList ≠ []
  all : ∀ c ∈ name.toList, isIdentifierChar c = true

variable {name : String}

namespace IsWord

theorem of_isIdentifier (named : isIdentifier name = true) : IsWord name := by
  refine ⟨fun empty => ?_, all_of_isIdentifier named⟩
  rw [isIdentifier, empty] at named
  cases named

theorem isEmpty (h : IsWord name) : name.toList.isEmpty = false := by simpa using h.filled

theorem read (h : IsWord name) (stop : ∀ c ∈ r.head?, isIdentifierChar c = false) :
    word (name.toList ++ r) = (name.toList, r) := word_iff.mpr ⟨rfl, h.all, stop⟩

theorem start (h : IsWord name) (r : List Char) :
    ∃ c u, name.toList ++ r = c :: u ∧ isIdentifierChar c = true := by
  obtain ⟨c, u, chars⟩ := List.exists_cons_of_ne_nil h.filled
  refine ⟨c, u ++ r, by rw [chars, List.cons_append], h.all c ?_⟩
  rw [chars]
  exact List.mem_cons_self

theorem visible (h : IsWord name) (r : List Char) :
    ∀ c ∈ (name.toList ++ r).head?, isBlank c = false := by
  obtain ⟨d, u, chars, part⟩ := h.start r
  intro c hc
  rw [chars] at hc
  obtain rfl : d = c := Option.some.inj hc
  exact not_blank_of_identifierChar part

/-- Letters in capitals or small letters. -/
theorem of_sameFold {w : String} (letters : IsWord w) (lower : fold w = w)
    (same : sameFold w name = true) : IsWord name := by
  have chars : w.toList = name.toList.map Char.toLower := by
    rw [← toList_fold, ← sameFold_iff.mp same, lower]
  constructor
  · intro empty
    rw [empty] at chars
    exact letters.filled chars
  · intro c hc
    apply identifierChar_of_toLower
    apply letters.all
    rw [chars]
    exact List.mem_map_of_mem hc

end IsWord

/-! ### The parts of a filter -/

theorem double_quote (t : List Char) : double '\'' ('\'' :: t) = '\'' :: '\'' :: double '\'' t := rfl

theorem double_other {c : Char} (other : c ≠ '\'') (t : List Char) :
    double '\'' (c :: t) = c :: double '\'' t := by
  simp [double, other]

theorem unquote_other {c : Char} (other : c ≠ '\'') (s : List Char) :
    unquote (c :: s) = (unquote s).map fun (t, rest) => (c :: t, rest) := by
  rw [unquote, if_neg other]
  rintro t rfl
  exact absurd rfl other

theorem unquote_end (alone : r.head? ≠ some '\'') : unquote ('\'' :: r) = some ([], r) := by
  rw [unquote, if_pos rfl]
  rintro t - rfl
  exact absurd rfl alone

theorem unquote_iff {t : List Char} : unquote s = some (t, r) ↔
    s = double '\'' t ++ '\'' :: r ∧ r.head? ≠ some '\'' := by
  constructor
  · intro h
    fun_induction unquote s generalizing t with
    | case1 => cases h
    | case2 s ih =>
      obtain ⟨⟨u, rest⟩, read, eq⟩ := Option.map_eq_some_iff.mp h
      obtain ⟨rfl, rfl⟩ := Prod.mk.inj eq
      obtain ⟨rfl, stop⟩ := ih read
      exact ⟨rfl, stop⟩
    | case3 s single =>
      obtain ⟨rfl, rfl⟩ := Prod.mk.inj (Option.some.inj h)
      refine ⟨rfl, fun more => ?_⟩
      obtain ⟨rest, rfl⟩ := List.head?_eq_some_iff.mp more
      exact single rest rfl rfl
    | case4 c s _ other ih =>
      obtain ⟨⟨u, rest⟩, read, eq⟩ := Option.map_eq_some_iff.mp h
      obtain ⟨rfl, rfl⟩ := Prod.mk.inj eq
      obtain ⟨rfl, stop⟩ := ih read
      rw [double_other other]
      exact ⟨rfl, stop⟩
  · rintro ⟨rfl, stop⟩
    induction t with
    | nil => exact unquote_end stop
    | cons c t ih =>
      by_cases quote : c = '\''
      · rw [quote, double_quote, List.cons_append, List.cons_append, unquote, ih]
        rfl
      · rw [double_other quote, List.cons_append, unquote_other quote, ih]
        rfl

theorem quotedText_iff {t : String} : quotedText input s = .ok (t, r) ↔
    s = quotedForm t ++ r ∧ r.head? ≠ some '\'' := by
  constructor
  · intro h
    unfold quotedText at h
    split at h
    · split at h
      · rename_i u rest read
        obtain ⟨rfl, rfl⟩ := Prod.mk.inj (Except.ok.inj h)
        obtain ⟨rfl, stop⟩ := unquote_iff.mp read
        refine ⟨?_, stop⟩
        rw [quotedForm, String.toList_ofList, List.cons_append, List.append_assoc]
        rfl
      · cases h
    · cases h
  · rintro ⟨rfl, stop⟩
    have read : unquote (double '\'' t.toList ++ ['\''] ++ r) = some (t.toList, r) :=
      unquote_iff.mpr ⟨by rw [List.append_assoc]; rfl, stop⟩
    simp only [quotedForm, List.cons_append, quotedText, read, String.ofList_toList]

theorem fieldName_iff {field : String} : fieldName input s = .ok (field, r) ↔
    s = field.toList ++ r ∧ isIdentifier field = true ∧
      ∀ c ∈ r.head?, isIdentifierChar c = false := by
  constructor
  · intro h
    unfold fieldName at h
    cases read : word s with
    | mk w rest =>
      simp only [read] at h
      split at h
      · rename_i identifier
        obtain ⟨rfl, rfl⟩ := Prod.mk.inj (Except.ok.inj h)
        obtain ⟨rfl, -, stop⟩ := word_iff.mp read
        rw [isIdentifier, String.toList_ofList]
        exact ⟨rfl, identifier, stop⟩
      · cases h
  · rintro ⟨rfl, identifier, stop⟩
    have read := word_iff.mpr ⟨rfl, all_of_isIdentifier identifier, stop⟩
    unfold fieldName
    simp only [read, String.ofList_toList]
    exact if_pos identifier

theorem expect_iff {c : Char} : expect c input s = .ok r ↔ s = c :: r := by
  cases s with
  | nil =>
    constructor
    · intro h
      cases h
    · intro h
      cases h
  | cons d s =>
    rw [expect, List.cons.injEq]
    split
    · rename_i same
      rw [Except.ok.injEq, and_iff_right same]
    · rename_i other
      constructor
      · intro h
        cases h
      · rintro ⟨same, -⟩
        exact absurd same other

theorem bare_iff {t : String} (visible : ∀ c ∈ s.head?, isBlank c = false)
    (other : s.head? ≠ some '\'') (filled : s ≠ []) :
    (s.span fun c => !isBlank c) = (t.toList, r) ↔
      Literal.Form (.bare t) t.toList ∧ s = t.toList ++ r ∧ ∀ c ∈ r.head?, isBlank c = true := by
  simp only [span_iff, Bool.not_eq_true', Bool.not_eq_false']
  constructor
  · rintro ⟨rfl, all, stop⟩
    have nonempty : t.toList ≠ [] := by
      intro empty
      rw [empty, List.nil_append] at visible filled
      obtain ⟨c, rest, rfl⟩ := List.exists_cons_of_ne_nil filled
      have blank := stop c rfl
      rw [visible c rfl] at blank
      cases blank
    have first : t.toList.head? ≠ some '\'' := by
      obtain ⟨c, rest, chars⟩ := List.exists_cons_of_ne_nil nonempty
      rw [chars] at other ⊢
      exact other
    exact ⟨.bare (mt String.toList_eq_nil_iff.mpr nonempty) all first, rfl, stop⟩
  · rintro ⟨form, rfl, stop⟩
    cases form with
    | bare _ all _ => exact ⟨rfl, all, stop⟩

theorem comparedValue_iff {value : Literal} (visible : ∀ c ∈ s.head?, isBlank c = false) :
    comparedValue input s = .ok (value, r) ↔ ∃ v, value.Form v ∧ s = v ++ r ∧ value.Ends r := by
  constructor
  · intro h
    unfold comparedValue at h
    split at h
    · cases h
    · rename_i c u
      split at h
      · obtain ⟨⟨t, rest⟩, read, h⟩ := bind_ok h
        obtain ⟨rfl, rfl⟩ := Prod.mk.inj (Except.ok.inj h)
        obtain ⟨eq, stop⟩ := quotedText_iff.mp read
        exact ⟨_, .quoted t, eq, stop⟩
      · rename_i other
        cases read : (c :: u).span fun c => !isBlank c with
        | mk w rest =>
          simp only [read] at h
          obtain ⟨rfl, rfl⟩ := Prod.mk.inj (Except.ok.inj h)
          rw [← String.toList_ofList (l := w)] at read
          obtain ⟨form, eq, stop⟩ :=
            (bare_iff visible (by simpa using other) (List.cons_ne_nil c u)).mp read
          exact ⟨_, form, eq, stop⟩
  · rintro ⟨v, form, rfl, ends⟩
    cases form with
    | quoted t =>
      have read : quotedText input (quotedForm t ++ r) = .ok (t, r) := quotedText_iff.mpr ⟨rfl, ends⟩
      rw [quotedForm, List.cons_append] at read ⊢
      rw [comparedValue, if_pos rfl, read]
      rfl
    | @bare t filled all first =>
      cases chars : t.toList with
      | nil => exact absurd (String.toList_eq_nil_iff.mp chars) filled
      | cons c u =>
        have other : c ≠ '\'' := by
          rintro rfl
          rw [chars] at first
          exact first rfl
        rw [chars] at visible
        have read := (bare_iff visible (by simpa using other) (List.cons_ne_nil c (u ++ r))).mpr
          ⟨.bare filled all first, by rw [chars, List.cons_append], ends⟩
        rw [List.cons_append] at read ⊢
        rw [comparedValue, if_neg other, read]
        simp only [String.ofList_toList]

/-! ### Tests and comparisons -/

theorem isWord_test {t : TextTest} (same : sameFold t.word name = true) : IsWord name := by
  refine .of_sameFold ⟨?_, List.all_eq_true.mp ?_⟩ ?_ same <;> cases t <;> decide

theorem isWord_comparison {op : Comparison} (same : sameFold op.word name = true) :
    IsWord name := by
  refine .of_sameFold ⟨?_, List.all_eq_true.mp ?_⟩ ?_ same <;> cases op <;> decide

theorem parse?_test {t : TextTest} :
    TextTest.parse? name = some t ↔ sameFold t.word name = true := by
  constructor
  · intro h
    have found := List.find?_some h
    exact found
  · intro same
    unfold TextTest.parse? sameFold
    rw [← sameFold_iff.mp same]
    cases t <;> decide

theorem parse?_comparison {op : Comparison} :
    Comparison.parse? name = some op ↔ sameFold op.word name = true := by
  constructor
  · intro h
    have found := List.find?_some h
    exact found
  · intro same
    unfold Comparison.parse? sameFold
    rw [← sameFold_iff.mp same]
    cases op <;> decide

theorem arguments_iff {t : TextTest} {p : Filter} : arguments input t s = .ok (p, r) ↔
    ∃ field value b c d e, p = .test field t value ∧ isIdentifier field = true ∧
      Blanks b ∧ Blanks c ∧ Blanks d ∧ Blanks e ∧
      s = b ++ (field.toList ++ (c ++ ',' :: (d ++ (quotedForm value ++ (e ++ ')' :: r))))) := by
  constructor
  · intro h
    obtain ⟨⟨field, s₁⟩, named, h⟩ := bind_ok h
    obtain ⟨s₂, comma, h⟩ := bind_ok h
    obtain ⟨⟨value, s₃⟩, given, h⟩ := bind_ok h
    obtain ⟨s₄, close, h⟩ := bind_ok h
    obtain ⟨rfl, rfl⟩ := Prod.mk.inj (Except.ok.inj h)
    obtain ⟨start, identifier, -⟩ := fieldName_iff.mp named
    obtain ⟨b, hb, rfl, -⟩ := trimLeft_iff.mp start
    obtain ⟨c, hc, rfl, -⟩ := trimLeft_iff.mp (expect_iff.mp comma)
    obtain ⟨d, hd, rfl, -⟩ := trimLeft_iff.mp (quotedText_iff.mp given).1
    obtain ⟨e, he, rfl, -⟩ := trimLeft_iff.mp (expect_iff.mp close)
    exact ⟨field, value, b, c, d, e, rfl, identifier, hb, hc, hd, he, rfl⟩
  · rintro ⟨field, value, b, c, d, e, rfl, identifier, hb, hc, hd, he, rfl⟩
    have close : trimLeft (e ++ ')' :: r) = ')' :: r := trimLeft_append he (by simp; decide)
    have given : trimLeft (d ++ (quotedForm value ++ (e ++ ')' :: r))) =
        quotedForm value ++ (e ++ ')' :: r) :=
      trimLeft_append hd (by simp [quotedForm]; decide)
    have quoted : quotedText input (quotedForm value ++ (e ++ ')' :: r)) =
        .ok (value, e ++ ')' :: r) := by
      refine quotedText_iff.mpr ⟨rfl, ?_⟩
      cases e with
      | nil => simp
      | cons f e =>
        rintro quote
        obtain rfl : f = '\'' := Option.some.inj quote
        exact absurd (he '\'' List.mem_cons_self) (by decide)
    have comma : trimLeft (c ++ ',' :: (d ++ (quotedForm value ++ (e ++ ')' :: r)))) =
        ',' :: (d ++ (quotedForm value ++ (e ++ ')' :: r))) :=
      trimLeft_append hc (by simp; decide)
    have named : fieldName input
        (field.toList ++ (c ++ ',' :: (d ++ (quotedForm value ++ (e ++ ')' :: r))))) =
          .ok (field, c ++ ',' :: (d ++ (quotedForm value ++ (e ++ ')' :: r)))) :=
      fieldName_iff.mpr ⟨rfl, identifier, stop_of_blanks hc (by simp; decide)⟩
    unfold arguments
    rw [trimLeft_append hb ((IsWord.of_isIdentifier identifier).visible _), named]
    show (expect ',' input (trimLeft _) >>= _) = _
    rw [comma, expect_iff.mpr rfl]
    show (quotedText input (trimLeft _) >>= _) = _
    rw [given, quoted]
    show (expect ')' input (trimLeft _) >>= _) = _
    rw [close, expect_iff.mpr rfl]
    rfl

/-- A value starts with something that is no white space. -/
theorem exists_start {value : Literal} {v : List Char} (form : value.Form v) :
    ∃ c u, v = c :: u ∧ isBlank c = false := by
  cases form with
  | quoted t => exact ⟨_, _, rfl, by decide⟩
  | @bare t filled all first =>
    obtain ⟨c, u, chars⟩ := List.exists_cons_of_ne_nil (mt String.toList_eq_nil_iff.mp filled)
    refine ⟨c, u, chars, all c ?_⟩
    rw [chars]
    exact List.mem_cons_self

theorem comparison_iff {field : String} {p : Filter} : comparison input field s = .ok (p, r) ↔
    ∃ op name value b v, p = .compare field op value ∧ sameFold op.word name = true ∧ Blanks b ∧
      value.Form v ∧ (b = [] → ∀ c ∈ v.head?, isIdentifierChar c = false) ∧
      s = name.toList ++ (b ++ (v ++ r)) ∧ value.Ends r := by
  constructor
  · intro h
    unfold comparison at h
    cases read : word s with
    | mk w s₁ =>
      obtain ⟨rfl, all, stop⟩ := word_iff.mp read
      simp only [read] at h
      obtain ⟨given, h⟩ := unless_ok h
      split at h
      · cases h
      · rename_i op known
        obtain ⟨⟨value, s₂⟩, compared, h⟩ := bind_ok h
        obtain ⟨rfl, rfl⟩ := Prod.mk.inj (Except.ok.inj h)
        obtain ⟨b, u, hb, rfl, trimmed, visible⟩ := exists_trimLeft s₁
        rw [trimmed] at compared
        obtain ⟨v, form, rfl, ends⟩ := (comparedValue_iff visible).mp compared
        refine ⟨op, String.ofList w, value, b, v, rfl, parse?_comparison.mp known, hb, form, ?_,
          by rw [String.toList_ofList], ends⟩
        obtain ⟨c, u, rfl, -⟩ := exists_start form
        rintro rfl
        exact stop
  · rintro ⟨op, name, value, b, v, rfl, same, hb, form, touch, rfl, ends⟩
    obtain ⟨c, u, rfl, visible⟩ := exists_start form
    have visible : ∀ d ∈ (c :: u ++ r).head?, isBlank d = false := by simpa using visible
    have behind : ∀ d ∈ (b ++ (c :: u ++ r)).head?, isIdentifierChar d = false := by
      cases b with
      | nil => exact touch rfl
      | cons d b => exact stop_of_cons hb
    have operator := isWord_comparison same
    have known := parse?_comparison.mpr same
    have compared : comparedValue input (c :: u ++ r) = .ok (value, r) :=
      (comparedValue_iff visible).mpr ⟨_, form, rfl, ends⟩
    unfold comparison
    rw [operator.read behind]
    simp only [operator.isEmpty, String.ofList_toList, known]
    show (comparedValue input (trimLeft (b ++ (c :: u ++ r))) >>= _) = _
    rw [trimLeft_append hb visible, compared]
    rfl

/-- What may stand behind a filter: the filter goes on up to it. -/
def Ends : Filter → List Char → Prop
  | .test _ _ _, _ => True
  | .compare _ _ value, r => value.Ends r

theorem predicate_iff {p : Filter} : predicate input s = .ok (p, r) ↔
    ∃ w, p.Form w ∧ s = w ++ r ∧ p.Ends r := by
  constructor
  · intro h
    unfold predicate at h
    cases read : word s with
    | mk head s₁ =>
      obtain ⟨rfl, all, stop⟩ := word_iff.mp read
      obtain ⟨a, u, ha, rfl, trimmed, -⟩ := exists_trimLeft s₁
      simp only [read, trimmed] at h
      split at h
      · cases h
      · split at h
        · rename_i s₂
          split at h
          · rename_i t known
            obtain ⟨field, value, b, c, d, e, rfl, identifier, hb, hc, hd, he, rfl⟩ :=
              arguments_iff.mp h
            have same := parse?_test.mp known
            refine ⟨_, .test same identifier ha hb hc hd he, ?_, trivial⟩
            simp
          · cases h
        · split at h
          · rename_i identifier
            obtain ⟨op, name, value, b, v, rfl, same, hb, form, touch, rfl, ends⟩ :=
              comparison_iff.mp h
            have identifier : isIdentifier (String.ofList head) = true := by
              rw [isIdentifier, String.toList_ofList]
              exact identifier
            have apart : a ≠ [] := by
              rintro rfl
              obtain ⟨c, u, chars, part⟩ := (isWord_comparison same).start (b ++ (v ++ r))
              rw [List.nil_append, chars] at stop
              rw [stop c rfl] at part
              cases part
            refine ⟨_, .compare identifier apart ha same hb form touch, ?_, ends⟩
            simp
          · cases h
  · rintro ⟨w, form, rfl, ends⟩
    cases form with
    | @test t name field value a b c d e same identifier ha hb hc hd he =>
      have function := isWord_test same
      have called : arguments input t (b ++ (field.toList ++ (c ++ ',' ::
          (d ++ (quotedForm value ++ (e ++ ')' :: r)))))) = .ok (.test field t value, r) :=
        arguments_iff.mpr ⟨field, value, b, c, d, e, rfl, identifier, hb, hc, hd, he, rfl⟩
      simp only [List.append_assoc, List.cons_append, List.nil_append]
      unfold predicate
      rw [function.read (stop_of_blanks ha (by simp; decide))]
      simp only [function.isEmpty, trimLeft_append ha (r := '(' :: _) (by simp; decide),
        String.ofList_toList, parse?_test.mpr same]
      exact called
    | @compare op field name value a b v identifier apart ha same hb form touch =>
      obtain ⟨d, a, rfl⟩ := List.exists_cons_of_ne_nil apart
      have compared : comparison input field (name.toList ++ (b ++ (v ++ r))) =
          .ok (.compare field op value, r) :=
        comparison_iff.mpr ⟨op, name, value, b, v, rfl, same, hb, form, touch, rfl, ends⟩
      have declared := IsWord.of_isIdentifier identifier
      have operator := isWord_comparison same
      simp only [List.append_assoc]
      unfold predicate
      rw [declared.read (stop_of_cons ha)]
      simp only [declared.isEmpty, trimLeft_append ha (operator.visible _)]
      rw [if_neg Bool.false_ne_true]
      split
      · rename_i opened
        obtain ⟨c, u, chars, part⟩ := operator.start (b ++ (v ++ r))
        rw [chars] at opened
        obtain rfl := (List.cons.inj opened).1
        exact absurd part (by decide)
      · rw [String.ofList_toList]
        exact (if_pos identifier).trans compared

theorem Form.start {p : Filter} {w : List Char} (form : p.Form w) (r : List Char) :
    ∃ c u, w ++ r = c :: u ∧ isBlank c = false := by
  cases form with
  | test same =>
    obtain ⟨c, u, chars, part⟩ := (isWord_test same).start _
    exact ⟨c, u, by rw [List.append_assoc, chars], not_blank_of_identifierChar part⟩
  | compare identifier =>
    obtain ⟨c, u, chars, part⟩ := (IsWord.of_isIdentifier identifier).start _
    exact ⟨c, u, by rw [List.append_assoc, chars], not_blank_of_identifierChar part⟩

/-- White space ends every filter. -/
theorem ends_of_blanks {p : Filter} {b : List Char} (blanks : Blanks b) : p.Ends b := by
  have head : ∀ c ∈ b.head?, isBlank c = true := fun c hc => blanks c (List.mem_of_mem_head? hc)
  cases p with
  | test => trivial
  | compare field op value =>
    cases value with
    | quoted t =>
      intro quote
      exact absurd (head _ quote) (by decide)
    | bare t => exact head

theorem parse_iff {p : Filter} {s : String} : parse s = .ok p ↔ p.Renders s := by
  constructor
  · intro h
    obtain ⟨a, u, ha, whole, trimmed, -⟩ := exists_trimLeft s.toList
    unfold parse at h
    simp only [trimmed] at h
    obtain ⟨-, h⟩ := unless_ok h
    obtain ⟨⟨q, rest⟩, read, ended⟩ := bind_ok h
    obtain ⟨w, form, rfl, -⟩ := predicate_iff.mp read
    obtain ⟨b, v, hb, rfl, trimmed, -⟩ := exists_trimLeft rest
    simp only [trimmed] at ended
    cases v with
    | cons c v => cases ended
    | nil =>
      obtain rfl := Except.ok.inj ended
      rw [List.append_nil] at whole
      exact ⟨a, w, b, ha, form, hb, whole⟩
  · rintro ⟨a, w, b, ha, form, hb, whole⟩
    obtain ⟨c, u, chars, visible⟩ := form.start b
    have start : trimLeft s.toList = w ++ b := by
      rw [whole]
      refine trimLeft_append ha ?_
      rw [chars]
      simpa using visible
    have nonempty : (w ++ b).isEmpty = false := by rw [chars]; rfl
    have read : predicate s.toList (w ++ b) = .ok (p, b) :=
      predicate_iff.mpr ⟨w, form, rfl, ends_of_blanks hb⟩
    have behind : trimLeft b = [] := by
      have dropped := trimLeft_append (r := []) hb (by simp)
      rwa [List.append_nil] at dropped
    unfold parse
    simp only [start, nonempty]
    show (predicate s.toList (w ++ b) >>= _) = _
    rw [read]
    simp only [bind, Except.bind, behind]
    rfl

theorem isWritten_of_form {p : Filter} {w : List Char} (form : p.Form w) : p.IsWritten := by
  cases form with
  | test _ identifier => exact identifier
  | compare identifier _ _ _ _ value _ =>
    refine ⟨identifier, ?_⟩
    cases value with
    | quoted t => trivial
    | bare filled all first => exact ⟨filled, all, first⟩

/-- Each filter that can be written has a plain form, with single blanks. -/
theorem exists_form {p : Filter} (written : p.IsWritten) : ∃ w, p.Form w := by
  cases p with
  | test field t value =>
    exact ⟨_, .test (sameFold_iff.mpr rfl) written blanks_nil blanks_nil blanks_nil blanks_nil
      blanks_nil⟩
  | compare field op value =>
    obtain ⟨v, form⟩ : ∃ v, value.Form v := by
      cases value with
      | quoted t => exact ⟨_, .quoted t⟩
      | bare t => exact ⟨_, .bare written.2.1 written.2.2.1 written.2.2.2⟩
    refine ⟨_, .compare written.1 (List.cons_ne_nil ' ' []) blanks_one (sameFold_iff.mpr rfl)
      blanks_one form ?_⟩
    intro empty
    cases empty

/-- The parser reads exactly the texts that write a filter, and reads the filter that was written:
no text writes two filters, and a filter is written by some text exactly if its field is an
identifier and its value, where it stands bare, is a word. -/
theorem parse_grammar (p : Filter) :
    (∀ s, parse s = .ok p ↔ p.Renders s) ∧ (∀ q s, p.Renders s → q.Renders s → p = q) ∧
      ((∃ s, p.Renders s) ↔ p.IsWritten) := by
  refine ⟨fun s => parse_iff, fun q s left right => ?_, ?_⟩
  · have read := parse_iff.mpr left
    rw [parse_iff.mpr right] at read
    exact (Except.ok.inj read).symm
  · constructor
    · rintro ⟨s, a, w, b, -, form, -, -⟩
      exact isWritten_of_form form
    · intro written
      obtain ⟨w, form⟩ := exists_form written
      exact ⟨String.ofList w, [], w, [], blanks_nil, form, blanks_nil, by simp⟩

end Filter

end EntityEngine
