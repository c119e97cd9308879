import EntityEngine.Proofs.Query.FilterGrammar

/-! The places that faults in a filter tell. Each step of the parser starts somewhere in the text, and
a fault that it finds tells the place where it started, at which something else stands than what is
expected there. What is left over stands behind a text that writes a filter. -/

namespace EntityEngine

open Text

/-- At a place, which is counted in bytes from the start, `r` is the rest of a text. -/
def StandsAt (input : List Char) (place : Nat) (r : List Char) : Prop :=
  ∃ before, input = before ++ r ∧ byteLength before = place

/-- However long a character is repeated, until another one or an end comes, it stands there in
pairs. -/
def HasEvenRuns (c : Char) (s : List Char) : Prop :=
  ∀ a n b, s = a ++ (List.replicate n c ++ b) → a.getLast? ≠ some c → b.head? ≠ some c → n % 2 = 0

namespace QueryFault

/-- The place that a fault tells. -/
def place? : QueryFault → Option Nat
  | fieldExpected place | expected _ place | stringExpected place | stringUnterminated place =>
    some place
  | _ => none

/-- What a fault says of the text of a filter. -/
def PointsInto (input : List Char) : QueryFault → Prop
  | empty => Blanks input
  | fieldExpected place => ∃ r, StandsAt input place r ∧
    isIdentifier (String.ofList (r.takeWhile isIdentifierChar)) = false
  | unknownFunction word => TextTest.parse? word = none
  | unknownOperator word => Comparison.parse? word = none
  | expected c place => ∃ r, StandsAt input place r ∧ r.head? ≠ some c
  | stringExpected place => ∃ r, StandsAt input place r ∧ r.head? ≠ some '\''
  | stringUnterminated place => ∃ r, StandsAt input place ('\'' :: r) ∧ HasEvenRuns '\'' r
  | valueMissing => True
  | trailing t => t ≠ "" ∧ (∀ c ∈ t.toList.head?, isBlank c = false) ∧
    ∃ p q, input = p ++ t.toList ∧ Filter.parse (String.ofList p) = .ok q
  | badOrder _ => False

end QueryFault

/-! ### Places -/

theorem standsAt_offset {input s : List Char} (rest : s <:+ input) :
    StandsAt input (Filter.offset input s) s := by
  obtain ⟨before, rfl⟩ := rest
  refine ⟨before, rfl, ?_⟩
  rw [Filter.offset, byteLength_append, Nat.add_sub_cancel]

theorem byteLength_eq (s : List Char) : byteLength s = (String.ofList s).utf8ByteSize := by
  induction s with
  | nil => rfl
  | cons c s ih =>
    have parts : String.ofList (c :: s) = String.singleton c ++ String.ofList s := by
      rw [String.singleton_eq_ofList, ← String.ofList_append, List.singleton_append]
    rw [byteLength, ih, parts, String.utf8ByteSize_append, String.utf8ByteSize_singleton]

/-- A place at which something stands is the start of a character, or the end. -/
theorem StandsAt.isValid {s : String} {place : Nat} {r : List Char}
    (h : StandsAt s.toList place r) : String.Pos.Raw.IsValid s ⟨place⟩ := by
  obtain ⟨before, whole, rfl⟩ := h
  refine String.Pos.Raw.isValid_iff_exists_append.mpr ⟨String.ofList before, String.ofList r, ?_, ?_⟩
  · rw [← String.ofList_append, ← whole, String.ofList_toList]
  · rw [byteLength_eq]
    rfl

/-! ### Quotes in pairs -/

namespace HasEvenRuns

variable {c d : Char} {s : List Char}

theorem nil : HasEvenRuns c [] := by
  intro a n b whole _ _
  have short := congrArg List.length whole
  simp at short
  omega

theorem cons_other (other : d ≠ c) (h : HasEvenRuns c s) : HasEvenRuns c (d :: s) := by
  intro a n b whole before behind
  cases a with
  | nil =>
    cases n with
    | zero => rfl
    | succ n => exact absurd (List.cons.inj whole).1 other
  | cons x a =>
    refine h a n b (List.cons.inj whole).2 (fun last => before ?_) behind
    rw [List.getLast?_cons, last]
    rfl

theorem cons_pair (h : HasEvenRuns c s) : HasEvenRuns c (c :: c :: s) := by
  intro a n b whole before behind
  match a, n with
  | [], 0 => rfl
  | [], 1 =>
    obtain ⟨-, rfl⟩ := List.cons.inj whole
    exact absurd rfl behind
  | [], n + 2 =>
    obtain ⟨-, rest⟩ := List.cons.inj (List.cons.inj whole).2
    have pairs := h [] n b rest (by simp) behind
    omega
  | [x], n =>
    obtain ⟨rfl, -⟩ := List.cons.inj whole
    exact absurd rfl before
  | x :: y :: a, n =>
    obtain ⟨-, rest⟩ := List.cons.inj (List.cons.inj whole).2
    refine h a n b rest (fun last => before ?_) behind
    rw [List.getLast?_cons, List.getLast?_cons, last]
    rfl

end HasEvenRuns

namespace Filter

variable {input s : List Char} {fault : QueryFault}

theorem evenRuns_of_unquote {s : List Char} (h : unquote s = none) : HasEvenRuns '\'' s := by
  fun_induction unquote s with
  | case1 => exact .nil
  | case2 s ih => exact .cons_pair (ih (Option.map_eq_none_iff.mp h))
  | case3 s single => cases h
  | case4 c s _ other ih => exact .cons_other other (ih (Option.map_eq_none_iff.mp h))

/-! ### The steps of the parser -/

theorem trimLeft_suffix (rest : s <:+ input) : trimLeft s <:+ input :=
  (List.dropWhile_suffix _).trans rest

/-- Where a field is expected no identifier stands. -/
theorem fieldExpected_points (rest : s <:+ input) (other : isIdentifierText (word s).1 = false) :
    (QueryFault.fieldExpected (offset input s)).PointsInto input := by
  refine ⟨s, standsAt_offset rest, ?_⟩
  rw [word, List.span_eq_takeWhile_dropWhile] at other
  rw [isIdentifier, String.toList_ofList]
  exact other

theorem quotedText_error (rest : s <:+ input) (h : quotedText input s = .error fault) :
    fault.PointsInto input := by
  have stands := standsAt_offset rest
  unfold quotedText at h
  split at h
  · split at h
    · cases h
    · next unclosed =>
      rw [← Except.error.inj h]
      exact ⟨_, stands, evenRuns_of_unquote unclosed⟩
  · next other =>
    rw [← Except.error.inj h]
    refine ⟨_, stands, fun quote => ?_⟩
    obtain ⟨t, rfl⟩ := List.head?_eq_some_iff.mp quote
    exact other t rfl

theorem fieldName_error (rest : s <:+ input) (h : fieldName input s = .error fault) :
    fault.PointsInto input := by
  unfold fieldName at h
  dsimp only at h
  split at h
  · cases h
  · next other =>
    rw [← Except.error.inj h]
    exact fieldExpected_points rest (Bool.eq_false_iff.mpr other)

theorem expect_error {c : Char} (rest : s <:+ input) (h : expect c input s = .error fault) :
    fault.PointsInto input := by
  have stands := standsAt_offset rest
  unfold expect at h
  split at h
  · rw [← Except.error.inj h]
    exact ⟨_, stands, by simp⟩
  · split at h
    · cases h
    · next other =>
      rw [← Except.error.inj h]
      exact ⟨_, stands, fun same => other (Option.some.inj same)⟩

theorem arguments_error {t : TextTest} (rest : s <:+ input)
    (h : arguments input t s = .error fault) : fault.PointsInto input := by
  unfold arguments at h
  rcases bind_error h with failed | ⟨⟨field, s₁⟩, named, h⟩
  · exact fieldName_error (trimLeft_suffix rest) failed
  obtain ⟨start, -, -⟩ := fieldName_iff.mp named
  have rest₁ : s₁ <:+ input := .trans ⟨_, start.symm⟩ (trimLeft_suffix rest)
  rcases bind_error h with failed | ⟨s₂, comma, h⟩
  · exact expect_error (trimLeft_suffix rest₁) failed
  have rest₂ : s₂ <:+ input :=
    .trans ⟨[','], (expect_iff.mp comma).symm⟩ (trimLeft_suffix rest₁)
  rcases bind_error h with failed | ⟨⟨value, s₃⟩, given, h⟩
  · exact quotedText_error (trimLeft_suffix rest₂) failed
  obtain ⟨form, -⟩ := quotedText_iff.mp given
  have rest₃ : s₃ <:+ input := .trans ⟨_, form.symm⟩ (trimLeft_suffix rest₂)
  rcases bind_error h with failed | ⟨s₄, close, h⟩
  · exact expect_error (trimLeft_suffix rest₃) failed
  · cases h

theorem comparedValue_error (rest : s <:+ input) (h : comparedValue input s = .error fault) :
    fault.PointsInto input := by
  unfold comparedValue at h
  split at h
  · rw [← Except.error.inj h]
    trivial
  · split at h
    · rcases bind_error h with failed | ⟨p, -, h⟩
      · exact quotedText_error rest failed
      · cases h
    · cases h

theorem comparison_error {field : String} (rest : s <:+ input)
    (h : comparison input field s = .error fault) : fault.PointsInto input := by
  unfold comparison at h
  cases read : word s with
  | mk w s₁ =>
    obtain ⟨rfl, -⟩ := word_iff.mp read
    simp only [read] at h
    rcases unless_error h with ⟨-, rfl⟩ | ⟨-, h⟩
    · trivial
    · split at h
      · next unknown =>
        rw [← Except.error.inj h]
        exact unknown
      · rcases bind_error h with failed | ⟨p, -, h⟩
        · exact comparedValue_error (trimLeft_suffix (.trans ⟨w, rfl⟩ rest)) failed
        · cases h

theorem predicate_error (rest : s <:+ input) (h : predicate input s = .error fault) :
    fault.PointsInto input := by
  have unnamed := fieldExpected_points rest
  unfold predicate at h
  cases read : word s with
  | mk head s₁ =>
    obtain ⟨start, -, -⟩ := word_iff.mp read
    have behind : trimLeft s₁ <:+ input := trimLeft_suffix (.trans ⟨head, start.symm⟩ rest)
    rw [read] at unnamed
    simp only [read] at h
    split at h
    · next missing =>
      rw [← Except.error.inj h]
      apply unnamed
      rw [List.isEmpty_iff.mp missing]
      rfl
    · split at h
      · next s₂ opened =>
        rw [opened] at behind
        split at h
        · exact arguments_error (.trans ⟨['('], rfl⟩ behind) h
        · next unknown =>
          rw [← Except.error.inj h]
          exact unknown
      · split at h
        · exact comparison_error behind h
        · next other =>
          rw [← Except.error.inj h]
          exact unnamed (Bool.eq_false_iff.mpr other)

theorem parse_error {s : String} (h : parse s = .error fault) : fault.PointsInto s.toList := by
  obtain ⟨a, u, ha, whole, trimmed, -⟩ := exists_trimLeft s.toList
  unfold parse at h
  simp only [trimmed] at h
  rcases unless_error h with ⟨none, rfl⟩ | ⟨-, h⟩
  · rw [List.isEmpty_iff.mp none, List.append_nil] at whole
    show Blanks s.toList
    rwa [whole]
  rcases bind_error h with failed | ⟨⟨p, rest⟩, read, ended⟩
  · exact predicate_error ⟨a, whole.symm⟩ failed
  obtain ⟨w, form, rfl, -⟩ := predicate_iff.mp read
  obtain ⟨b, t, hb, rfl, trimmed, visible⟩ := exists_trimLeft rest
  simp only [trimmed] at ended
  split at ended
  · cases ended
  · next more =>
    rw [← Except.error.inj ended]
    have accepted : parse (String.ofList (a ++ (w ++ b))) = .ok p :=
      parse_iff.mpr ⟨a, w, b, ha, form, hb, String.toList_ofList⟩
    refine ⟨fun empty => more ?_, ?_, a ++ (w ++ b), p, ?_, accepted⟩
    · rw [String.ofList_eq_empty_iff.mp empty]
      rfl
    · rwa [String.toList_ofList]
    · rw [String.toList_ofList, whole]
      simp only [List.append_assoc]

theorem exists_standsAt {place : Nat} (points : fault.PointsInto input)
    (told : fault.place? = some place) : ∃ r, StandsAt input place r := by
  cases fault with
  | fieldExpected | expected | stringExpected =>
    obtain rfl := Option.some.inj told
    obtain ⟨r, stands, -⟩ := points
    exact ⟨r, stands⟩
  | stringUnterminated =>
    obtain rfl := Option.some.inj told
    obtain ⟨r, stands, -⟩ := points
    exact ⟨_, stands⟩
  | empty | unknownFunction | unknownOperator | valueMissing | trailing | badOrder => cases told

/-- A fault in a filter points at what is wrong. The place that it tells is the start of a character
or the end of the text, and what stands there is not what was expected: not the character, no quote,
no identifier as far as letters, digits and `_` go on, or a quote behind which all quotes stand in
pairs. What is left over is not empty, starts with no white space, and stands behind a text that
writes a filter. -/
theorem faults_point {s : String} (h : parse s = .error fault) :
    fault.PointsInto s.toList ∧ ∀ place, fault.place? = some place →
      String.Pos.Raw.IsValid s ⟨place⟩ ∧ place ≤ s.utf8ByteSize := by
  have points := parse_error h
  refine ⟨points, fun place told => ?_⟩
  obtain ⟨r, stands⟩ := exists_standsAt points told
  exact ⟨stands.isValid, stands.isValid.le_utf8ByteSize⟩

theorem faults_point_open :
    parse "\u00a0name eq 'open''" = .error (.stringUnterminated 10) ∧
      (QueryFault.stringUnterminated 10).PointsInto "\u00a0name eq 'open''".toList ∧
      String.Pos.Raw.IsValid "\u00a0name eq 'open''" ⟨10⟩ := by
  have unread : parse "\u00a0name eq 'open''" = .error (.stringUnterminated 10) := by decide
  obtain ⟨points, valid⟩ := faults_point unread
  exact ⟨unread, points, (valid 10 rfl).1⟩

end Filter

end EntityEngine
