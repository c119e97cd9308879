import EntityEngine.Proofs.Sql.Pattern
import EntityEngine.Proofs.Sql.Whole
import EntityEngine.Query.Plan
import EntityEngine.Sql.Evaluation

/-! Tests of a part of a text. A filter asks for the texts that contain a value, start with it or end
with it by a pattern in which every character of the value stands for itself, so that wildcards and
escapes in the value have no meaning. -/

namespace EntityEngine

open Sql Text

namespace TextTest

/-- A value stands in a text where the test looks for it. -/
def Finds : TextTest → (value text : List Char) → Prop
  | contains, v, s => v <:+: s
  | startsWith, v, s => v <+: s
  | endsWith, v, s => v <:+ s

instance : (t : TextTest) → (v s : List Char) → Decidable (t.Finds v s)
  | contains, v, s => inferInstanceAs (Decidable (v <:+: s))
  | startsWith, v, s => inferInstanceAs (Decidable (v <+: s))
  | endsWith, v, s => inferInstanceAs (Decidable (v <:+ s))

/-- The parts of the pattern for a value. -/
def parts (t : TextTest) (v : List Char) : List PatternPart :=
  match t with
  | contains => .run :: (v.map .literal ++ [.run])
  | startsWith => v.map .literal ++ [.run]
  | endsWith => .run :: v.map .literal

/-- How many wildcards the pattern has. -/
def wildcards : TextTest → Nat
  | contains => 2
  | startsWith | endsWith => 1

variable {t : TextTest} {v s p : List Char}

/-! ### The pattern of a value -/

theorem patternParts?_literalPattern_append : patternParts? (literalPattern v ++ p) =
    (patternParts? p).map (v.map .literal ++ ·) := by
  induction v with
  | nil => simp [literalPattern]
  | cons c v ih =>
    have rest : literalPattern (c :: v) ++ p = (if isPatternChar c then ['\\', c] else [c]) ++
        (literalPattern v ++ p) := by
      simp [literalPattern]
    rw [rest]
    by_cases special : isPatternChar c = true
    · rw [if_pos special]
      simp [patternParts?, ih, Function.comp_def]
    · rw [if_neg special]
      simp only [isPatternChar, Bool.or_eq_true, beq_iff_eq, not_or] at special
      obtain ⟨⟨run, one⟩, escape⟩ := special
      simp [patternParts?_plain run one escape, ih, Function.comp_def]

/-- Every character of the value stands for itself, and no escape is left over. -/
theorem patternParts?_patternChars (t : TextTest) (v : List Char) :
    patternParts? (t.patternChars v) = some (t.parts v) := by
  have alone := patternParts?_literalPattern_append (v := v) (p := [])
  rw [List.append_nil] at alone
  cases t with
  | contains => simp [patternChars, parts, patternParts?, patternParts?_literalPattern_append]
  | startsWith => simp [patternChars, parts, patternParts?, patternParts?_literalPattern_append]
  | endsWith => simp [patternChars, parts, patternParts?, alone]

theorem isWhole_patternChars (whole : IsWhole v) : IsWhole (t.patternChars v) := by
  have literal : IsWhole (literalPattern v) := by
    intro c hc
    obtain ⟨d, hd, own⟩ := List.mem_flatMap.mp hc
    split at own
    · rcases List.mem_pair.mp own with rfl | rfl
      · decide
      · exact whole c hd
    · rw [List.mem_singleton.mp own]
      exact whole d hd
  cases t <;> simp [patternChars, literal]

theorem byteLength_literalPattern (v : List Char) :
    byteLength (literalPattern v) = byteLength v + v.countP isPatternChar := by
  induction v with
  | nil => rfl
  | cons c v ih =>
    have rest : literalPattern (c :: v) = (if isPatternChar c then ['\\', c] else [c]) ++
        literalPattern v := by
      simp [literalPattern]
    have escape : '\\'.utf8Size = 1 := by decide
    rw [rest, byteLength_append, ih, byteLength, List.countP_cons]
    split
    · simp only [byteLength, escape]
      omega
    · simp only [byteLength]
      omega

theorem byteLength_patternChars (t : TextTest) (v : List Char) :
    byteLength (t.patternChars v) = byteLength v + v.countP isPatternChar + t.wildcards := by
  have wildcard : '%'.utf8Size = 1 := by decide
  cases t <;>
    simp only [patternChars, byteLength, byteLength_append, byteLength_literalPattern, wildcard,
      wildcards] <;> omega

/-! ### The texts that it matches -/

theorem matches_parts : Matches (t.parts v) s ↔ t.Finds (v.map folded) (s.map folded) := by
  -- A run at the end takes whatever is left.
  have any (s : List Char) : Matches [.run] s := by simpa using Matches.run s .nil
  have start (s : List Char) :
      Matches (v.map .literal ++ [.run]) s ↔ v.map folded <+: s.map folded := by
    rw [matches_literals_append]
    constructor
    · rintro ⟨own, rest, rfl, equal, -⟩
      rw [equal, List.map_append]
      exact List.prefix_append _ _
    · rintro ⟨after, split⟩
      obtain ⟨own, rest, rfl, equal, -⟩ := List.map_eq_append_iff.mp split.symm
      exact ⟨own, rest, rfl, equal.symm, any rest⟩
  cases t with
  | startsWith => exact start s
  | contains =>
    show Matches (.run :: (v.map .literal ++ [.run])) s ↔ v.map folded <:+: s.map folded
    simp only [matches_run, start, List.infix_iff_prefix_suffix]
    constructor
    · rintro ⟨rest, behind, found⟩
      exact ⟨_, found, behind.map folded⟩
    · rintro ⟨u, found, before, split⟩
      obtain ⟨a, rest, rfl, -, rfl⟩ := List.map_eq_append_iff.mp split.symm
      exact ⟨rest, List.suffix_append a rest, found⟩
  | endsWith =>
    show Matches (.run :: v.map .literal) s ↔ v.map folded <:+ s.map folded
    simp only [matches_run, matches_literals]
    constructor
    · rintro ⟨rest, behind, equal⟩
      rw [equal]
      exact behind.map folded
    · rintro ⟨before, split⟩
      obtain ⟨a, rest, rfl, -, equal⟩ := List.map_eq_append_iff.mp split.symm
      exact ⟨rest, List.suffix_append a rest, equal.symm⟩

/-- A text is like the pattern of a value exactly if the value stands where the test looks for it. -/
theorem isLike_pattern {value text : String} (whole : IsWhole value.toList)
    (wholeText : IsWhole text.toList) : isLike text (t.pattern value) = true ↔
      t.Finds (value.toList.map folded) (text.toList.map folded) := by
  have pattern : (t.pattern value).toList = t.patternChars value.toList := String.toList_ofList
  rw [isLike, pattern, (isWhole_patternChars whole).untilNull, wholeText.untilNull,
    matchesPattern_iff, patternParts?_patternChars]
  simp [matches_parts]

end TextTest

/-- Two characters apart, patterns compare characters up to the case of ASCII letters. -/
theorem Sql.folded_eq {c : Char} (own : patternChar c = c) : folded c = c.toLower := by
  rw [folded, own]

/-- What a test of a part of a text asks, of documents and of tables alike. It is answered unless the
value has too many bytes, each wildcard and escape in it counted twice. Its pattern has the
characters of the value between its own wildcards, each standing for itself, and no escape is left
over. It holds for a text exactly if the value stands where the test looks for it, the case of ASCII
letters apart, and apart from the two last characters of the plane of 16 bits, which patterns take
for U+FFFD. -/
theorem text_test_is_literal (t : TextTest) (field : String) {value text : String}
    (whole : IsWhole value.toList) (wholeText : IsWhole text.toList) {row : Reader}
    {operand : Operand} (stored : (row operand).value = .text text) :
    let asked := Query.columnCondition operand (.test field t value)
    Query.documentCondition operand (.test field t value) = asked ∧
    (asked.isTooLong = true ↔ Condition.maxPatternLength <
      byteLength value.toList + value.toList.countP TextTest.isPatternChar + t.wildcards) ∧
    patternParts? (t.pattern value).toList = some (t.parts value.toList) ∧
    (asked.holds row = true ↔ t.Finds (value.toList.map folded) (text.toList.map folded)) ∧
    ((∀ c ∈ value.toList ++ text.toList, patternChar c = c) → (asked.holds row = true ↔
      t.Finds (value.toList.map Char.toLower) (text.toList.map Char.toLower))) := by
  intro asked
  have pattern : (t.pattern value).toList = t.patternChars value.toList := String.toList_ofList
  have holds : asked.holds row = true ↔
      t.Finds (value.toList.map folded) (text.toList.map folded) := by
    have like : asked.holds row = isLike text (t.pattern value) := by
      show (row operand).value.isLike (t.pattern value) = _
      rw [stored]
      rfl
    rw [like, TextTest.isLike_pattern whole wholeText]
  refine ⟨rfl, ?_, ?_, holds, fun plain => ?_⟩
  · have long : asked.isTooLong = decide (Condition.maxPatternLength <
        byteLength (t.pattern value).toList) := rfl
    rw [long, decide_eq_true_iff, pattern, TextTest.byteLength_patternChars]
  · rw [pattern, TextTest.patternParts?_patternChars]
  · have same (s : List Char) (mem : ∀ c ∈ s, patternChar c = c) :
        s.map folded = s.map Char.toLower :=
      List.map_congr_left fun c hc => folded_eq (mem c hc)
    rw [List.forall_mem_append] at plain
    rw [holds, same _ plain.1, same _ plain.2]

/-- A percent sign in the value is looked for as such. -/
theorem text_test_is_literal_percent :
    let asked := Query.columnCondition (.column "note") (.test "note" .contains "5%_")
    asked.isTooLong = false ∧
      asked.holds (fun _ => { value := .text "At 5%_ OFF" }) = true ∧
      asked.holds (fun _ => { value := .text "At 55 OFF" }) = false := by
  have whole : ∀ text ∈ ["5%_", "At 5%_ OFF", "At 55 OFF"], IsWhole text.toList := by
    simp [isWhole_iff_all]
  obtain ⟨-, long, -, found, -⟩ := @text_test_is_literal .contains "note" "5%_" "At 5%_ OFF"
    (whole _ (by simp)) (whole _ (by simp)) (fun _ => { value := .text "At 5%_ OFF" })
    (.column "note") rfl
  obtain ⟨-, -, -, missed, -⟩ := @text_test_is_literal .contains "note" "5%_" "At 55 OFF"
    (whole _ (by simp)) (whole _ (by simp)) (fun _ => { value := .text "At 55 OFF" })
    (.column "note") rfl
  refine ⟨?_, found.mpr (by decide), ?_⟩
  · rw [← Bool.not_eq_true, long]
    decide
  · rw [← Bool.not_eq_true, missed]
    decide

/-- Patterns take U+FFFE for U+FFFD, so that a test finds what does not stand there. -/
theorem noncharacter_found :
    (Query.columnCondition (.column "s") (.test "s" .contains "\uFFFE")).holds
        (fun _ => { value := .text "\uFFFD" }) = true ∧
      ¬ TextTest.contains.Finds ("\uFFFE".toList.map Char.toLower)
        ("\uFFFD".toList.map Char.toLower) := by
  refine ⟨?_, by decide⟩
  show isLike "\uFFFD" (TextTest.contains.pattern "\uFFFE") = true
  rw [TextTest.isLike_pattern (by simp [isWhole_iff_all]) (by simp [isWhole_iff_all])]
  decide

end EntityEngine
