import EntityEngine.Text.Ascii
import EntityEngine.Text.Blank
import Mathlib.Data.List.TakeWhile

/-! Texts taken apart: into the parts between the occurrences of a character, and into the words
between white space. -/

namespace EntityEngine.Text

variable {s w : List Char}

/-! ### Parts -/

theorem splitAt_eq_splitOn (c : Char) (s : List Char) : splitAt c s = s.splitOn c := by
  induction s with
  | nil => rfl
  | cons d s ih =>
    rw [splitAt, ih, List.splitOn, List.splitOn, List.splitOnP_cons_eq_if_modifyHead]
    cases parts : List.splitOnP (· == c) s with
    | nil => exact absurd parts (List.splitOnP_ne_nil _ _)
    | cons part parts =>
      by_cases own : d = c
      · simp [own]
      · simp [own]

theorem not_mem_of_mem_splitAt {c : Char} : ∀ part ∈ splitAt c s, c ∉ part := by
  induction s with
  | nil => simp [splitAt]
  | cons d s ih =>
    rw [splitAt]
    split
    · rename_i none
      rw [splitAt_eq_splitOn] at none
      exact absurd none (List.splitOn_ne_nil c s)
    · rename_i part parts found
      rw [found, List.forall_mem_cons] at ih
      split
      · exact List.forall_mem_cons.mpr ⟨List.not_mem_nil, List.forall_mem_cons.mpr ih⟩
      · rename_i other
        refine List.forall_mem_cons.mpr ⟨fun hc => ?_, ih.2⟩
        rcases List.mem_cons.mp hc with rfl | hc
        · exact other rfl
        · exact ih.1 hc

/-- The parts of a text are those that make it up with the character between them, and do not have
it themselves. -/
theorem splitAt_iff {c : Char} {parts : List (List Char)} : splitAt c s = parts ↔
    parts ≠ [] ∧ (∀ part ∈ parts, c ∉ part) ∧ s = [c].intercalate parts := by
  constructor
  · rintro rfl
    refine ⟨?_, not_mem_of_mem_splitAt, ?_⟩
    · rw [splitAt_eq_splitOn]
      exact List.splitOn_ne_nil c s
    · rw [splitAt_eq_splitOn, List.intercalate_splitOn]
  · rintro ⟨some, apart, rfl⟩
    rw [splitAt_eq_splitOn, List.splitOn_intercalate c apart some]

/-! ### Words -/

theorem words_go_append (visible : ∀ c ∈ w, isBlank c = false) (before s : List Char) :
    words.go before (w ++ s) = words.go (w.reverse ++ before) s := by
  induction w generalizing before with
  | nil => rfl
  | cons c w ih =>
    obtain ⟨first, rest⟩ := List.forall_mem_cons.mp visible
    rw [List.cons_append, words.go, first, if_neg Bool.false_ne_true, ih rest, List.reverse_cons,
      List.append_assoc, List.singleton_append]

theorem words_blanks {a : List Char} (blanks : ∀ c ∈ a, isBlank c = true) (s : List Char) :
    words (a ++ s) = words s := by
  induction a with
  | nil => rfl
  | cons c a ih =>
    obtain ⟨first, rest⟩ := List.forall_mem_cons.mp blanks
    rw [List.cons_append, words, words.go, first, if_pos rfl, List.isEmpty_nil, if_pos rfl]
    exact ih rest

/-- A word goes on up to white space. -/
theorem words_word (some : w ≠ []) (visible : ∀ c ∈ w, isBlank c = false)
    (stop : ∀ c ∈ s.head?, isBlank c = true) : words (w ++ s) = w :: words s := by
  have filled : w.reverse.isEmpty = false := by simpa using some
  rw [words, words_go_append visible, List.append_nil]
  cases s with
  | nil => rw [words.go, filled, if_neg Bool.false_ne_true, List.reverse_reverse]; rfl
  | cons c s =>
    have blank := stop c rfl
    rw [words.go, blank, if_pos rfl, filled, if_neg Bool.false_ne_true, List.reverse_reverse, words,
      words.go, blank, if_pos rfl, List.isEmpty_nil, if_pos rfl]

/-- A text is white space, or there is a first word in it, with white space or nothing behind it. -/
theorem words_cases (s : List Char) : ((∀ c ∈ s, isBlank c = true) ∧ words s = []) ∨
    ∃ a w r, (∀ c ∈ a, isBlank c = true) ∧ w ≠ [] ∧ (∀ c ∈ w, isBlank c = false) ∧
      (∀ c ∈ r.head?, isBlank c = true) ∧ s = a ++ (w ++ r) ∧ words s = w :: words r := by
  have before : ∀ c ∈ s.takeWhile isBlank, isBlank c = true := fun c hc => List.mem_takeWhile_imp hc
  cases behind : s.dropWhile isBlank with
  | nil =>
    have all := List.dropWhile_eq_nil_iff.mp behind
    refine Or.inl ⟨all, ?_⟩
    rw [← List.append_nil s, words_blanks all]
    rfl
  | cons c u =>
    have first : isBlank c = false := by
      have start := List.head?_dropWhile_not isBlank s
      rw [behind] at start
      exact start
    have visible : ∀ d ∈ c :: u.takeWhile (fun d => !isBlank d), isBlank d = false :=
      List.forall_mem_cons.mpr ⟨first, fun d hd => by simpa using List.mem_takeWhile_imp hd⟩
    have stop : ∀ d ∈ (u.dropWhile fun d => !isBlank d).head?, isBlank d = true := by
      intro d hd
      have start := List.head?_dropWhile_not (fun d => !isBlank d) u
      rw [Option.mem_def.mp hd] at start
      simpa using start
    have whole : s = s.takeWhile isBlank ++
        (c :: u.takeWhile (fun d => !isBlank d) ++ u.dropWhile fun d => !isBlank d) := by
      rw [List.cons_append, List.takeWhile_append_dropWhile, ← behind,
        List.takeWhile_append_dropWhile]
    refine Or.inr ⟨_, _, _, before, List.cons_ne_nil _ _, visible, stop, whole, ?_⟩
    conv => lhs; rw [whole]
    rw [words_blanks before, words_word (List.cons_ne_nil _ _) visible stop]

theorem words_nil_iff : words s = [] ↔ ∀ c ∈ s, isBlank c = true := by
  rcases words_cases s with ⟨all, none⟩ | ⟨a, w, r, -, some, visible, -, rfl, first⟩
  · exact ⟨fun _ => all, fun _ => none⟩
  · obtain ⟨c, u, rfl⟩ := List.exists_cons_of_ne_nil some
    rw [first]
    refine ⟨fun none => (nomatch none), fun all => ?_⟩
    have blank := all c (by simp)
    rw [visible c List.mem_cons_self] at blank
    cases blank

theorem words_cons_iff {ws : List (List Char)} : words s = w :: ws ↔
    ∃ a r, (∀ c ∈ a, isBlank c = true) ∧ w ≠ [] ∧ (∀ c ∈ w, isBlank c = false) ∧
      (∀ c ∈ r.head?, isBlank c = true) ∧ s = a ++ (w ++ r) ∧ words r = ws := by
  constructor
  · intro read
    rcases words_cases s with ⟨-, none⟩ | ⟨a, v, r, blanks, some, visible, stop, whole, first⟩
    · rw [none] at read
      cases read
    · obtain ⟨rfl, rest⟩ := List.cons.inj (first.symm.trans read)
      exact ⟨a, r, blanks, some, visible, stop, whole, rest⟩
  · rintro ⟨a, r, blanks, some, visible, stop, rfl, rest⟩
    rw [words_blanks blanks, words_word some visible stop, rest]

end EntityEngine.Text
