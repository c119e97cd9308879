import EntityEngine.Sql.Like
import Mathlib.Data.List.Infix

/-! Patterns part by part: wildcards, and characters that stand for themselves. An escape character
makes the one behind it stand for itself, and a pattern that ends in an escape has no parts. A text
matches a pattern if it is made up of what the parts stand for, one after the other. -/

namespace EntityEngine.Sql

/-- A part of a pattern. -/
inductive PatternPart where
  /-- Any run of characters. -/
  | run
  /-- Any one character. -/
  | one
  | literal (c : Char)
  deriving Repr, DecidableEq

/-- The parts of a pattern; none if an escape is left over at its end. -/
def patternParts? : List Char → Option (List PatternPart)
  | [] => some []
  | '%' :: p => (patternParts? p).map (.run :: ·)
  | '_' :: p => (patternParts? p).map (.one :: ·)
  | '\\' :: d :: p => (patternParts? p).map (.literal d :: ·)
  | ['\\'] => none
  | d :: p => (patternParts? p).map (.literal d :: ·)

/-- The text is made up of what the parts stand for. -/
inductive Matches : List PatternPart → List Char → Prop
  | nil : Matches [] []
  | run {parts : List PatternPart} {s : List Char} (r : List Char) :
      Matches parts s → Matches (.run :: parts) (r ++ s)
  | one {parts : List PatternPart} {s : List Char} (c : Char) :
      Matches parts s → Matches (.one :: parts) (c :: s)
  | literal {parts : List PatternPart} {s : List Char} {d c : Char} :
      sameLetter d c = true → Matches parts s → Matches (.literal d :: parts) (c :: s)

variable {parts : List PatternPart} {p s v : List Char} {d c : Char}

/-! ### One part after the other -/

@[simp] theorem matches_nil : Matches [] s ↔ s = [] := by
  constructor
  · rintro ⟨⟩
    rfl
  · rintro rfl
    exact .nil

/-- A run may leave any end of the text to the other parts. -/
theorem matches_run : Matches (.run :: parts) s ↔ ∃ rest, rest <:+ s ∧ Matches parts rest := by
  constructor
  · rintro ⟨⟩
    rename_i rest r matched
    exact ⟨rest, List.suffix_append r rest, matched⟩
  · rintro ⟨rest, ⟨r, rfl⟩, matched⟩
    exact .run r matched

@[simp] theorem matches_run_nil : Matches (.run :: parts) [] ↔ Matches parts [] := by
  simp [matches_run]

@[simp] theorem matches_run_cons :
    Matches (.run :: parts) (c :: s) ↔ Matches parts (c :: s) ∨ Matches (.run :: parts) s := by
  simp only [matches_run, List.suffix_cons_iff, or_and_right, exists_or, exists_eq_left]

@[simp] theorem not_matches_one_nil : ¬ Matches (.one :: parts) [] := nofun

@[simp] theorem matches_one_cons : Matches (.one :: parts) (c :: s) ↔ Matches parts s := by
  constructor
  · rintro ⟨⟩
    assumption
  · exact .one c

@[simp] theorem not_matches_literal_nil : ¬ Matches (.literal d :: parts) [] := nofun

@[simp] theorem matches_literal_cons :
    Matches (.literal d :: parts) (c :: s) ↔ sameLetter d c = true ∧ Matches parts s := by
  constructor
  · rintro ⟨⟩
    exact ⟨‹_›, ‹_›⟩
  · exact fun ⟨same, matched⟩ => .literal same matched

/-- A character that has no meaning in patterns stands for itself. -/
theorem patternParts?_plain (run : d ≠ '%') (one : d ≠ '_') (escape : d ≠ '\\') (p : List Char) :
    patternParts? (d :: p) = (patternParts? p).map (.literal d :: ·) := by
  rw [patternParts?]
  · exact run
  · exact one
  · exact fun _ _ same _ => escape same
  · exact fun same _ => escape same

/-- A text is matched exactly if the pattern has parts that the text is made up of. -/
theorem matchesPattern_iff :
    matchesPattern p s = true ↔ ∃ parts, patternParts? p = some parts ∧ Matches parts s := by
  fun_induction matchesPattern p s with
  | case1 s => simp [patternParts?]
  | case2 p ih => simp [patternParts?, ih]
  | case3 p c s rest others => simp [patternParts?, rest, others, and_or_left, exists_or]
  | case4 p => simp [patternParts?]
  | case5 p c s ih => simp [patternParts?, ih]
  | case6 d p c s ih =>
    simp only [Bool.and_eq_true, ih, patternParts?, Option.map_eq_some_iff]
    grind [matches_literal_cons]
  | case7 s p short =>
    -- An escape at the end of the pattern, or at the end of the text.
    cases p with
    | nil => simp [patternParts?]
    | cons d p =>
      cases s with
      | nil => simp [patternParts?]
      | cons c s => exact (short d p c s rfl rfl).elim
  | case8 d p run one escape => simp [patternParts?_plain run one escape]
  | case9 d p c s run one _ escape ih =>
    simp only [Bool.and_eq_true, ih, patternParts?_plain run one escape, Option.map_eq_some_iff]
    grind [matches_literal_cons]

/-! ### Characters that stand for themselves -/

/-- A character as patterns tell it from others: the case of an ASCII letter is left aside. -/
def folded (c : Char) : Char := (patternChar c).toLower

theorem sameLetter_iff : sameLetter d c = true ↔ folded d = folded c := beq_iff_eq

theorem matches_literals_append : Matches (v.map .literal ++ parts) s ↔
    ∃ own rest, s = own ++ rest ∧ v.map folded = own.map folded ∧ Matches parts rest := by
  induction v generalizing s with
  | nil => simp
  | cons d v ih =>
    cases s with
    | nil => simp
    | cons c s =>
      simp only [List.map_cons, List.cons_append, matches_literal_cons, sameLetter_iff, ih]
      constructor
      · rintro ⟨same, own, rest, rfl, equal, matched⟩
        exact ⟨c :: own, rest, rfl, by simp [same, equal], matched⟩
      · rintro ⟨own, rest, split, equal, matched⟩
        obtain ⟨c', own, rfl⟩ := List.exists_cons_of_ne_nil (l := own) (by rintro rfl; cases equal)
        simp only [List.map_cons, List.cons.injEq, List.cons_append] at split equal
        obtain ⟨rfl, rfl⟩ := split
        exact ⟨equal.1, own, rest, rfl, equal.2, matched⟩

theorem matches_literals : Matches (v.map .literal) s ↔ v.map folded = s.map folded := by
  have alone : Matches (v.map .literal ++ []) s ↔ _ := matches_literals_append
  simpa using alone

end EntityEngine.Sql
