import EntityEngine.Proofs.Sql.Lexing
import Mathlib.Data.List.Find

/-! What the first token of a piece of text depends on. In front of a blank, a comma or a closing
parenthesis most tokens end with the piece at the latest, and are the same whatever follows. The
others go on behind the piece: blanks, comments that are not ended, and quotes that are not
closed. -/

namespace EntityEngine.Sql.Token

open Number

variable {x v : List Char}

/-! ### What stands behind a piece -/

theorem Parts.head_ne {d : Char} (h : Parts v)
    (other : d ≠ ' ' ∧ d ≠ ',' ∧ d ≠ '\n' ∧ d ≠ ')') : v.head? ≠ some d := by
  obtain ⟨c, r, rfl, sep⟩ := h
  intro eq
  obtain rfl : c = d := Option.some.inj eq
  obtain ⟨space, comma, line, closing⟩ := other
  rcases sep with rfl | rfl | rfl | rfl
  · exact space rfl
  · exact comma rfl
  · exact line rfl
  · exact closing rfl

theorem Parts.head_append {d : Char} (h : Parts v)
    (other : d ≠ ' ' ∧ d ≠ ',' ∧ d ≠ '\n' ∧ d ≠ ')') (x : List Char) :
    (x ++ v).head? = some d ↔ x.head? = some d := by
  cases x with
  | nil => simp [h.head_ne other]
  | cons c r => simp

theorem Parts.any_append {p : Char → Bool} (h : Parts v) (stop : ∀ c ∈ v.head?, p c = false)
    (x : List Char) : (x ++ v).head?.any p = x.head?.any p := by
  cases x with
  | nil =>
    obtain ⟨c, r, rfl, -⟩ := h
    simp [stop c rfl]
  | cons c r => rfl

theorem Parts.length_pos (h : Parts v) : 0 < v.length := by
  obtain ⟨c, r, rfl, -⟩ := h
  simp

theorem Parts.stops {p : Char → Bool} (h : Parts v)
    (none : p ' ' = false ∧ p ',' = false ∧ p '\n' = false ∧ p ')' = false) :
    ∀ c ∈ v.head?, p c = false := by
  obtain ⟨c, r, rfl, sep⟩ := h
  intro d hd
  obtain rfl : c = d := Option.some.inj hd
  rcases sep with rfl | rfl | rfl | rfl
  · exact none.1
  · exact none.2.1
  · exact none.2.2.1
  · exact none.2.2.2

/-- What a piece starts does not depend on what stands behind it. -/
theorem startOf_append {u : List Char} (hu : Parts u) (hv : Parts v) (c : Char) (x : List Char) :
    startOf c (x ++ u) = startOf c (x ++ v) := by
  have block : ∀ w, Parts w → ((x ++ w).head? = some '*' ∧ 1 < (x ++ w).length ↔
      x.head? = some '*') := by
    intro w hw
    rw [hw.head_append (by decide)]
    refine and_iff_left_of_imp fun star => ?_
    have pos := hw.length_pos
    have some : 0 < x.length := by
      cases x with
      | nil => cases star
      | cons d r => simp
    rw [List.length_append]
    omega
  have digit : ∀ w, Parts w → (x ++ w).head?.any Char.isDigit = x.head?.any Char.isDigit :=
    fun w hw => hw.any_append (hw.stops (by decide)) x
  unfold startOf
  simp only [block u hu, block v hv, digit u hu, digit v hv,
    hu.head_append (d := '-') (by decide), hv.head_append (d := '-') (by decide),
    hu.head_append (d := '\'') (by decide), hv.head_append (d := '\'') (by decide)]

/-! ### Where a token ends -/

/-- Characters of one kind end within a piece, or all of it is of that kind. -/
theorem takeWhile_cases (p : Char → Bool) (x : List Char) :
    (∃ n < x.length, ∀ v, (x ++ v).takeWhile p = x.take n) ∨
      ∀ v, (x ++ v).takeWhile p = x ++ v.takeWhile p ∧ (x ++ v).dropWhile p = v.dropWhile p := by
  induction x with
  | nil => exact Or.inr fun v => ⟨rfl, rfl⟩
  | cons c x ih =>
    cases h : p c with
    | false => exact Or.inl ⟨0, by simp, fun v => by simp [h]⟩
    | true =>
      rcases ih with ⟨n, less, taken⟩ | all
      · refine Or.inl ⟨n + 1, by simpa using less, fun v => ?_⟩
        simp [h, taken v]
      · refine Or.inr fun v => ?_
        simp [h, (all v).1, (all v).2]

/-- A quote is closed within a piece, or it is not closed there. -/
theorem scanQuoted_cases (q : Char) (x : List Char) :
    (∃ value n, n ≤ x.length ∧ ∀ v, v.head? ≠ some q → scanQuoted q (x ++ v) = some (value, n)) ∨
      ∀ v, q ∉ v → scanQuoted q (x ++ v) = none := by
  have none : ∀ v, q ∉ v → scanQuoted q v = none := by
    intro v absent
    fun_induction scanQuoted q v with
    | case1 => rfl
    | case2 => simp at absent
    | case3 => rfl
    | case4 => simp at absent
    | case5 => simp at absent
    | case6 c d r ne ih => rw [ih fun mem => absent (List.mem_cons_of_mem _ mem)]; rfl
  fun_induction scanQuoted q x with
  | case1 => exact Or.inr none
  | case2 =>
    refine Or.inl ⟨[], 1, by simp, fun v other => ?_⟩
    cases v with
    | nil => simp [scanQuoted]
    | cons d r =>
      have ne : d ≠ q := fun eq => other (by rw [eq]; rfl)
      simp [scanQuoted, ne]
  | case3 c ne =>
    refine Or.inr fun v absent => ?_
    cases v with
    | nil => simp [scanQuoted, ne]
    | cons d r =>
      have later := none (d :: r) absent
      simp [scanQuoted, ne, later]
  | case4 r ih =>
    rcases ih with ⟨value, n, le, closed⟩ | opened
    · refine Or.inl ⟨q :: value, n + 2, by simpa using le, fun v other => ?_⟩
      simp [scanQuoted, closed v other]
    · refine Or.inr fun v absent => ?_
      simp [scanQuoted, opened v absent]
  | case5 d r ne =>
    refine Or.inl ⟨[], 1, by simp, fun v _ => ?_⟩
    simp [scanQuoted, ne]
  | case6 c d r ne ih =>
    rcases ih with ⟨value, n, le, closed⟩ | opened
    · refine Or.inl ⟨c :: value, n + 1, by simpa using le, fun v other => ?_⟩
      have later := closed v other
      rw [List.cons_append] at later
      simp [scanQuoted, ne, later]
    · refine Or.inr fun v absent => ?_
      have later := opened v absent
      rw [List.cons_append] at later
      simp [scanQuoted, ne, later]

theorem commentLength_cons (c : Char) (r : List Char) : commentLength (c :: r) =
    if c = '*' ∧ r.head? = some '/' then 2 else commentLength r + 1 := by
  by_cases ends : c = '*' ∧ r.head? = some '/'
  · rw [if_pos ends]
    obtain ⟨rfl, slash⟩ := ends
    cases r with
    | nil => cases slash
    | cons d r =>
      obtain rfl : d = '/' := Option.some.inj slash
      rfl
  · rw [if_neg ends, commentLength]
    rintro t rfl rfl
    exact ends ⟨rfl, rfl⟩

/-- A comment ends within a piece, or it does not end there. -/
theorem commentLength_cases (x : List Char) :
    (∃ n, 0 < n ∧ n ≤ x.length ∧ ∀ v, commentLength (x ++ v) = n) ∨
      ∀ v, v.head? ≠ some '/' → commentLength (x ++ v) = x.length + commentLength v := by
  induction x with
  | nil => exact Or.inr fun v _ => by simp
  | cons c r ih =>
    by_cases ends : c = '*' ∧ r.head? = some '/'
    · cases r with
      | nil => cases ends.2
      | cons d r =>
        refine Or.inl ⟨2, by simp, by simp, fun v => ?_⟩
        rw [List.cons_append, commentLength_cons, if_pos ⟨ends.1, ends.2⟩]
    · rcases ih with ⟨n, pos, le, closed⟩ | opened
      · cases r with
        | nil =>
          rw [List.length_nil] at le
          omega
        | cons d r =>
          refine Or.inl ⟨n + 1, by omega, by simpa using le, fun v => ?_⟩
          have later : ¬ (c = '*' ∧ (d :: r ++ v).head? = some '/') := ends
          rw [List.cons_append, commentLength_cons, if_neg later, closed v]
      · refine Or.inr fun v other => ?_
        have later : ¬ (c = '*' ∧ (r ++ v).head? = some '/') := by
          rintro ⟨star, slash⟩
          cases r with
          | nil => exact other slash
          | cons d r => exact ends ⟨star, slash⟩
        rw [List.cons_append, commentLength_cons, if_neg later, opened v other, List.length_cons]
        omega

/-! ### The first token of a piece -/

/-- How far the first token of a piece of text reaches. -/
inductive Reach (s : List Char) : Prop
  /-- It ends with the piece at the latest. -/
  | own (t : Token) (r : List Char) (cut : t.raw ++ r = s) (takes : t.raw ≠ [])
      (next : ∀ v, Parts v → next? (s ++ v) = some (t, r ++ v))
  /-- There are only blanks. -/
  | blank (all : s.all isBlankChar = true)
  /-- A comment goes on to the end of its line. -/
  | line (next : ∀ v, Parts v → next? (s ++ v) =
      some (⟨.comment, s ++ v.takeWhile (· ≠ '\n')⟩, v.dropWhile (· ≠ '\n')))
  /-- What is not ended takes all that follows, or is no token. -/
  | broken (next : ∀ v, v = [' '] ∨ v = ['\n', ')'] → ∃ t r, next? (s ++ v) = some (t, r) ∧
      (t.kind = .illegal ∨ (t.kind = .comment ∧ r = [])))

namespace Reach

variable {c : Char} {r : List Char}

theorem of_head (kind : TokenKind) {n : Nat} (pos : 0 < n) (le : n ≤ (c :: r).length)
    (h : ∀ v, Parts v → first c (r ++ v) = head kind n (c :: r ++ v)) : Reach (c :: r) := by
  refine .own ⟨kind, (c :: r).take n⟩ ((c :: r).drop n) (List.take_append_drop n _) ?_ ?_
  · obtain ⟨m, rfl⟩ : ∃ m, n = m + 1 := ⟨n - 1, by omega⟩
    simp
  · intro v hv
    show some (first c (r ++ v)) = _
    rw [h v hv, head, List.take_append_of_le_length le, List.drop_append_of_le_length le]

theorem parts_space : Parts [' '] := ⟨' ', [], rfl, Or.inl rfl⟩

theorem parts_closing : Parts ['\n', ')'] := ⟨'\n', [')'], rfl, Or.inr (Or.inr (Or.inl rfl))⟩

theorem of_illegal (h : ∀ v, v = [' '] ∨ v = ['\n', ')'] →
    ∃ n, first c (r ++ v) = head .illegal n (c :: r ++ v)) : Reach (c :: r) := by
  refine .broken fun v hv => ?_
  obtain ⟨n, eq⟩ := h v hv
  exact ⟨_, _, congrArg some eq, Or.inl rfl⟩

theorem of_quoted {kind : List Char → TokenKind} (quote : c ∉ [' ', ',', '\n', ')'])
    (h : ∀ v, Parts v → first c (r ++ v) = quoted c kind (c :: r ++ v)) : Reach (c :: r) := by
  simp only [List.mem_cons, List.not_mem_nil, or_false, not_or] at quote
  rcases scanQuoted_cases c r with ⟨value, n, le, closed⟩ | opened
  · refine of_head (kind value) (n := n + 1) (by omega) (by simpa using le) ?_
    intro v hv
    rw [h v hv, List.cons_append, quoted, List.drop_one, List.tail_cons, closed v (hv.head_ne quote)]
  · refine of_illegal fun v hv => ⟨(c :: r ++ v).length, ?_⟩
    have parts : Parts v := by
      rcases hv with rfl | rfl
      · exact parts_space
      · exact parts_closing
    have absent : c ∉ v := by
      rcases hv with rfl | rfl <;> simp [quote]
    rw [h v parts, List.cons_append, quoted, List.drop_one, List.tail_cons, opened v absent]

theorem head_takeWhile (kind : TokenKind) (p : Char → Bool) (s : List Char) :
    head kind (s.takeWhile p).length s = (⟨kind, s.takeWhile p⟩, s.dropWhile p) := by
  have parts : s.takeWhile p ++ s.dropWhile p = s := List.takeWhile_append_dropWhile
  have taken : s.take (s.takeWhile p).length = s.takeWhile p := by
    rw [← congrArg (List.take (s.takeWhile p).length) parts, List.take_left]
  have dropped : s.drop (s.takeWhile p).length = s.dropWhile p := by
    rw [← congrArg (List.drop (s.takeWhile p).length) parts, List.drop_left]
  rw [head, taken, dropped]

/-- Characters of one kind that end within the piece. -/
theorem of_takeWhile {kind : TokenKind} {p : Char → Bool} {n : Nat} (holds : p c = true)
    (taken : ∀ v, Parts v → (c :: r ++ v).takeWhile p = (c :: r).take n) (le : n ≤ (c :: r).length)
    (h : ∀ v, Parts v → first c (r ++ v) =
      head kind ((c :: r ++ v).takeWhile p).length (c :: r ++ v)) : Reach (c :: r) := by
  refine of_head kind (n := n) ?_ le fun v hv => ?_
  · have first := taken [' '] parts_space
    cases n with
    | zero => simp [holds] at first
    | succ n => omega
  · rw [h v hv, taken v hv, List.length_take_of_le le]

theorem of_blank (blank : isBlankChar c = true) (h : ∀ v, Parts v →
    first c (r ++ v) = head .blank ((c :: r ++ v).takeWhile isBlankChar).length (c :: r ++ v)) :
    Reach (c :: r) := by
  rcases takeWhile_cases isBlankChar (c :: r) with ⟨n, less, taken⟩ | all
  · exact of_takeWhile blank (fun v _ => taken v) (Nat.le_of_lt less) h
  · refine .blank ?_
    have whole := (all []).1
    rw [List.append_nil, List.takeWhile_nil, List.append_nil] at whole
    exact List.all_eq_true.mpr (List.takeWhile_eq_self_iff.mp whole)

theorem of_line (dash : c = '-') (h : ∀ v, Parts v → first c (r ++ v) =
    head .comment ((c :: r ++ v).takeWhile (· ≠ '\n')).length (c :: r ++ v)) :
    Reach (c :: r) := by
  rcases takeWhile_cases (· ≠ '\n') (c :: r) with ⟨n, less, taken⟩ | all
  · have other : decide (c ≠ '\n') = true := by
      rw [dash]
      decide
    exact of_takeWhile other (fun v _ => taken v) (Nat.le_of_lt less) h
  · refine .line fun v hv => ?_
    show some (first c (r ++ v)) = _
    rw [h v hv, head_takeWhile, (all v).1, (all v).2]

theorem of_bracket (h : ∀ v, Parts v → first c (r ++ v) = bracketToken (c :: r ++ v)) :
    Reach (c :: r) := by
  rcases takeWhile_cases (· ≠ ']') r with ⟨n, less, taken⟩ | all
  · refine of_head (.name (r.take n)) (n := n + 2) (by omega) ?_ fun v hv => ?_
    · rw [List.length_cons]
      omega
    · have inner : ((c :: r ++ v).drop 1).takeWhile (· ≠ ']') = r.take n := taken v
      have length : (r.take n).length = n := List.length_take_of_le (Nat.le_of_lt less)
      have short : n < ((c :: r ++ v).drop 1).length := by
        simp only [List.cons_append, List.drop_one, List.tail_cons, List.length_append]
        omega
      rw [h v hv, bracketToken]
      simp only [inner, length]
      rw [if_pos short]
  · refine of_illegal fun v hv => ⟨(c :: r ++ v).length, ?_⟩
    have parts : Parts v := by
      rcases hv with rfl | rfl
      · exact parts_space
      · exact parts_closing
    have open_ : v.takeWhile (· ≠ ']') = v := by
      rcases hv with rfl | rfl <;> rfl
    have inner : ((c :: r ++ v).drop 1).takeWhile (· ≠ ']') = r ++ v := by
      rw [List.cons_append, List.drop_one, List.tail_cons, (all v).1, open_]
    rw [h v parts, bracketToken]
    simp only [inner]
    rw [if_neg]
    simp

theorem blockLength_append (x : List Char) : ∃ k y, k + y.length = x.length ∧
    ∀ v, Parts v → blockLength (x ++ v) = k + commentLength (y ++ v) := by
  have plain : ∀ w : List Char, w.head? ≠ some '/' → blockLength w = commentLength w := by
    intro w other
    unfold blockLength
    split
    · exact absurd rfl other
    · rfl
  cases x with
  | nil => exact ⟨0, [], rfl, fun v hv => by simp [plain v (hv.head_ne (by decide))]⟩
  | cons d t =>
    by_cases slash : d = '/'
    · refine ⟨1, t, by rw [List.length_cons]; omega, fun v _ => ?_⟩
      rw [slash]
      rfl
    · refine ⟨0, d :: t, by omega, fun v _ => ?_⟩
      have other : (d :: t ++ v).head? ≠ some '/' := fun eq => slash (Option.some.inj eq)
      rw [plain _ other]
      omega

theorem of_block (star : r.head? = some '*') (h : ∀ v, Parts v → first c (r ++ v) =
    head .comment (2 + blockLength ((r ++ v).drop 1)) (c :: r ++ v)) : Reach (c :: r) := by
  obtain ⟨x, rfl⟩ : ∃ x, r = '*' :: x := by
    cases r with
    | nil => cases star
    | cons d x => exact ⟨x, by rw [Option.some.inj star]⟩
  obtain ⟨k, y, lengths, block⟩ := blockLength_append x
  have length : ∀ v, Parts v →
      2 + blockLength (('*' :: x ++ v).drop 1) = 2 + (k + commentLength (y ++ v)) := by
    intro v hv
    rw [List.cons_append, List.drop_one, List.tail_cons, block v hv]
  rcases commentLength_cases y with ⟨n, pos, le, closed⟩ | opened
  · refine of_head .comment (n := 2 + (k + n)) (by omega) ?_ fun v hv => ?_
    · simp only [List.length_cons]
      omega
    · rw [h v hv, length v hv, closed v]
  · refine .broken fun v hv => ?_
    have parts : Parts v := by
      rcases hv with rfl | rfl
      · exact parts_space
      · exact parts_closing
    have rest : commentLength v = v.length := by
      rcases hv with rfl | rfl <;> rfl
    refine ⟨_, _, congrArg some (h v parts), Or.inr ⟨rfl, ?_⟩⟩
    rw [length v parts, opened v (parts.head_ne (by decide)), rest]
    refine List.drop_eq_nil_of_le ?_
    simp only [List.length_append, List.length_cons]
    omega

theorem numberTake_cons (c : Char) (r : List Char) : numberTake (c :: r) =
    if c = '0' ∧ (r.head? = some 'x' ∨ r.head? = some 'X') ∧ (r.drop 1).head?.any isHexDigit then
      2 + ((r.drop 1).takeWhile isHexDigit).length
    else numberLength (c :: r) := by
  unfold numberTake
  split
  · rename_i x t eq
    obtain ⟨rfl, rfl⟩ := List.cons.inj eq
    simp
  · rename_i other
    rw [if_neg]
    rintro ⟨rfl, mark, -⟩
    cases r with
    | nil => simp at mark
    | cons d t => exact other d t rfl

theorem numberTake_append (parts : Parts v) (c : Char) (r : List Char) :
    numberTake (c :: r ++ v) = numberTake (c :: r) := by
  have length : numberLength (c :: r ++ v) = numberLength (c :: r) := by
    rw [numberLength, numberLength, Numeral.scan_append parts.ends]
    cases Numeral.scan (c :: r) with
    | none => rfl
    | some p =>
      simp only [Option.map_some, List.length_append]
      omega
  have stops := parts.stops (p := isHexDigit) (by decide)
  rw [List.cons_append] at length
  rw [List.cons_append, numberTake_cons, numberTake_cons, length]
  cases r with
  | nil => simp [parts.head_ne (d := 'x') (by decide), parts.head_ne (d := 'X') (by decide)]
  | cons d t =>
    simp only [List.cons_append, List.head?_cons, List.drop_one, List.tail_cons,
      parts.any_append stops, (takeWhile_append_stop stops t).1]

theorem numberTake_le (c : Char) (r : List Char) : numberTake (c :: r) ≤ (c :: r).length := by
  rw [numberTake_cons]
  split
  · rename_i hex
    obtain ⟨-, mark, -⟩ := hex
    cases r with
    | nil => simp at mark
    | cons d t =>
      have short := (List.takeWhile_sublist (l := t) isHexDigit).length_le
      simp only [List.drop_one, List.tail_cons, List.length_cons]
      omega
  · unfold numberLength
    split
    · omega
    · omega

theorem of_number (h : ∀ v, Parts v → first c (r ++ v) = numberToken (c :: r ++ v))
    (starts : StartsNumber c r) : Reach (c :: r) := by
  have le := numberTake_le c r
  have pos := numberTake_pos starts
  have more : ∀ v, Parts v → ((c :: r ++ v).drop (numberTake (c :: r))).takeWhile isWordChar =
      ((c :: r).drop (numberTake (c :: r))).takeWhile isWordChar := by
    intro v hv
    rw [List.drop_append_of_le_length le, (takeWhile_append_stop hv.not_word _).1]
  have fits : (((c :: r).drop (numberTake (c :: r))).takeWhile isWordChar).length ≤
      (c :: r).length - numberTake (c :: r) := by
    rw [← List.length_drop]
    exact (List.takeWhile_sublist _).length_le
  by_cases none : (((c :: r).drop (numberTake (c :: r))).takeWhile isWordChar).length = 0
  · refine of_head .number pos le fun v hv => ?_
    rw [h v hv, numberToken]
    simp only [numberTake_append hv, more v hv, if_pos none]
  · refine of_head .illegal (n := numberTake (c :: r) +
      (((c :: r).drop (numberTake (c :: r))).takeWhile isWordChar).length) (by omega) (by omega)
      fun v hv => ?_
    rw [h v hv, numberToken]
    simp only [numberTake_append hv, more v hv, if_neg none]

theorem of_bytes (quote : r.head? = some '\'')
    (h : ∀ v, Parts v → first c (r ++ v) = bytesToken (c :: r ++ v)) : Reach (c :: r) := by
  obtain ⟨x, rfl⟩ : ∃ x, r = '\'' :: x := by
    cases r with
    | nil => cases quote
    | cons d x => exact ⟨x, by rw [Option.some.inj quote]⟩
  have digits : ∀ v, Parts v →
      ((c :: '\'' :: x ++ v).drop 2).takeWhile isHexDigit = x.takeWhile isHexDigit := fun v hv =>
    (takeWhile_append_stop (hv.stops (by decide)) x).1
  have le := (List.takeWhile_sublist (l := x) isHexDigit).length_le
  have behind : ∀ v, Parts v → (((c :: '\'' :: x ++ v).drop
      (2 + (x.takeWhile isHexDigit).length)).head? = some '\'' ↔
      (x.drop (x.takeWhile isHexDigit).length).head? = some '\'') := by
    intro v hv
    rw [← List.drop_drop]
    show ((x ++ v).drop _).head? = _ ↔ _
    rw [List.drop_append_of_le_length le, hv.head_append (by decide)]
  by_cases closed : (x.drop (x.takeWhile isHexDigit).length).head? = some '\'' ∧
      (x.takeWhile isHexDigit).length % 2 = 0
  · have less : (x.takeWhile isHexDigit).length < x.length := by
      rcases Nat.lt_or_ge (x.takeWhile isHexDigit).length x.length with less | long
      · exact less
      · rw [List.drop_eq_nil_of_le long] at closed
        cases closed.1
    refine of_head .bytes (n := 2 + (x.takeWhile isHexDigit).length + 1) (by omega) ?_
      fun v hv => ?_
    · simp only [List.length_cons]
      omega
    · rw [h v hv, bytesToken]
      simp only [digits v hv, behind v hv, if_pos closed]
  · refine of_illegal fun v hv => ?_
    have parts : Parts v := by
      rcases hv with rfl | rfl
      · exact parts_space
      · exact parts_closing
    rw [h v parts, bytesToken]
    simp only [digits v parts, behind v parts, if_neg closed]
    exact ⟨_, rfl⟩

theorem of_variable {isPart : Char → Bool} {least : Nat}
    (stop : ∀ v, Parts v → ∀ d ∈ v.head?, isPart d = false)
    (h : ∀ v, Parts v → first c (r ++ v) = variableToken isPart least (c :: r ++ v)) :
    Reach (c :: r) := by
  have taken : ∀ v, Parts v → ((c :: r ++ v).drop 1).takeWhile isPart = r.takeWhile isPart := by
    intro v hv
    rw [List.cons_append, List.drop_one, List.tail_cons, (takeWhile_append_stop (stop v hv) r).1]
  have le : (r.takeWhile isPart).length + 1 ≤ (c :: r).length := by
    have short := (List.takeWhile_sublist (l := r) isPart).length_le
    rw [List.length_cons]
    omega
  by_cases few : (r.takeWhile isPart).length < least
  · refine of_head .illegal (by omega) le fun v hv => ?_
    rw [h v hv, variableToken]
    simp only [taken v hv, if_pos few]
  · refine of_head .variable (by omega) le fun v hv => ?_
    rw [h v hv, variableToken]
    simp only [taken v hv, if_neg few]

theorem of_word (word : isWordChar c = true) (h : ∀ v, Parts v → first c (r ++ v) =
    head .word ((c :: r ++ v).takeWhile isWordChar).length (c :: r ++ v)) : Reach (c :: r) := by
  have le := (List.takeWhile_sublist (l := c :: r) isWordChar).length_le
  refine of_takeWhile (n := ((c :: r).takeWhile isWordChar).length) word (fun v hv => ?_) le h
  have whole := congrArg (fun p => p.1.raw) (head_takeWhile .word isWordChar (c :: r))
  rw [(takeWhile_append_stop hv.not_word (c :: r)).1]
  exact whole.symm

theorem isPrefixOf_append {sign : List Char} (other : ∀ d ∈ sign, v.head? ≠ some d)
    (x : List Char) : sign.isPrefixOf (x ++ v) = sign.isPrefixOf x := by
  induction sign generalizing x with
  | nil => simp
  | cons d sign ih =>
    cases x with
    | nil =>
      cases v with
      | nil => rfl
      | cons f v =>
        have ne : d ≠ f := fun eq => other d List.mem_cons_self (by rw [eq]; rfl)
        simp [List.isPrefixOf, ne]
    | cons f x =>
      rw [List.cons_append, List.isPrefixOf_cons_cons, List.isPrefixOf_cons_cons,
        ih (fun d hd => other d (List.mem_cons_of_mem _ hd))]

theorem of_sign (h : ∀ v, Parts v → first c (r ++ v) = signToken (c :: r ++ v)) :
    Reach (c :: r) := by
  have longer : ∀ v, Parts v → (longSigns.find? fun sign => sign.isPrefixOf (c :: r ++ v)) =
      longSigns.find? fun sign => sign.isPrefixOf (c :: r) := by
    intro v hv
    have apart : ∀ sign ∈ longSigns,
        sign.all (fun d => d ≠ ' ' ∧ d ≠ ',' ∧ d ≠ '\n' ∧ d ≠ ')') = true := by decide
    refine List.find?_congr fun sign mem => isPrefixOf_append (fun d hd => hv.head_ne ?_) (c :: r)
    simpa using List.all_eq_true.mp (apart sign mem) d hd
  cases found : longSigns.find? fun sign => sign.isPrefixOf (c :: r) with
  | some sign =>
    have pos : 0 < sign.length := by
      have all : ∀ sign ∈ longSigns, 0 < sign.length := by decide
      exact all sign (List.mem_of_find?_eq_some found)
    have isStart : sign.isPrefixOf (c :: r) = true := by simpa using List.find?_some found
    have start : sign <+: c :: r := List.isPrefixOf_iff_prefix.mp isStart
    refine of_head .sign pos start.length_le fun v hv => ?_
    rw [h v hv, signToken, longer v hv, found]
  | none =>
    cases short : shortSigns.contains c with
    | true =>
      refine of_head .sign (n := 1) (by omega) (by simp) fun v hv => ?_
      rw [h v hv, signToken, longer v hv, found, List.cons_append, List.head?_cons]
      simp only [Option.any_some, short, if_true]
    | false =>
      refine of_head .illegal (n := 1) (by omega) (by simp) fun v hv => ?_
      rw [h v hv, signToken, longer v hv, found, List.cons_append, List.head?_cons]
      simp only [Option.any_some, short, if_neg Bool.false_ne_true]

end Reach

/-- The first token of a piece of text ends with it, or it is one of those that go on. -/
theorem reach (c : Char) (r : List Char) : Reach (c :: r) := by
  have same : ∀ v, Parts v → startOf c (r ++ v) = startOf c (r ++ [' ']) := fun v hv =>
    startOf_append hv Reach.parts_space c r
  have spec := startOf_fits c (r ++ [' '])
  cases start : startOf c (r ++ [' ']) <;> rw [start] at spec
  case blank => exact .of_blank spec fun v hv => by simp only [first, same v hv, start]; rfl
  case text =>
    refine .of_quoted ?_ fun v hv => by simp only [first, same v hv, start]; rfl
    rw [spec]
    decide
  case name =>
    refine .of_quoted ?_ fun v hv => by simp only [first, same v hv, start]; rfl
    rcases spec with rfl | rfl <;> decide
  case bracket => exact .of_bracket fun v hv => by simp only [first, same v hv, start]; rfl
  case line => exact .of_line spec.1 fun v hv => by simp only [first, same v hv, start]; rfl
  case block =>
    refine .of_block ?_ fun v hv => by simp only [first, same v hv, start]; rfl
    exact (Reach.parts_space.head_append (by decide) r).mp spec.2.1
  case number =>
    refine .of_number (fun v hv => by simp only [first, same v hv, start]; rfl) ?_
    rcases spec with digit | ⟨point, digit⟩
    · exact Or.inl digit
    · rw [Reach.parts_space.any_append (Reach.parts_space.stops (by decide))] at digit
      exact Or.inr ⟨point, digit⟩
  case bytes =>
    refine .of_bytes ?_ fun v hv => by simp only [first, same v hv, start]; rfl
    exact (Reach.parts_space.head_append (by decide) r).mp spec
  case byteOrderMark =>
    exact .of_head .blank (n := 1) (by omega) (by simp) fun v hv => by
      simp only [first, same v hv, start]; rfl
  case named =>
    exact .of_variable (fun v hv => hv.not_word) fun v hv => by
      simp only [first, same v hv, start]; rfl
  case numbered =>
    exact .of_variable (fun v hv => hv.stops (p := Char.isDigit) (by decide)) fun v hv => by
      simp only [first, same v hv, start]; rfl
  case word => exact .of_word spec fun v hv => by simp only [first, same v hv, start]; rfl
  case sign => exact .of_sign fun v hv => by simp only [first, same v hv, start]; rfl

end EntityEngine.Sql.Token
