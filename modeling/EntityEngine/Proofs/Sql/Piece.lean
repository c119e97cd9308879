import EntityEngine.Proofs.Sql.Delimited
import EntityEngine.Sql.TableText

/-! The pieces that statements are made of: words, names and texts in quotes, numerals, comments.
Each is read by itself, whatever a caller's text in it is. -/

namespace EntityEngine.Sql

open Number Token

/-- A text that is read by itself as tokens of a statement. -/
def IsPiece (s : List Char) : Prop := ∃ ts, IsInner ts ∧ Reads s ts

/-- A text behind which the one before it is parted, if what follows parts it. -/
def Follows (s : List Char) : Prop := ∀ v, Parts v → Parts (s ++ v)

variable {a b s : List Char} {ts us : List Token}

theorem Follows.nil : Follows [] := fun _ hv => hv

theorem Follows.append (ha : Follows a) (hb : Follows b) : Follows (a ++ b) := by
  intro v hv
  rw [List.append_assoc]
  exact ha _ (hb v hv)

theorem Follows.space (s : List Char) : Follows (' ' :: s) :=
  fun v _ => ⟨' ', s ++ v, rfl, Or.inl rfl⟩

theorem Follows.comma (s : List Char) : Follows (',' :: s) :=
  fun v _ => ⟨',', s ++ v, rfl, Or.inr (Or.inl rfl)⟩

theorem Follows.line (s : List Char) : Follows ('\n' :: s) :=
  fun v _ => ⟨'\n', s ++ v, rfl, Or.inr (Or.inr (Or.inl rfl))⟩

namespace IsPiece

theorem nil : IsPiece [] := ⟨[], .nil, .nil⟩

theorem append (ha : IsPiece a) (hb : IsPiece b) (follows : Follows b) : IsPiece (a ++ b) := by
  obtain ⟨ts, inner, reads⟩ := ha
  obtain ⟨us, inner', reads'⟩ := hb
  exact ⟨ts ++ us, inner.append inner', reads.append reads' follows⟩

theorem blank (h : IsPiece s) {c : Char} (blank : isBlankChar c = true) : IsPiece (c :: s) := by
  obtain ⟨ts, inner, reads⟩ := h
  exact ⟨ts, inner, reads.blank blank⟩

theorem blanks (h : IsPiece s) (all : ∀ c ∈ a, isBlankChar c = true) : IsPiece (a ++ s) := by
  induction a with
  | nil => exact h
  | cons c a ih =>
    exact (ih fun d hd => all d (List.mem_cons_of_mem _ hd)).blank (all c List.mem_cons_self)

end IsPiece

/-! ### Single tokens -/

/-- A token in front of a text that is read by itself. -/
theorem Reads.token (h : Reads s ts) {t : Token}
    (next : ∀ v, Parts v → next? (a ++ (s ++ v)) = some (t, s ++ v)) :
    Reads (a ++ s) ([t].filter isMeaningful ++ ts) := by
  intro v hv
  obtain ⟨first, firstRead, eq⟩ := scanned_of_next (next v hv)
  obtain ⟨second, secondRead, eq'⟩ := h v hv
  refine ⟨first ++ second, ?_, ?_⟩
  · rw [List.filter_append, firstRead, secondRead]
  · rw [List.append_assoc, eq, eq', List.append_assoc]

/-- Tokens that neither open nor close anything. -/
theorem inner_of_plain {t : Token} (legal : t.kind ≠ .illegal) (single : t.isWord ";" = false)
    (opens : t.isWord "(" = false) (closes : t.isWord ")" = false) : IsInner [t] := by
  refine ⟨?_, ?_, ?_⟩
  · intro u hu
    rw [List.mem_singleton.mp hu]
    exact legal
  · intro u hu
    rw [List.mem_singleton.mp hu]
    exact single
  · simp [openAfter, opens, closes]

/-- A token of the engine's own words and signs. -/
def signOf (c : Char) : Token := ⟨.sign, [c]⟩

def wordOf (w : String) : Token := ⟨.word, w.toList⟩

def nameOf (name : String) : Token := ⟨.name name.toList, (quotedName name).toList⟩

def textOf (s : String) : Token := ⟨.text s.toList, (quotedText s).toList⟩

/-- A word that is read as that, and means no sign. -/
def isPlainWord (w : List Char) : Bool :=
  match w with
  | c :: r => startOf c (r ++ [' ']) = .word && (c :: r).all isWordChar &&
    [";", "(", ")"].all fun sign => !(⟨.word, c :: r⟩ : Token).isWord sign
  | [] => false

theorem next?_word {w : String} (h : isPlainWord w.toList = true) {v : List Char} (hv : Parts v) :
    next? (w.toList ++ v) = some (wordOf w, v) := by
  unfold wordOf
  cases eq : w.toList with
  | nil => rw [eq] at h; cases h
  | cons c r =>
    rw [eq, isPlainWord, Bool.and_eq_true, Bool.and_eq_true] at h
    obtain ⟨⟨start, all⟩, -⟩ := h
    have start : startOf c (r ++ v) = .word := by
      rw [startOf_append hv Reach.parts_space]
      simpa using start
    have taken : (c :: r).takeWhile isWordChar = c :: r :=
      List.takeWhile_eq_self_iff.mpr (List.all_eq_true.mp all)
    have dropped : (c :: r).dropWhile isWordChar = [] :=
      List.dropWhile_eq_nil_iff.mpr (List.all_eq_true.mp all)
    have stop := takeWhile_append_stop hv.not_word (c :: r)
    rw [taken, dropped, List.nil_append] at stop
    show some (first c (r ++ v)) = _
    unfold first
    simp only [start]
    rw [Reach.head_takeWhile]
    exact congrArg some (Prod.ext (congrArg (Token.mk .word) stop.1) stop.2)

theorem reads_word {w : String} (h : isPlainWord w.toList = true) : Reads w.toList [wordOf w] :=
  Reads.of_next (t := wordOf w) fun _ hv => next?_word h hv

theorem piece_word {w : String} (h : isPlainWord w.toList = true) : IsPiece w.toList := by
  refine ⟨[wordOf w], ?_, reads_word h⟩
  unfold wordOf
  cases eq : w.toList with
  | nil => rw [eq] at h; cases h
  | cons c r =>
    rw [eq, isPlainWord, Bool.and_eq_true] at h
    have signs := h.2
    simp only [List.all_cons, List.all_nil, Bool.and_true, Bool.and_eq_true, Bool.not_eq_true']
      at signs
    exact inner_of_plain (by simp) signs.1 signs.2.1 signs.2.2

theorem reads_comma (h : Reads s ts) : Reads (',' :: s) (signOf ',' :: ts) :=
  h.token (a := [',']) fun v _ => comma_next (s ++ v)

theorem piece_comma (h : IsPiece s) : IsPiece (',' :: s) := by
  obtain ⟨ts, inner, reads⟩ := h
  exact ⟨signOf ',' :: ts, (inner_of_plain (by simp [signOf]) (by decide)
    (by decide) (by decide)).append inner, reads_comma reads⟩

theorem reads_opening (h : Reads s ts) : Reads ('(' :: s) (signOf '(' :: ts) :=
  h.token (a := ['(']) fun v _ => opening_next (s ++ v)

theorem IsInner.parens (h : IsInner ts) : IsInner (signOf '(' :: (ts ++ [signOf ')'])) := by
  have opens : (signOf '(').isWord "(" = true := by decide
  have closes : (signOf ')').isWord ")" = true := by decide
  have notOpens : (signOf ')').isWord "(" = false := by decide
  refine ⟨?_, ?_, ?_⟩
  · intro t ht
    rcases List.mem_cons.mp ht with rfl | ht
    · simp [signOf]
    · rcases List.mem_append.mp ht with ht | ht
      · exact h.legal t ht
      · rw [List.mem_singleton.mp ht]
        simp [signOf]
  · intro t ht
    rcases List.mem_cons.mp ht with rfl | ht
    · decide
    · rcases List.mem_append.mp ht with ht | ht
      · exact h.single t ht
      · rw [List.mem_singleton.mp ht]
        decide
  · rw [openAfter, if_pos opens, h.openAfter_append, openAfter, closes, notOpens]
    rfl

/-- A piece in parentheses. -/
theorem IsPiece.parens (h : IsPiece s) : IsPiece ('(' :: (s ++ [')'])) := by
  obtain ⟨ts, inner, reads⟩ := h
  have closing : Reads [')'] [signOf ')'] :=
    Reads.of_next (t := signOf ')') fun v _ => closing_next v
  refine ⟨signOf '(' :: (ts ++ [signOf ')']), inner.parens, reads_opening ?_⟩
  exact reads.append closing fun v _ => ⟨')', v, rfl, Or.inr (Or.inr (Or.inr rfl))⟩

/-! ### Quotes -/

theorem scanQuoted_double (q : Char) (s : List Char) {v : List Char} (other : v.head? ≠ some q) :
    scanQuoted q (Text.double q s ++ q :: v) = some (s, (Text.double q s).length + 1) := by
  induction s with
  | nil =>
    cases v with
    | nil => simp [Text.double, scanQuoted]
    | cons d v =>
      have ne : d ≠ q := fun eq => other (by rw [eq]; rfl)
      simp [Text.double, scanQuoted, ne]
  | cons c s ih =>
    by_cases same : c = q
    · have twice : Text.double q (c :: s) = q :: q :: Text.double q s := by
        simp [Text.double, same]
      rw [twice, same]
      simp [scanQuoted, ih]
    · have once : Text.double q (c :: s) = c :: Text.double q s := by
        simp [Text.double, same]
      rw [once]
      obtain ⟨d, r, cons⟩ := List.exists_cons_of_ne_nil
        (List.append_ne_nil_of_right_ne_nil (Text.double q s) (List.cons_ne_nil q v))
      rw [cons] at ih
      rw [List.cons_append, cons]
      simp [scanQuoted, same, ih]

theorem quoted_double (q : Char) (kind : List Char → TokenKind) (s : List Char) {v : List Char}
    (other : v.head? ≠ some q) : quoted q kind (q :: (Text.double q s ++ q :: v)) =
      (⟨kind s, q :: (Text.double q s ++ [q])⟩, v) := by
  rw [quoted, List.drop_one, List.tail_cons, scanQuoted_double q s other]
  have parts : q :: (Text.double q s ++ q :: v) = (q :: (Text.double q s ++ [q])) ++ v := by simp
  have length : (Text.double q s).length + 1 + 1 = (q :: (Text.double q s ++ [q])).length := by
    simp
  show head (kind s) ((Text.double q s).length + 1 + 1) _ = _
  rw [parts, length, head, List.take_left, List.drop_left]

theorem next?_quotedName (name : String) {v : List Char} (other : v.head? ≠ some '"') :
    next? ((quotedName name).toList ++ v) = some (nameOf name, v) := by
  have text : (quotedName name).toList = '"' :: (Text.double '"' name.toList ++ ['"']) := by
    rw [quotedName, String.toList_ofList]
  rw [nameOf, text]
  show some (quoted '"' .name ('"' :: (Text.double '"' name.toList ++ ['"'] ++ v))) = _
  rw [List.append_assoc]
  exact congrArg some (quoted_double '"' .name name.toList other)

theorem reads_quotedName (name : String) : Reads (quotedName name).toList [nameOf name] :=
  Reads.of_next (t := nameOf name) fun _ hv => next?_quotedName name (hv.head_ne (by decide))

theorem piece_quotedName (name : String) : IsPiece (quotedName name).toList :=
  ⟨[nameOf name], inner_of_plain (by simp [nameOf]) rfl rfl rfl, reads_quotedName name⟩

theorem next?_quotedText (s : String) {v : List Char} (other : v.head? ≠ some '\'') :
    next? ((quotedText s).toList ++ v) = some (textOf s, v) := by
  have text : (quotedText s).toList = '\'' :: (Text.double '\'' s.toList ++ ['\'']) := by
    rw [quotedText, String.toList_ofList]
  rw [textOf, text]
  show some (quoted '\'' .text ('\'' :: (Text.double '\'' s.toList ++ ['\''] ++ v))) = _
  rw [List.append_assoc]
  exact congrArg some (quoted_double '\'' .text s.toList other)

theorem reads_quotedText (s : String) : Reads (quotedText s).toList [textOf s] :=
  Reads.of_next (t := textOf s) fun _ hv => next?_quotedText s (hv.head_ne (by decide))

theorem piece_quotedText (s : String) : IsPiece (quotedText s).toList :=
  ⟨[textOf s], inner_of_plain (by simp [textOf]) rfl rfl rfl, reads_quotedText s⟩

/-! ### Comments -/

theorem head?_replacePair {a b : Char} {w : List Char} (d : Char) (r : List Char) :
    (Text.replacePair a b (a :: w) (d :: r)).head? = some d := by
  cases r with
  | nil => rfl
  | cons f r =>
    rw [Text.replacePair]
    split
    · rename_i both
      rw [both.1]
      rfl
    · rfl

/-- A mark that is broken up is not there any more. -/
theorem not_infix_replacePair (s : List Char) :
    ¬ ['*', '/'] <:+: Text.replacePair '*' '/' ['*', ' ', '/'] s := by
  fun_induction Text.replacePair '*' '/' ['*', ' ', '/'] s with
  | case1 => decide
  | case2 c =>
    intro mark
    have length := mark.length_le
    simp at length
  | case3 c d r both ih =>
    simp only [List.cons_append, List.nil_append, List.infix_cons_iff, not_or]
    refine ⟨by simp, by simp, by simp, ih⟩
  | case4 c d r other ih =>
    rw [List.infix_cons_iff, not_or]
    refine ⟨fun mark => ?_, ih⟩
    obtain ⟨first, rest⟩ := List.cons_prefix_cons.mp mark
    have second := head?_replacePair (a := '*') (b := '/') (w := [' ', '/']) d r
    obtain ⟨t, eq⟩ := rest
    rw [← eq] at second
    exact other ⟨first.symm, (Option.some.inj second).symm⟩

/-- A comment ends with the mark behind a text that has none. -/
theorem commentLength_of_not_infix {x : List Char} (none : ¬ ['*', '/'] <:+: x) (v : List Char) :
    commentLength (x ++ ' ' :: '*' :: '/' :: v) = x.length + 3 := by
  induction x with
  | nil => rfl
  | cons c x ih =>
    rw [List.infix_cons_iff, not_or] at none
    have goes : ¬ (c = '*' ∧ (x ++ ' ' :: '*' :: '/' :: v).head? = some '/') := by
      rintro ⟨rfl, slash⟩
      cases x with
      | nil => simp at slash
      | cons d x =>
        obtain rfl : d = '/' := Option.some.inj slash
        exact none.1 ⟨x, rfl⟩
    rw [List.cons_append, commentLength_cons, if_neg goes, ih none.2, List.length_cons]

theorem next?_comment {x : List Char} (none : ¬ ['*', '/'] <:+: x) (v : List Char) :
    next? ('/' :: '*' :: ' ' :: (x ++ [' ', '*', '/']) ++ v) =
      some (⟨.comment, '/' :: '*' :: ' ' :: (x ++ [' ', '*', '/'])⟩, v) := by
  have long : 1 < ('*' :: ' ' :: (x ++ [' ', '*', '/']) ++ v).length := by
    simp only [List.cons_append, List.length_cons]
    omega
  have start : startOf '/' ('*' :: ' ' :: (x ++ [' ', '*', '/']) ++ v) = .block := by
    have slash : isBlankChar '/' = false := by decide
    simp [startOf, slash]
  have inner : (x ++ [' ', '*', '/']) ++ v = x ++ ' ' :: '*' :: '/' :: v := by simp
  have length : 2 + blockLength (' ' :: ((x ++ [' ', '*', '/']) ++ v)) =
      ('/' :: '*' :: ' ' :: (x ++ [' ', '*', '/'])).length := by
    show 2 + commentLength (' ' :: ((x ++ [' ', '*', '/']) ++ v)) = _
    rw [inner, commentLength_cons, if_neg (by simp), commentLength_of_not_infix none]
    simp only [List.length_cons, List.length_append, List.length_nil]
    omega
  show some (first '/' ('*' :: ' ' :: (x ++ [' ', '*', '/']) ++ v)) = _
  unfold first
  simp only [start]
  show some (head .comment (2 + blockLength (' ' :: ((x ++ [' ', '*', '/']) ++ v)))
    ('/' :: '*' :: ' ' :: (x ++ [' ', '*', '/']) ++ v)) = _
  rw [length, head, List.take_left, List.drop_left]

theorem piece_commentText (s : String) : IsPiece (ColumnText.commentText s).toList := by
  have text : (ColumnText.commentText s).toList = ' ' :: '/' :: '*' :: ' ' ::
      (Text.replacePair '*' '/' ['*', ' ', '/'] s.toList ++ [' ', '*', '/']) := by
    simp [ColumnText.commentText]
  rw [text]
  have reads := Reads.of_next (t := ⟨.comment, '/' :: '*' :: ' ' ::
    (Text.replacePair '*' '/' ['*', ' ', '/'] s.toList ++ [' ', '*', '/'])⟩) fun v _ =>
      next?_comment (not_infix_replacePair s.toList) v
  exact IsPiece.blank ⟨[], .nil, reads⟩ (by decide)

/-! ### Defaults -/

theorem next?_minus {d : Char} (dash : d ≠ '-') (arrow : d ≠ '>') (v : List Char) :
    next? ('-' :: d :: v) = some (signOf '-', d :: v) := by
  have start : startOf '-' (d :: v) = .sign := by
    have blank : isBlankChar '-' = false := by decide
    have digit : Char.isDigit '-' = false := by decide
    have word : isWordChar '-' = false := by decide
    simp [startOf, blank, dash, digit, word]
  have long : longSigns.find? (fun sign => sign.isPrefixOf ('-' :: d :: v)) = none := by
    have other : ∀ sign ∈ longSigns, sign.head? = some '-' → sign[1]? = some '>' := by decide
    rw [List.find?_eq_none]
    intro sign mem start
    obtain ⟨t, eq⟩ := List.isPrefixOf_iff_prefix.mp start
    have arrowed := other sign mem
    cases sign with
    | nil => exact absurd mem (by decide)
    | cons c sign =>
      obtain ⟨rfl, rest⟩ := List.cons.inj eq
      cases sign with
      | nil => exact absurd mem (by decide)
      | cons f sign =>
        have same : f = d := (List.cons.inj rest).1
        have mark : f = '>' := Option.some.inj (arrowed rfl)
        exact arrow (same.symm.trans mark)
  show some (first '-' (d :: v)) = _
  unfold first
  simp only [start]
  rw [signToken, long]
  rfl

/-- A whole numeral is a number, with one sign in front of it or none. -/
theorem numeral_cases {s : List Char} {n : Numeral} (h : Numeral.scan s = some (n, [])) :
    (∃ c r, s = c :: r ∧ StartsNumber c r) ∨
      ∃ sign d r m, s = sign :: d :: r ∧ (sign = '-' ∨ sign = '+') ∧ StartsNumber d r ∧
        Numeral.scan (d :: r) = some (m, []) := by
  by_cases unsigned : Numeral.sign s = (false, s)
  · exact Or.inl (Numeral.start_of_scan h unsigned)
  · obtain ⟨c, r, rfl⟩ : ∃ c r, s = c :: r := by
      cases s with
      | nil => exact absurd rfl unsigned
      | cons c r => exact ⟨c, r, rfl⟩
    have sign : c = '-' ∨ c = '+' := by
      rw [Numeral.sign_cons] at unsigned
      by_cases minus : c = '-'
      · exact Or.inl minus
      · by_cases plus : c = '+'
        · exact Or.inr plus
        · rw [if_neg minus, if_neg plus] at unsigned
          exact absurd rfl unsigned
    have signed : ∃ negative, Numeral.sign (c :: r) = (negative, r) := by
      rcases sign with rfl | rfl
      · exact ⟨true, rfl⟩
      · exact ⟨false, rfl⟩
    obtain ⟨unsigned, m, whole⟩ := Numeral.scan_of_signed signed h
    obtain ⟨d, x, rfl, starts⟩ := Numeral.start_of_scan whole unsigned
    exact Or.inr ⟨c, d, x, m, rfl, sign, starts, whole⟩

/-- The sign of a number is a token of its own. -/
theorem next?_sign {c d : Char} {r : List Char} (sign : c = '-' ∨ c = '+')
    (starts : StartsNumber d r) (v : List Char) : next? (c :: d :: v) = some (signOf c, d :: v) := by
  rcases sign with rfl | rfl
  · refine next?_minus ?_ ?_ v
    · rintro rfl
      simp [StartsNumber] at starts
    · rintro rfl
      simp [StartsNumber] at starts
  · rfl

theorem piece_sign {c : Char} (sign : c = '-' ∨ c = '+') : IsInner [signOf c] := by
  rcases sign with rfl | rfl <;>
    exact inner_of_plain (by simp [signOf]) (by decide) (by decide)
      (by decide)

theorem piece_unsigned {c : Char} {r : List Char} {n : Numeral} (starts : StartsNumber c r)
    (h : Numeral.scan (c :: r) = some (n, [])) : IsPiece (c :: r) := by
  have reads := Reads.of_next (t := ⟨.number, c :: r⟩) fun v hv => next?_number starts h hv
  exact ⟨_, inner_of_plain (by simp) rfl rfl rfl, reads⟩

/-- A numeral may have a sign in front. -/
theorem piece_numeral {s : List Char} {n : Numeral} (h : Numeral.scan s = some (n, [])) :
    IsPiece s := by
  rcases numeral_cases h with ⟨c, r, rfl, starts⟩ | ⟨c, d, r, m, rfl, sign, starts, whole⟩
  · exact piece_unsigned starts h
  · obtain ⟨ts, inner, reads⟩ := piece_unsigned starts whole
    refine ⟨signOf c :: ts, (piece_sign sign).append inner, ?_⟩
    exact reads.token (a := [c]) (t := signOf c) fun v _ => next?_sign sign starts (r ++ v)

end EntityEngine.Sql
