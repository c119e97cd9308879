import EntityEngine.Proofs.Sql.Piece

/-! Callers' texts in a statement, read where they stand. A name in quotes is one token, whose value
is the text; the default of a column is one literal, with at most one sign in front of a number; and
a comment ends where it was written to end. What stands behind is read as it is without them. -/

namespace EntityEngine.Sql

open Number Token

/-- The tokens that a text is cut into up to some place, and the text from there on. -/
inductive Cut : List Char → List Token → List Char → Prop
  | done (r : List Char) : Cut r [] r
  | next {s u r : List Char} {t : Token} {ts : List Token} :
      next? s = some (t, u) → Cut u ts r → Cut s (t :: ts) r

/-- In front of `r`, a part of a statement is read as some tokens, which are all of it, and `r` is
read as if it stood alone. -/
structure ReadsAs (s : List Char) (ts : List Token) (r : List Char) : Prop where
  tokens : scan (untilNull (s ++ r)) = ts ++ scan (untilNull r)
  whole : ts.flatMap Token.raw = s

/-- The literals that a default may be written as. -/
inductive IsLiteral (t : String) : List Token → Prop
  | number {n : List Char} : (Text.trim t).toList = n → IsLiteral t [⟨.number, n⟩]
  | signed {c : Char} {n : List Char} : c = '-' ∨ c = '+' → (Text.trim t).toList = c :: n →
      IsLiteral t [signOf c, ⟨.number, n⟩]
  | flag (b : Bool) : IsLiteral t [⟨.number, [if b then '1' else '0']⟩]
  | clock {word : String} : word ∈ DefaultValue.clockWords → IsLiteral t [wordOf word]
  | text : IsLiteral t [textOf t]

namespace Cut

variable {s u r : List Char} {t : Token} {ts us : List Token}

theorem one (h : next? s = some (t, r)) : Cut s [t] r := .next h (.done r)

theorem scan (h : Cut s ts r) : Token.scan s = ts ++ Token.scan r := by
  induction h with
  | done r => rfl
  | next first _ ih => rw [scan_eq first, ih, List.cons_append]

theorem whole (h : Cut s ts r) : s = ts.flatMap Token.raw ++ r := by
  induction h with
  | done r => rfl
  | next first _ ih => rw [← (next?_cuts first).whole, ih, List.flatMap_cons, List.append_assoc]

end Cut

variable {s r v : List Char} {ts : List Token}

theorem untilNull_append (whole : IsWhole s) (r : List Char) : untilNull (s ++ r) = s ++ untilNull r :=
  List.takeWhile_append_of_pos fun c hc => by simpa using whole c hc

theorem head?_untilNull {q : Char} (h : r.head? ≠ some q) : (untilNull r).head? ≠ some q := by
  cases r with
  | nil => exact h
  | cons c r =>
    unfold untilNull
    rw [List.takeWhile_cons]
    split
    · exact h
    · simp

theorem Token.Parts.untilNull (h : Parts r) : Parts (untilNull r) := by
  obtain ⟨c, u, rfl, mark⟩ := h
  have kept : c.toNat ≠ 0 := by rcases mark with rfl | rfl | rfl | rfl <;> decide
  exact ⟨c, Sql.untilNull u, List.takeWhile_cons_of_pos (by simpa using kept), mark⟩

theorem ReadsAs.of_cut (whole : IsWhole s) (h : Cut (s ++ untilNull r) ts (untilNull r)) :
    ReadsAs s ts r := by
  constructor
  · rw [untilNull_append whole]
    exact h.scan
  · exact (List.append_cancel_right h.whole).symm

/-! ### Literals -/

theorem cut_numeral {n : Numeral} (h : Numeral.scan s = some (n, [])) (parts : Parts v) :
    Cut (s ++ v) [⟨.number, s⟩] v ∨
      ∃ c r, s = c :: r ∧ (c = '-' ∨ c = '+') ∧ Cut (s ++ v) [signOf c, ⟨.number, r⟩] v := by
  rcases numeral_cases h with ⟨c, r, rfl, starts⟩ | ⟨c, d, r, m, rfl, sign, starts, whole⟩
  · exact Or.inl (.one (next?_number starts h parts))
  · exact Or.inr ⟨c, d :: r, rfl, sign,
      .next (next?_sign sign starts (r ++ v)) (.one (next?_number starts whole parts))⟩

theorem cut_literal {t : String} {value : DefaultValue} (h : DefaultValue.Stands t value)
    (parts : Parts v) : ∃ literal, IsLiteral t literal ∧ Cut (value.literal.toList ++ v) literal v := by
  cases h with
  | number whole =>
    rcases cut_numeral whole parts with cut | ⟨c, r, eq, sign, cut⟩
    · exact ⟨_, .number rfl, cut⟩
    · exact ⟨_, .signed sign eq, cut⟩
  | flag b same =>
    refine ⟨_, .flag b, .one ?_⟩
    cases b with
    | true => exact next?_digits (s := ['1']) (by simp) rfl parts
    | false => exact next?_digits (s := ['0']) (by simp) rfl parts
  | clock mem same =>
    have plain : ∀ w ∈ DefaultValue.clockWords, isPlainWord w.toList = true := by decide
    exact ⟨_, .clock mem, .one (next?_word (plain _ mem) parts)⟩
  | text => exact ⟨_, .text, .one (next?_quotedText t (parts.head_ne (by decide)))⟩

/-- A blank in front of a token that is none is read by itself. -/
theorem Cut.blank {t : Token} (other : t.kind ≠ .blank) (h : Cut s (t :: ts) r) :
    Cut (' ' :: s) (⟨.blank, [' ']⟩ :: t :: ts) r := by
  have visible : ∀ c ∈ s.head?, isBlankChar c = false := by
    intro c hc
    obtain ⟨u, rfl⟩ := List.head?_eq_some_iff.mp hc
    cases found : isBlankChar c with
    | false => rfl
    | true =>
      cases h with
      | next first _ =>
        rw [next?_blank found] at first
        rw [← (Prod.mk.inj (Option.some.inj first)).1] at other
        exact absurd rfl other
  obtain ⟨taken, dropped⟩ := takeWhile_append_stop visible []
  refine .next ?_ h
  rw [next?_blank (by decide), List.takeWhile_cons_of_pos (by decide)]
  rw [List.nil_append] at taken dropped
  rw [taken, dropped]
  rfl

theorem IsLiteral.start {t : String} (h : IsLiteral t ts) :
    ∃ first rest, ts = first :: rest ∧ first.kind ≠ .blank := by
  cases h <;> exact ⟨_, _, rfl, by simp [signOf, wordOf, textOf]⟩

/-! ### Defaults and comments -/

theorem isWhole_default {t : String} (type : FieldType) :
    IsWhole (ColumnConstraint.default (.ofText type t)).render.toList ↔ IsWhole t.toList := by
  rw [ColumnConstraint.render, String.toList_append, isWhole_append,
    (DefaultValue.stands_ofText type t).isWhole_literal]
  simp

theorem cut_default {t : String} (type : FieldType) (parts : Parts v) :
    ∃ literal, IsLiteral t literal ∧
      Cut ((ColumnConstraint.default (.ofText type t)).render.toList ++ v)
        (wordOf "DEFAULT" :: ⟨.blank, [' ']⟩ :: literal) v := by
  obtain ⟨literal, written, cut⟩ := cut_literal (DefaultValue.stands_ofText type t) parts
  obtain ⟨first, rest, rfl, visible⟩ := written.start
  refine ⟨_, written, ?_⟩
  have text : (ColumnConstraint.default (.ofText type t)).render.toList ++ v =
      "DEFAULT".toList ++ ' ' :: ((DefaultValue.ofText type t).literal.toList ++ v) := by
    simp [ColumnConstraint.render]
  rw [text]
  exact .next (next?_word (by decide) ⟨' ', _, rfl, Or.inl rfl⟩) (cut.blank visible)

/-- A comment, from its opening mark to its closing one. -/
def commentBody (s : String) : List Char :=
  '/' :: '*' :: ' ' :: (Text.replacePair '*' '/' ['*', ' ', '/'] s.toList ++ [' ', '*', '/'])

theorem render_comment {c : ColumnText} {t : String} (told : c.comment = some t) :
    c.render = { c with comment := none }.render ++ " " ++ String.ofList (commentBody t) := by
  apply String.toList_inj.mp
  simp [ColumnText.render, told, ColumnText.commentText, commentBody]

theorem isWhole_commentBody {t : String} : IsWhole (commentBody t) ↔ IsWhole t.toList := by
  simp [commentBody, isWhole_replacePair]

/-- A text without U+0000 is read as it was written into a statement: in double quotes as one name,
whose value it is; as the default of a column of any type as one literal behind the word; and as the
comment of a column, with which the column ends, as one comment. Behind each, the statement is read
on. -/
theorem quoting_exact {t : String} (whole : IsWhole t.toList) :
    (∀ r : List Char, r.head? ≠ some '"' → ReadsAs (quotedName t).toList [nameOf t] r) ∧
    (∀ type r, Parts r → ∃ literal, IsLiteral t literal ∧
      ReadsAs (ColumnConstraint.default (.ofText type t)).render.toList
        (wordOf "DEFAULT" :: ⟨.blank, [' ']⟩ :: literal) r) ∧
    (∀ c : ColumnText, c.comment = some t → ∃ body : String,
      c.render = { c with comment := none }.render ++ " " ++ body ∧
        ∀ r, ReadsAs body.toList [⟨.comment, body.toList⟩] r) := by
  refine ⟨fun r other => ?_, fun type r parts => ?_, fun c told => ?_⟩
  · have next := next?_quotedName t (head?_untilNull other)
    exact .of_cut (isWhole_quotedName.mpr whole) (.one next)
  · obtain ⟨literal, written, cut⟩ := cut_default type parts.untilNull
    exact ⟨literal, written, .of_cut ((isWhole_default type).mpr whole) cut⟩
  · refine ⟨_, render_comment told, fun r => ?_⟩
    rw [String.toList_ofList]
    have next := next?_comment (not_infix_replacePair t.toList) (untilNull r)
    exact .of_cut (isWhole_commentBody.mpr whole) (.one next)

theorem quoting_exact_marks :
    IsWhole "\"'**//".toList ∧
      ReadsAs (quotedName "\"'**//").toList [nameOf "\"'**//"] " TEXT".toList ∧
      ∃ body : String,
        ColumnText.render { name := "f", type := "TEXT", comment := some "\"'**//" } =
          ColumnText.render { name := "f", type := "TEXT" } ++ " " ++ body ∧
        ReadsAs body.toList [⟨.comment, body.toList⟩] "*/)".toList := by
  have whole : IsWhole "\"'**//".toList := isWhole_iff_all.mpr (by decide)
  obtain ⟨name, -, comment⟩ := quoting_exact whole
  obtain ⟨body, told, read⟩ := comment { name := "f", type := "TEXT", comment := some "\"'**//" } rfl
  exact ⟨whole, name _ (by decide), body, told, read _⟩

example : (scan "DEFAULT -.5e1,".toList).map Token.kind =
    [.word, .blank, .sign, .number, .sign] := by decide

end EntityEngine.Sql
