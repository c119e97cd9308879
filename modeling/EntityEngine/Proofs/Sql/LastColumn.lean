import EntityEngine.Proofs.Sql.Statement

/-! The type at the end of a table's statement. A type that leaves the statement what it is, in front
of the last parenthesis and in front of a comment of two lines, is delimited: of what can go on
behind a type, a comment to the end of the line is all that the last parenthesis leaves room for, and
the second line of the other comment is then read as part of the statement. -/

namespace EntityEngine.Sql

open Token

/-- A text at whose end the rest of the line is lost. -/
def RunsOn (s : List Char) : Prop :=
  ∀ v, Parts v → ∃ read, scan (s ++ v) = read ++ scan (v.dropWhile (· ≠ '\n'))

/-- A text in front of the last parenthesis ends there, or loses the rest of the line. -/
theorem ends_or_runsOn (s : List Char) (legal : ∀ t ∈ scan (s ++ ['\n', ')']), t.kind ≠ .illegal)
    (closes : (scan (s ++ ['\n', ')'])).getLast? = some (signOf ')')) :
    ((scan (s ++ [' '])).getLast?.any (fun t => t.kind = .blank) = true ∧
      (scan (s ++ ['\n', ')'])).filter isMeaningful =
        (scan (s ++ [' '])).filter isMeaningful ++ [signOf ')']) ∨ RunsOn s := by
  induction length : s.length using Nat.strong_induction_on generalizing s with
  | _ n ih =>
    cases s with
    | nil => exact Or.inl ⟨rfl, rfl⟩
    | cons c r =>
      cases reach c r with
      | own t rest cut takes next =>
        have less : rest.length < n := by
          have pos : 0 < t.raw.length := List.length_pos_iff.mpr takes
          have lengths := congrArg List.length cut
          rw [List.length_append] at lengths
          omega
        have space : scan (c :: r ++ [' ']) = t :: scan (rest ++ [' ']) :=
          scan_eq (next [' '] Reach.parts_space)
        have closing : scan (c :: r ++ ['\n', ')']) = t :: scan (rest ++ ['\n', ')']) :=
          scan_eq (next _ Reach.parts_closing)
        rw [closing, List.getLast?_cons_of_ne_nil
          (scan_append_ne_nil rest (List.cons_ne_nil '\n' [')']))] at closes
        rw [closing] at legal
        have later := ih rest.length less rest
          (fun t ht => legal t (List.mem_cons_of_mem _ ht)) closes rfl
        rcases later with ⟨ends, tokens⟩ | runs
        · refine Or.inl ⟨?_, ?_⟩
          · rw [space, List.getLast?_cons_of_ne_nil
              (scan_append_ne_nil rest (List.cons_ne_nil ' ' []))]
            exact ends
          · rw [closing, space, List.filter_cons, List.filter_cons, tokens]
            split <;> rfl
        · refine Or.inr fun v hv => ?_
          obtain ⟨read, found⟩ := runs v hv
          exact ⟨t :: read, by rw [scan_eq (next v hv), found]; rfl⟩
      | blank all =>
        have more : (c :: (r ++ [' '])).all isBlankChar = true := by
          rw [← List.cons_append, List.all_append, all]
          rfl
        have space : scan (c :: r ++ [' ']) = [⟨.blank, c :: (r ++ [' '])⟩] := scan_blanks more
        obtain ⟨blanks, none, found⟩ := scan_scanned (c :: r ++ ['\n', ')'])
        refine Or.inl ⟨by rw [space]; rfl, ?_⟩
        rw [space, found, scanned_blanks all, List.filter_append, none]
        rfl
      | line next => exact Or.inr fun v hv => ⟨[_], scan_eq (next v hv)⟩
      | broken next =>
        obtain ⟨t, rest, first, illegal | ⟨comment, none⟩⟩ := next ['\n', ')'] (Or.inr rfl)
        · rw [scan_eq first] at legal
          exact absurd illegal (legal t List.mem_cons_self)
        · rw [scan_eq first, none, scan_nil] at closes
          obtain rfl : t = signOf ')' := by simpa using closes
          cases comment

variable {s : List Char} {inner pre ts : List Token}

theorem delimited_or_runsOn (whole : IsWhole s) (isInner : IsInner inner)
    (tokens : (scan (s ++ ['\n', ')'])).filter isMeaningful = inner ++ [signOf ')'])
    (closes : (scan (s ++ ['\n', ')'])).getLast? = some (signOf ')')) :
    Delimited s ∨ RunsOn s := by
  have legal : ∀ t ∈ scan (s ++ ['\n', ')']), t.kind ≠ .illegal := by
    intro t ht illegal
    have meaningful : t.isMeaningful = true := by rw [isMeaningful, illegal]
    have mem : t ∈ inner ++ [signOf ')'] := by
      rw [← tokens]
      exact List.mem_filter.mpr ⟨ht, meaningful⟩
    rcases List.mem_append.mp mem with mem | mem
    · exact isInner.legal t mem illegal
    · rw [List.mem_singleton.mp mem] at illegal
      cases illegal
  rcases ends_or_runsOn s legal closes with ⟨ends, same⟩ | runsOn
  · refine Or.inl ⟨whole, ends, ?_⟩
    rw [same] at tokens
    rwa [List.append_cancel_right tokens]
  · exact Or.inr runsOn

/-- What is left of the tokens inside of a statement behind some that stand there as well. -/
theorem rest_of_inner (isPre : IsInner pre) (isInner : IsInner inner)
    (eq : pre ++ ts = inner ++ [signOf ')']) : ∃ rest, IsInner rest ∧ ts = rest ++ [signOf ')'] := by
  rcases List.append_eq_append_iff.mp eq with ⟨rest, split, own⟩ | ⟨rest, split, own⟩
  · refine ⟨rest, ⟨?_, ?_, ?_⟩, own⟩
    · exact fun t ht => isInner.legal t (by rw [split]; exact List.mem_append_right _ ht)
    · exact fun t ht => isInner.single t (by rw [split]; exact List.mem_append_right _ ht)
    · have balanced := isInner.balanced
      rwa [split, isPre.openAfter_append] at balanced
  · cases rest with
    | nil => exact ⟨[], .nil, own.symm⟩
    | cons t rest =>
      -- Otherwise the closing parenthesis would stand in front of its opening one.
      obtain ⟨rfl, nothing⟩ := List.cons.inj own
      obtain ⟨rfl, rfl⟩ := List.append_eq_nil_iff.mp nothing.symm
      have balanced := isPre.balanced
      rw [split, isInner.openAfter_append] at balanced
      have closed : openAfter 0 [signOf ')'] = none := by decide
      rw [closed] at balanced
      cases balanced

theorem join_concat_append (separator : String) (lines : List String) (a b : String) :
    Text.join separator (lines ++ [a ++ b]) = Text.join separator (lines ++ [a]) ++ b := by
  induction lines with
  | nil => simp [Text.join, String.intercalate_singleton]
  | cons line lines ih =>
    obtain ⟨next, others, cons⟩ := List.exists_cons_of_ne_nil
      (List.append_ne_nil_of_right_ne_nil lines (List.cons_ne_nil (a ++ b) []))
    obtain ⟨next', others', cons'⟩ := List.exists_cons_of_ne_nil
      (List.append_ne_nil_of_right_ne_nil lines (List.cons_ne_nil a []))
    rw [cons, cons', Text.join, Text.join] at ih
    rw [List.cons_append, List.cons_append, cons, cons', Text.join, Text.join,
      String.intercalate_cons_cons, String.intercalate_cons_cons, ih, String.append_assoc,
      String.append_assoc, String.append_assoc]

/-! ### The last column -/

namespace TableText

variable {table name type : String} {before : List ColumnText} {comment : Option String}

/-- A table with one more column behind some. -/
def withLast (table : String) (before : List ColumnText) (name type : String)
    (comment : Option String) : TableText :=
  { table, columns := before ++ [{ name, type, comment }] }

/-- What stands behind the name of the last column. -/
def lastText (type : String) (comment : Option String) : List Char :=
  type.toList ++ (comment.elim "" ColumnText.commentText).toList ++ ['\n', ')']

theorem toList_render_withLast : (withLast table before name type comment).render.toList =
    tableHeadText table ++
      (Text.join ",\n  " (before.map ColumnText.render ++ [quotedName name])).toList ++
      ' ' :: lastText type comment := by
  have line : ColumnText.render { name, type, comment } =
      quotedName name ++ (" " ++ type ++ comment.elim "" ColumnText.commentText) := by
    unfold ColumnText.render
    cases comment <;> simp [String.append_assoc]
  have noKey : (withLast table before name type comment).primaryKey.isEmpty = true := rfl
  rw [toList_render rfl, if_pos noKey, List.append_nil, withLast, List.map_append,
    List.map_singleton, line, join_concat_append]
  simp [lastText]

/-- Behind the name of the last column, too, one statement has tokens of its inside and the last
parenthesis. -/
theorem tokens_lastText (alone : ∀ c ∈ before, c.StandsAlone)
    (h : IsTableStatement table (withLast table before name type comment).render) :
    ∃ inner, IsInner inner ∧
      (scan (lastText type comment)).filter isMeaningful = inner ++ [signOf ')'] ∧
      (scan (lastText type comment)).getLast? = some (signOf ')') := by
  obtain ⟨inner, isInner, statement⟩ := h
  have lines : ∀ line ∈ before.map ColumnText.render ++ [quotedName name],
      IsPiece line.toList := by
    intro line hl
    rcases List.mem_append.mp hl with hl | hl
    · obtain ⟨c, hc, rfl⟩ := List.mem_map.mp hl
      exact (alone c hc).piece
    · rw [List.mem_singleton.mp hl]
      exact piece_quotedName name
  have comma : ",\n  ".toList = [',', '\n', ' ', ' '] := by simp
  obtain ⟨pre, isPre, reads⟩ := piece_join comma (by decide) lines
  obtain ⟨read, own, found⟩ := reads_tableHead table reads (' ' :: lastText type comment)
    ⟨_, _, rfl, by simp⟩
  rw [scanned_blank (by decide)] at found
  have text : scan (withLast table before name type comment).render.toList =
      read ++ scanned (lastText type comment) := by
    rw [toList_render_withLast, ← found]
    rfl
  obtain ⟨blanks, none, last⟩ := scan_scanned (lastText type comment)
  have tokens := statement.tokens
  rw [text, List.filter_append, own, List.append_assoc, List.append_assoc] at tokens
  obtain ⟨rest, isRest, eq⟩ := rest_of_inner isPre isInner (List.append_cancel_left tokens)
  have some : scanned (lastText type comment) ≠ [] := by
    intro empty
    rw [empty] at eq
    exact absurd eq (by simp)
  refine ⟨rest, isRest, ?_, ?_⟩
  · rw [last, List.filter_append, none, List.nil_append, eq]
  · have closes := statement.closes
    rw [text, List.getLast?_append_of_ne_nil _ some] at closes
    rw [last, List.getLast?_append_of_ne_nil _ some, closes]

/-- A type with which both tables are made by one statement is delimited. -/
theorem delimited_of_last (alone : ∀ c ∈ before, c.StandsAlone)
    (bare : IsTableStatement table (withLast table before name type none).render)
    (twoLines : IsTableStatement table (withLast table before name type (some "\n;")).render) :
    Delimited type.toList := by
  have whole : IsWhole type.toList := by
    obtain ⟨inner, isInner, statement⟩ := bare
    have all := statement.whole
    rw [toList_render_withLast, isWhole_append, isWhole_cons] at all
    exact (isWhole_append.mp (isWhole_append.mp all.2.2).1).1
  obtain ⟨inner, isInner, tokens, closes⟩ := tokens_lastText alone bare
  have empty : lastText type none = type.toList ++ ['\n', ')'] := by simp [lastText]
  rw [empty] at tokens closes
  rcases delimited_or_runsOn whole isInner tokens closes with delimited | runs
  · exact delimited
  · -- The second line of the comment is read, and it ends the statement.
    have comment : lastText type (some "\n;") =
        type.toList ++ ' ' :: "/* \n; */\n)".toList := by
      simp [lastText, ColumnText.commentText, Text.replacePair]
    obtain ⟨inner, isInner, tokens, -⟩ := tokens_lastText alone twoLines
    obtain ⟨read, found⟩ := runs (' ' :: "/* \n; */\n)".toList) ⟨_, _, rfl, Or.inl rfl⟩
    rw [comment, found] at tokens
    have line : signOf ';' ∈
        scan ((' ' :: "/* \n; */\n)".toList).dropWhile (· ≠ '\n')) := by decide
    have mem : signOf ';' ∈ inner ++ [signOf ')'] := by
      rw [← tokens]
      exact List.mem_filter.mpr ⟨List.mem_append_right _ line, rfl⟩
    have ends : (signOf ';').isWord ";" = true := by decide
    rcases List.mem_append.mp mem with mem | mem
    · rw [isInner.single _ mem] at ends
      cases ends
    · exact absurd (List.mem_singleton.mp mem) (by decide)

end TableText

end EntityEngine.Sql
