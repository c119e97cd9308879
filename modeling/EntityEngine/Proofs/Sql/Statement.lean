import EntityEngine.Proofs.Sql.ColumnType
import EntityEngine.Proofs.Sql.Piece
import EntityEngine.Sql.TableSpec.Parser

/-! The statements that make a table and its indexes. Where the types of the columns are delimited,
each text is one statement, from its first word to the parenthesis at its end, whatever stands in
names, defaults and comments. -/

namespace EntityEngine.Sql

open Number Token

/-! ### Columns -/

/-- A default is read by itself, whatever text it stands for. -/
theorem DefaultValue.Stands.piece {raw : String} {value : DefaultValue} (h : Stands raw value) :
    IsPiece value.literal.toList := by
  cases h with
  | number whole => exact piece_numeral whole
  | flag b _ =>
    cases b with
    | false => exact piece_numeral (n := ⟨false, ['0'], none, none⟩) rfl
    | true => exact piece_numeral (n := ⟨false, ['1'], none, none⟩) rfl
  | clock mem _ =>
    have plain : ∀ w ∈ clockWords, isPlainWord w.toList = true := by decide
    exact piece_word (plain _ mem)
  | text => exact piece_quotedText raw

theorem IsPiece.word {s : List Char} (h : IsPiece s) {w : String}
    (plain : isPlainWord w.toList = true) : IsPiece (w.toList ++ ' ' :: s) :=
  (piece_word plain).append (h.blank (by decide)) (Follows.space s)

/-- A column whose type is delimited, and whose constraints are pieces. -/
structure ColumnText.StandsAlone (c : ColumnText) : Prop where
  type : Delimited c.type.toList
  constraints : ∀ k ∈ c.constraints, IsPiece k.render.toList

theorem piece_notNull : IsPiece (ColumnConstraint.render .notNull).toList :=
  IsPiece.word (w := "NOT") (s := "NULL".toList) (piece_word (by decide)) (by decide)

theorem piece_unique : IsPiece (ColumnConstraint.render .unique).toList :=
  piece_word (by decide)

theorem piece_autoKey : IsPiece (ColumnConstraint.render .autoKey).toList :=
  IsPiece.word (w := "PRIMARY") (s := "KEY".toList ++ ' ' :: "AUTOINCREMENT".toList)
    (IsPiece.word (piece_word (by decide)) (by decide)) (by decide)

theorem piece_defaultConstraint {value : DefaultValue} (h : IsPiece value.literal.toList) :
    IsPiece (ColumnConstraint.render (.default value)).toList := by
  have text : (ColumnConstraint.render (.default value)).toList =
      "DEFAULT".toList ++ ' ' :: value.literal.toList := by
    rw [ColumnConstraint.render, String.toList_append]
    rfl
  rw [text]
  exact h.word (by decide)

/-- Constraints one after the other, each behind a space. -/
theorem piece_constraints {constraints : List ColumnConstraint}
    (h : ∀ k ∈ constraints, IsPiece k.render.toList) :
    IsPiece (String.join (constraints.map fun k => " " ++ k.render)).toList ∧
      Follows (String.join (constraints.map fun k => " " ++ k.render)).toList := by
  induction constraints with
  | nil => exact ⟨.nil, .nil⟩
  | cons k constraints ih =>
    obtain ⟨piece, follows⟩ := ih fun k hk => h k (List.mem_cons_of_mem _ hk)
    have first := (h k List.mem_cons_self).blank (c := ' ') (by decide)
    have text : (String.join ((k :: constraints).map fun k => " " ++ k.render)).toList =
        (' ' :: k.render.toList) ++
          (String.join (constraints.map fun k => " " ++ k.render)).toList := by
      rw [List.map_cons, String.join_cons, String.toList_append, String.toList_append]
      rfl
    rw [text]
    exact ⟨first.append piece follows, (Follows.space k.render.toList).append follows⟩

theorem ColumnText.StandsAlone.piece {c : ColumnText} (h : c.StandsAlone) :
    IsPiece c.render.toList := by
  obtain ⟨constraints, follows⟩ := piece_constraints h.constraints
  have type : IsPiece c.type.toList := ⟨_, h.type.inner, h.type.reads⟩
  rw [render, String.toList_append, String.toList_append, String.toList_append, String.toList_append]
  refine IsPiece.append ?_ ?_ ?_
  · refine IsPiece.append ?_ constraints follows
    rw [List.append_assoc]
    exact (piece_quotedName c.name).append (type.blank (by decide)) (.space _)
  · cases c.comment with
    | none => exact .nil
    | some s => exact piece_commentText s
  · cases c.comment with
    | none => exact .nil
    | some s =>
      simp only [commentText, String.toList_append]
      exact Follows.space _

/-! ### Tables -/

/-- Pieces between commas. -/
theorem piece_join {separator : String} {blanks : List Char}
    (comma : separator.toList = ',' :: blanks) (all : blanks.all isBlankChar = true)
    {lines : List String} (h : ∀ line ∈ lines, IsPiece line.toList) :
    IsPiece (Text.join separator lines).toList := by
  induction lines with
  | nil => exact .nil
  | cons line lines ih =>
    have first := h line List.mem_cons_self
    have others := ih fun line hl => h line (List.mem_cons_of_mem _ hl)
    cases lines with
    | nil => rwa [Text.join, String.intercalate_singleton]
    | cons next lines =>
      have text : (Text.join separator (line :: next :: lines)).toList =
          line.toList ++ ',' :: (blanks ++ (Text.join separator (next :: lines)).toList) := by
        rw [Text.join, String.intercalate_cons_cons, String.toList_append, String.toList_append,
          comma]
        simp [Text.join]
      rw [text]
      exact first.append (piece_comma (others.blanks (List.all_eq_true.mp all))) (.comma _)

theorem piece_names (names : List String) :
    IsPiece (Text.join ", " (names.map quotedName)).toList := by
  have comma : ", ".toList = [',', ' '] := by simp
  refine piece_join comma (by decide) fun line hl => ?_
  obtain ⟨name, -, rfl⟩ := List.mem_map.mp hl
  exact piece_quotedName name

theorem piece_keyText (columns : List String) : IsPiece (TableText.keyText columns).toList := by
  have text : (TableText.keyText columns).toList = "PRIMARY".toList ++ ' ' :: ("KEY".toList ++
      ' ' :: '(' :: ((Text.join ", " (columns.map quotedName)).toList ++ [')'])) := by
    unfold TableText.keyText
    simp
  rw [text]
  exact IsPiece.word (IsPiece.word (piece_names columns).parens (by decide))
    (by decide)

/-! ### Statements -/

/-- A text that is one statement: some tokens, and a closing parenthesis at its very end. -/
structure IsStatement (text : String) (ts : List Token) : Prop where
  whole : IsWhole text.toList
  tokens : (scan text.toList).filter isMeaningful = ts ++ [signOf ')']
  closes : (scan text.toList).getLast? = some (signOf ')')
  single : firstStatement (placedTokens text.toList) = (placedTokens text.toList, [])

/-- What a statement that makes a table starts with. -/
def tableHead (table : String) : List Token :=
  [wordOf "CREATE", wordOf "TABLE", nameOf table, signOf '(']

/-- A text that makes a table and does nothing else. The parenthesis behind the name is closed at
the end, and not before. -/
def IsTableStatement (table text : String) : Prop :=
  ∃ inner, IsInner inner ∧ IsStatement text (tableHead table ++ inner)

/-- A text that makes an index on a column of a table and does nothing else. -/
def IsIndexStatement (table text : String) : Prop :=
  ∃ name column, IsStatement text
    [wordOf "CREATE", wordOf "INDEX", wordOf "IF", wordOf "NOT", wordOf "EXISTS", nameOf name,
      wordOf "ON", nameOf table, signOf '(', nameOf column]

theorem firstStatement_single {tokens : List PlacedToken}
    (h : ∀ t ∈ tokens, t.token.isWord ";" = false) : firstStatement tokens = (tokens, []) := by
  have own : tokens.takeWhile (fun t => !t.token.isWord ";") = tokens :=
    List.takeWhile_eq_self_iff.mpr fun t ht => by simp [h t ht]
  unfold firstStatement
  simp only [own, List.drop_length]

theorem token_placedTokensFuel (fuel place : Nat) (s : List Char) :
    (placedTokensFuel fuel place s).map PlacedToken.token =
      (scanFuel fuel s).filter isMeaningful := by
  induction fuel generalizing place s with
  | zero => rfl
  | succ fuel ih =>
    unfold placedTokensFuel scanFuel
    cases next? s with
    | none => rfl
    | some p =>
      simp only [List.filter_cons]
      split
      · rw [List.map_cons, ih]
      · exact ih _ _

theorem token_placedTokens {s : List Char} (whole : IsWhole s) :
    (placedTokens s).map PlacedToken.token = (scan s).filter isMeaningful := by
  rw [placedTokens, whole.untilNull, token_placedTokensFuel, scan]

/-- A text that starts with a word, and is read by itself up to the parenthesis at its end. -/
theorem isStatement_of_reads {text : String} {r v : List Char} {ts : List Token}
    (eq : text.toList = 'C' :: r ++ v) (closing : v = [')'] ∨ v = ['\n', ')'])
    (reads : Reads ('C' :: r) ts) (single : ∀ t ∈ ts, t.isWord ";" = false)
    (whole : IsWhole text.toList) : IsStatement text ts := by
  have behind : Parts v ∧ scanned v = [signOf ')'] := by
    rcases closing with rfl | rfl
    · exact ⟨⟨_, _, rfl, by simp⟩, rfl⟩
    · exact ⟨⟨_, _, rfl, by simp⟩, rfl⟩
  obtain ⟨read, own, found⟩ := reads v behind.1
  have scan_text : scan text.toList = read ++ [signOf ')'] := by
    rw [eq, ← behind.2, ← found]
    rfl
  have tokens : (scan text.toList).filter isMeaningful = ts ++ [signOf ')'] := by
    rw [scan_text, List.filter_append, own]
    rfl
  refine ⟨whole, tokens, ?_, firstStatement_single fun t ht => ?_⟩
  · rw [scan_text, List.getLast?_concat]
  · have mem : t.token ∈ ts ++ [signOf ')'] := by
      rw [← tokens, ← token_placedTokens whole]
      exact List.mem_map_of_mem ht
    rcases List.mem_append.mp mem with mem | mem
    · exact single _ mem
    · rw [List.mem_singleton.mp mem]
      decide

theorem Reads.word {s : List Char} {ts : List Token} (h : Reads s ts) {w : String}
    (plain : isPlainWord w.toList = true) : Reads (w.toList ++ ' ' :: s) (wordOf w :: ts) :=
  (reads_word plain).append (h.blank (by decide)) (Follows.space s)

theorem Reads.name {s : List Char} {ts : List Token} (h : Reads s ts) (name : String) :
    Reads ((quotedName name).toList ++ ' ' :: s) (nameOf name :: ts) :=
  (reads_quotedName name).append (h.blank (by decide)) (Follows.space s)

/-- The text of a table's statement in front of its columns. -/
def tableHeadText (table : String) : List Char :=
  "CREATE TABLE ".toList ++ (quotedName table).toList ++ " (\n  ".toList

theorem reads_tableHead (table : String) {s : List Char} {ts : List Token} (h : Reads s ts) :
    Reads (tableHeadText table ++ s) (tableHead table ++ ts) := by
  have line : Reads ('\n' :: ' ' :: ' ' :: s) ts :=
    ((h.blank (c := ' ') (by decide)).blank (c := ' ') (by decide)).blank (by decide)
  have named := (reads_opening line).name table
  have text : tableHeadText table ++ s = "CREATE".toList ++ ' ' :: ("TABLE".toList ++
      ' ' :: ((quotedName table).toList ++ ' ' :: '(' :: '\n' :: ' ' :: ' ' :: s)) := by
    unfold tableHeadText
    simp
  rw [text]
  exact (named.word (by decide)).word (by decide)

theorem single_tableHead (table : String) : ∀ t ∈ tableHead table, t.isWord ";" = false := by
  simp only [tableHead, List.forall_mem_cons, List.not_mem_nil, false_imp_iff, implies_true,
    and_true]
  exact ⟨by decide, by decide, rfl, by decide⟩

namespace TableText

variable {t : TableText}

theorem toList_render (plain : t.ifNotExists = false) : t.render.toList = tableHeadText t.table ++
    (Text.join ",\n  " (t.columns.map ColumnText.render ++
      if t.primaryKey.isEmpty then [] else [keyText t.primaryKey])).toList ++ ['\n', ')'] := by
  unfold render opening body tableHeadText
  simp [plain]

/-- A table whose columns stand alone is made by one statement. -/
theorem isTableStatement_render (plain : t.ifNotExists = false)
    (alone : ∀ c ∈ t.columns, c.StandsAlone) (whole : IsWhole t.render.toList) :
    IsTableStatement t.table t.render := by
  have lines : ∀ line ∈ t.columns.map ColumnText.render ++
      (if t.primaryKey.isEmpty then [] else [keyText t.primaryKey]), IsPiece line.toList := by
    intro line hl
    rcases List.mem_append.mp hl with hl | hl
    · obtain ⟨c, hc, rfl⟩ := List.mem_map.mp hl
      exact (alone c hc).piece
    · split at hl
      · cases hl
      · rw [List.mem_singleton.mp hl]
        exact piece_keyText t.primaryKey
  have comma : ",\n  ".toList = [',', '\n', ' ', ' '] := by simp
  obtain ⟨inner, isInner, reads⟩ := piece_join comma (by decide) lines
  refine ⟨inner, isInner, ?_⟩
  refine isStatement_of_reads (toList_render plain) (Or.inr rfl) (reads_tableHead t.table reads)
    (fun u hu => ?_) whole
  rcases List.mem_append.mp hu with hu | hu
  · exact single_tableHead t.table u hu
  · exact isInner.single u hu

end TableText

/-- An index is made by one statement, whatever the names. -/
theorem IndexText.isIndexStatement_render {name table column : String}
    (whole : IsWhole (IndexText.render { name, table, columns := [column] }).toList) :
    IsIndexStatement table (IndexText.render { name, table, columns := [column] }) := by
  have text : (IndexText.render { name, table, columns := [column] }).toList =
      "CREATE".toList ++ ' ' :: ("INDEX".toList ++ ' ' :: ("IF".toList ++ ' ' :: ("NOT".toList ++
        ' ' :: ("EXISTS".toList ++ ' ' :: ((quotedName name).toList ++ ' ' :: ("ON".toList ++
          ' ' :: ((quotedName table).toList ++ ' ' :: '(' :: (quotedName column).toList))))))) ++
        [')'] := by
    have start : "CREATE ".toList = "CREATE".toList ++ [' '] ∧
        "INDEX ".toList = "INDEX".toList ++ [' '] ∧ "IF NOT EXISTS ".toList = "IF".toList ++
          ' ' :: ("NOT".toList ++ ' ' :: ("EXISTS".toList ++ [' '])) := by decide
    have rest : " ON ".toList = ' ' :: ("ON".toList ++ [' ']) ∧ " (".toList = [' ', '('] ∧
        ")".toList = [')'] ∧ "".toList = [] := by decide
    unfold render renderWith Text.join
    simp only [List.map_cons, List.map_nil, String.intercalate_singleton, String.toList_append, start,
      rest, Bool.false_eq_true, if_false, List.append_assoc, List.cons_append, List.nil_append,
      List.append_nil]
  have on := ((reads_opening (reads_quotedName column)).name table).word (w := "ON")
    (by decide)
  have reads := ((((((on.name name).word (w := "EXISTS") (by decide)).word (w := "NOT")
    (by decide)).word (w := "IF") (by decide)).word (w := "INDEX")
    (by decide)).word (w := "CREATE") (by decide))
  refine ⟨name, column, isStatement_of_reads text (Or.inl rfl) reads (fun t ht => ?_) whole⟩
  revert t
  simp only [List.forall_mem_cons, List.not_mem_nil, false_imp_iff, implies_true, and_true]
  exact ⟨by decide, by decide, by decide, by decide,
    by decide, rfl, by decide, rfl, by decide, rfl⟩

end EntityEngine.Sql
