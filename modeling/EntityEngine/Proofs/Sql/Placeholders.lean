import EntityEngine.Sql.Selection
import Mathlib.Data.List.Forall2

/-! The placeholders of a selection. Texts and values are put together apart from each other; still
every placeholder gets the value that belongs in its place, whatever the names in double quotes
hold. -/

namespace EntityEngine.Sql

/-- How many placeholders a text has. Those within names in double quotes are none. -/
def placeholders (inName : Bool) : List Char → Nat
  | [] => 0
  | c :: s =>
    if c = '"' then placeholders (!inName) s
    else if c = '?' ∧ inName = false then placeholders inName s + 1
    else placeholders inName s

/-- A text with values in the places of its placeholders, as long as there are any. -/
def fill (inName : Bool) : List Char → List Value → List (Char ⊕ Value)
  | [], _ => []
  | c :: s, vs =>
    if c = '"' then .inl c :: fill (!inName) s vs
    else if c = '?' ∧ inName = false then
      vs.head?.elim (.inl c) .inr :: fill inName s vs.tail
    else .inl c :: fill inName s vs

/-- A text without values. -/
def told (s : String) : List (Char ⊕ Value) := s.toList.map .inl

theorem told_append (s t : String) : told (s ++ t) = told s ++ told t := by simp [told]

/-- Neither a placeholder nor a name in double quotes stands in a text. -/
def IsBareText (s : String) : Prop := ∀ c ∈ s.toList, c ≠ '"' ∧ c ≠ '?'

instance (s : String) : Decidable (IsBareText s) :=
  List.decidableBAll (fun c => c ≠ '"' ∧ c ≠ '?') s.toList

/-- A text has one placeholder for each of some values, and they stand for what is spelled, whatever
comes behind. -/
structure Spells (text : List Char) (values : List Value) (spelled : List (Char ⊕ Value)) :
    Prop where
  count : ∀ s, placeholders false (text ++ s) = values.length + placeholders false s
  filled : ∀ s vs, fill false (text ++ s) (values ++ vs) = spelled ++ fill false s vs

namespace Spells

variable {text text' : List Char} {values values' : List Value}
  {spelled spelled' : List (Char ⊕ Value)}

theorem append (h : Spells text values spelled) (h' : Spells text' values' spelled') :
    Spells (text ++ text') (values ++ values') (spelled ++ spelled') := by
  constructor
  · intro s
    rw [List.append_assoc, h.count, h'.count, List.length_append, Nat.add_assoc]
  · intro s vs
    rw [List.append_assoc, List.append_assoc, h.filled, h'.filled, List.append_assoc]

theorem nil : Spells [] [] [] :=
  ⟨fun _ => (Nat.zero_add _).symm, fun _ _ => rfl⟩

theorem value (v : Value) : Spells ['?'] [v] [.inr v] := by
  constructor
  · exact fun s => Nat.add_comm (placeholders false s) 1
  · exact fun _ _ => rfl

theorem bare {s : String} (h : IsBareText s) : Spells s.toList [] (told s) := by
  have chars : ∀ l : List Char, (∀ c ∈ l, c ≠ '"' ∧ c ≠ '?') → Spells l [] (l.map .inl) := by
    intro l bare
    induction l with
    | nil => exact nil
    | cons c l ih =>
      obtain ⟨quote, hole⟩ := bare c List.mem_cons_self
      have rest := ih fun d hd => bare d (List.mem_cons_of_mem c hd)
      constructor
      · intro s
        rw [List.cons_append, placeholders, if_neg quote, if_neg (fun h => hole h.1), rest.count]
      · intro s vs
        rw [List.cons_append, fill, if_neg quote, if_neg (fun h => hole h.1), rest.filled]
        rfl
  exact chars s.toList h

/-- A quote in a name is doubled, so the name goes on behind it. -/
theorem name (name : String) : Spells (quotedName name).toList [] (told (quotedName name)) := by
  have text : (quotedName name).toList = '"' :: (Text.double '"' name.toList ++ ['"']) := by
    rw [quotedName, String.toList_ofList]
  have inside : ∀ l s : List Char,
      placeholders true (Text.double '"' l ++ s) = placeholders true s ∧
        ∀ vs, fill true (Text.double '"' l ++ s) vs =
          (Text.double '"' l).map .inl ++ fill true s vs := by
    intro l s
    induction l with
    | nil => exact ⟨rfl, fun vs => rfl⟩
    | cons c l ih =>
      by_cases quote : c = '"'
      · have doubled : Text.double '"' (c :: l) = '"' :: '"' :: Text.double '"' l := by
          rw [quote]
          rfl
        rw [doubled]
        refine ⟨ih.1, fun vs => ?_⟩
        show Sum.inl '"' :: Sum.inl '"' :: fill true (Text.double '"' l ++ s) vs = _
        rw [ih.2]
        rfl
      · have kept : Text.double '"' (c :: l) = c :: Text.double '"' l := by
          simp [Text.double, quote]
        have inName : ¬ (c = '?' ∧ true = false) := fun h => Bool.noConfusion h.2
        rw [kept]
        refine ⟨?_, fun vs => ?_⟩
        · rw [List.cons_append, placeholders, if_neg quote, if_neg inName, ih.1]
        · rw [List.cons_append, fill, if_neg quote, if_neg inName, ih.2]
          rfl
  rw [told, text]
  constructor
  · intro s
    show placeholders true (Text.double '"' name.toList ++ ['"'] ++ s) = 0 + placeholders false s
    rw [List.append_assoc, (inside _ _).1, Nat.zero_add]
    rfl
  · intro s vs
    show Sum.inl '"' :: fill true (Text.double '"' name.toList ++ ['"'] ++ s) vs = _
    rw [List.append_assoc, (inside _ _).2, List.map_cons, List.map_append]
    simp [fill]

/-- Text without placeholders on both sides. -/
theorem within {before after : String} (b : IsBareText before) (h : Spells text values spelled)
    (a : IsBareText after) : Spells (before.toList ++ text ++ after.toList) values
      (told before ++ spelled ++ told after) := by
  have all := ((bare b).append h).append (bare a)
  rwa [List.nil_append, List.append_nil] at all

/-- Text and then a value behind what is there. -/
theorem thenValue (h : Spells text values spelled) (between : String) (b : IsBareText between)
    (v : Value) : Spells (text ++ between.toList ++ ['?']) (values ++ [v])
      (spelled ++ told between ++ [.inr v]) := by
  have all := (h.append (bare b)).append (value v)
  rwa [List.append_nil] at all

theorem join {separator : String} (b : IsBareText separator) {parts : List Fragment}
    {spelled : List (List (Char ⊕ Value))}
    (h : List.Forall₂ (fun f p => Spells f.text.toList f.params p) parts spelled) :
    Spells (Fragment.join separator parts).text.toList (Fragment.join separator parts).params
      (List.intercalate (told separator) spelled) := by
  induction h with
  | nil => exact nil
  | @cons f p parts spelled first rest ih =>
    cases rest with
    | nil =>
      have one := first
      simpa [Fragment.join, Text.join] using one
    | @cons g q parts spelled second rest =>
      have text : (Fragment.join separator (f :: g :: parts)).text.toList =
          f.text.toList ++ separator.toList ++ (Fragment.join separator (g :: parts)).text.toList := by
        simp [Fragment.join, Text.join, String.intercalate_cons_cons]
      rw [text, List.intercalate_cons_cons]
      have all := (first.append (bare b)).append ih
      rwa [List.append_nil] at all

end Spells

/-! ### Selections with their values in place -/

def Operand.spelled : Operand → List (Char ⊕ Value)
  | .plain name => told name
  | .column name => told (quotedName name)
  | .member field =>
    told "json_extract(data_json, " ++ [.inr (.text (memberPath field))] ++ told ")"

/-- Only columns of the engine's own tables stand outside of double quotes. -/
def Operand.IsBare : Operand → Prop
  | .plain name => IsBareText name
  | _ => True

namespace Condition

def spelled : Condition → List (Char ⊕ Value)
  | compare left op right => left.spelled ++ told (" " ++ op.sign ++ " ") ++ [.inr right]
  | compareNumber left op right =>
    told "CAST(" ++ left.spelled ++ told (" AS DECIMAL) " ++ op.sign ++ " ") ++ [.inr right]
  | compareNumbers left op right =>
    told "CAST(" ++ left.spelled ++ told (" AS DECIMAL) " ++ op.sign ++ " CAST(") ++
      [.inr (.text right)] ++ told " AS DECIMAL)"
  | like left pattern =>
    left.spelled ++ told " LIKE " ++ [.inr (.text pattern)] ++ told " ESCAPE '\\'"
  | kept => told "deleted = 0"

def IsBare : Condition → Prop
  | compare left _ _ | compareNumber left _ _ | compareNumbers left _ _ | like left _ => left.IsBare
  | kept => True

end Condition

def OrderTerm.spelled (t : OrderTerm) : List (Char ⊕ Value) :=
  t.operand.spelled ++ told (" " ++ t.direction.name)

theorem Operand.spells {a : Operand} (bare : a.IsBare) :
    Spells a.render.text.toList a.render.params a.spelled := by
  cases a with
  | plain name => exact .bare bare
  | column name => exact .name name
  | member field =>
    have text : "json_extract(data_json, ?)".toList =
        "json_extract(data_json, ".toList ++ ['?'] ++ ")".toList := by decide
    show Spells "json_extract(data_json, ?)".toList _ _
    rw [text]
    exact .within (by decide) (.value _) (by decide)

theorem Condition.spells {c : Condition} (bare : c.IsBare) :
    Spells c.render.text.toList c.render.params c.spelled := by
  have signs : ∀ op : Comparison, IsBareText (" " ++ op.sign ++ " ") ∧
      IsBareText (" AS DECIMAL) " ++ op.sign ++ " ") ∧
        IsBareText (" AS DECIMAL) " ++ op.sign ++ " CAST(") := by
    intro op
    cases op <;> decide
  cases c with
  | compare left op right =>
    have all := (left.spells bare).thenValue _ (signs op).1 right
    simpa [render, spelled] using all
  | compareNumber left op right =>
    have cast := (Spells.bare (s := "CAST(") (by decide)).append (left.spells bare)
    have all := cast.thenValue _ (signs op).2.1 right
    simpa [render, spelled] using all
  | compareNumbers left op right =>
    have cast := (Spells.bare (s := "CAST(") (by decide)).append (left.spells bare)
    have value := cast.thenValue _ (signs op).2.2 (.text right)
    have all := value.append (.bare (s := " AS DECIMAL)") (by decide))
    simpa [render, spelled] using all
  | like left pattern =>
    have value := (left.spells bare).thenValue " LIKE " (by decide) (.text pattern)
    have all := value.append (.bare (s := " ESCAPE '\\'") (by decide))
    simpa [render, spelled] using all
  | kept => exact .bare (by decide)

theorem OrderTerm.spells {t : OrderTerm} (bare : t.operand.IsBare) :
    Spells t.render.text.toList t.render.params t.spelled := by
  have direction : IsBareText (" " ++ t.direction.name) := by
    cases t.direction <;> decide
  have all := (t.operand.spells bare).append (.bare direction)
  simpa [render, spelled] using all

/-- The columns of the engine's own tables that a selection names need no quotes, and none of those
that it shows takes a value. -/
structure Selection.IsBare (s : Selection) : Prop where
  columns : ∀ c ∈ s.columns, c.IsBare ∧ c.render.params = []
  conditions : ∀ c ∈ s.conditions, c.IsBare
  order : ∀ t ∈ s.order, t.operand.IsBare

namespace Selection

variable {s : Selection}

def whereSpelled (s : Selection) : List (Char ⊕ Value) :=
  if s.conditions.isEmpty then []
  else told " WHERE " ++ (told " AND ").intercalate (s.conditions.map Condition.spelled)

/-- The statement that gives the rows, with its values in place. -/
def spelled (s : Selection) : List (Char ⊕ Value) :=
  told "SELECT " ++ (told ", ").intercalate (s.columns.map Operand.spelled) ++
    told (" FROM " ++ s.source.render) ++ s.whereSpelled ++
    told " ORDER BY " ++ (told ", ").intercalate (s.order.map OrderTerm.spelled) ++
    told " LIMIT " ++ [.inr (.integer s.limit)] ++ told " OFFSET " ++ [.inr (.integer s.offset)]

/-- The statement that counts the rows, with its values in place. -/
def spelledCount (s : Selection) : List (Char ⊕ Value) :=
  told ("SELECT COUNT(*) FROM " ++ s.source.render) ++ s.whereSpelled

theorem spells_source (source : Source) :
    Spells source.render.toList [] (told source.render) := by
  cases source with
  | documents => exact .bare (by decide)
  | table name => exact .name name

/-- Parts of a statement that spell their values do so together. -/
theorem spells_join {α : Type} (separator : String) (bare : IsBareText separator)
    {render : α → Fragment} {spelled : α → List (Char ⊕ Value)} {parts : List α}
    (h : ∀ a ∈ parts, Spells (render a).text.toList (render a).params (spelled a)) :
    Spells (Fragment.join separator (parts.map render)).text.toList
      (Fragment.join separator (parts.map render)).params
      ((told separator).intercalate (parts.map spelled)) := by
  refine .join bare ?_
  rw [List.forall₂_map_left_iff, List.forall₂_map_right_iff, List.forall₂_same]
  exact h

theorem spells_where (bare : s.IsBare) :
    Spells s.whereFragment.text.toList s.whereFragment.params s.whereSpelled := by
  unfold whereFragment whereSpelled
  split
  · exact .nil
  · have conditions := spells_join " AND " (by decide)
      fun c hc => Condition.spells (bare.conditions c hc)
    have all := (Spells.bare (s := " WHERE ") (by decide)).append conditions
    simpa using all

theorem spells (bare : s.IsBare) : Spells s.render.text.toList s.render.params s.spelled := by
  have columns := spells_join ", " (by decide)
    fun c hc => Operand.spells (bare.columns c hc).1
  have order := spells_join ", " (by decide)
    fun t ht => OrderTerm.spells (bare.order t ht)
  have none : (Fragment.join ", " (s.columns.map Operand.render)).params = [] := by
    rw [Fragment.join, List.flatMap_map, List.flatMap_eq_nil_iff]
    exact fun c hc => (bare.columns c hc).2
  have shown := ((Spells.bare (s := "SELECT ") (by decide)).append columns).append
    ((Spells.bare (s := " FROM ") (by decide)).append (spells_source s.source))
  have found := (shown.append (spells_where bare)).append (.bare (s := " ORDER BY ") (by decide))
  have limited := (found.append order).thenValue " LIMIT " (by decide)
    (.integer s.limit)
  have all := limited.thenValue " OFFSET " (by decide) (.integer s.offset)
  rw [none] at all
  unfold render
  simpa [orderFragment, spelled, told] using all

theorem spells_count (bare : s.IsBare) :
    Spells s.renderCount.text.toList s.renderCount.params s.spelledCount := by
  have parts : ∀ a b c : String, (a ++ b ++ c).toList = a.toList ++ b.toList ++ c.toList := by
    intro a b c
    rw [String.toList_append, String.toList_append]
  have counted : IsBareText "SELECT COUNT(*) FROM " := by decide
  have all := ((Spells.bare counted).append (spells_source s.source)).append (spells_where bare)
  unfold renderCount spelledCount
  dsimp only
  rw [parts, told_append]
  exact all

/-- The values of a selection, in the order of its parts. -/
theorem params_render (s : Selection) : s.render.params =
    s.conditions.flatMap (fun c => c.render.params) ++
      s.order.flatMap (fun t => t.operand.render.params) ++
        [.integer s.limit, .integer s.offset] := by
  have conditions : s.whereFragment.params = s.conditions.flatMap fun c => c.render.params := by
    unfold whereFragment
    split
    · rename_i none
      rw [List.isEmpty_iff.mp none]
      rfl
    · exact List.flatMap_map ..
  have order : s.orderFragment.params = s.order.flatMap fun t => t.operand.render.params :=
    List.flatMap_map ..
  rw [← conditions, ← order]
  rfl

/-- What holds of the two statements of a selection: each has a placeholder for every value, in the
place that the value is meant for; and the one that counts has the condition of the other one, and
its first values. -/
structure LinesUp (s : Selection) : Prop where
  rows : placeholders false s.render.text.toList = s.render.params.length
  count : placeholders false s.renderCount.text.toList = s.renderCount.params.length
  rowsFilled : fill false s.render.text.toList s.render.params = s.spelled
  countFilled : fill false s.renderCount.text.toList s.renderCount.params = s.spelledCount
  condition : ∃ columns order condition,
    s.render.text = "SELECT " ++ columns ++ " FROM " ++ s.source.render ++ condition ++
      " ORDER BY " ++ order ++ " LIMIT ? OFFSET ?" ∧
    s.renderCount.text = "SELECT COUNT(*) FROM " ++ s.source.render ++ condition
  first : s.renderCount.params = s.render.params.take s.renderCount.params.length

theorem linesUp (bare : s.IsBare) : s.LinesUp := by
  have rows := spells bare
  have count := spells_count bare
  constructor
  · simpa [placeholders] using rows.count []
  · simpa [placeholders] using count.count []
  · simpa [fill] using rows.filled [] []
  · simpa [fill] using count.filled [] []
  · exact ⟨_, _, s.whereFragment.text, rfl, rfl⟩
  · show _ = (s.whereFragment.params ++ _ ++ _).take s.whereFragment.params.length
    rw [List.append_assoc, List.take_left]
    rfl

end Selection

end EntityEngine.Sql
