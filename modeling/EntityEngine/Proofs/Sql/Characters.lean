import EntityEngine.Proofs.Outcome
import EntityEngine.Sql.TableSpec.Parser
import Mathlib.Data.String.Basic

/-! The characters of a statement that makes a table. They are put together as lists, with which a
closed statement is evaluated much faster than with texts that are appended to one another. -/

namespace EntityEngine.Sql

open Text

theorem toList_join (separator : String) (parts : List String) :
    (join separator parts).toList = separator.toList.intercalate (parts.map String.toList) :=
  String.toList_intercalate

def nameChars (name : String) : List Char := '"' :: (double '"' name.toList ++ ['"'])

theorem toList_quotedName (name : String) : (quotedName name).toList = nameChars name :=
  String.toList_ofList

namespace ColumnText

def chars (c : ColumnText) : List Char :=
  nameChars c.name ++ ' ' :: (c.type.toList ++
    c.constraints.flatMap (fun k => ' ' :: k.render.toList) ++
    (match c.comment with
      | some s => (commentText s).toList
      | none => []))

theorem toList_render_eq_chars (c : ColumnText) : c.render.toList = c.chars := by
  have blank : " ".toList = [' '] := by simp
  have constraints : (String.join (c.constraints.map fun k => " " ++ k.render)).toList =
      c.constraints.flatMap fun k => ' ' :: k.render.toList := by
    rw [String.toList_join, List.flatMap_map]
    exact List.flatMap_congr fun k _ => by rw [String.toList_append, blank]; rfl
  rw [render, chars]
  simp only [String.toList_append, toList_quotedName, constraints, blank]
  cases c.comment <;> simp

end ColumnText

namespace TableText

def keyChars (columns : List String) : List Char :=
  "PRIMARY KEY (".toList ++ [',', ' '].intercalate (columns.map nameChars) ++ [')']

def chars (t : TableText) : List Char :=
  t.opening.toList ++ (nameChars t.table ++ [' ', '(', '\n', ' ', ' '] ++
    [',', '\n', ' ', ' '].intercalate (t.columns.map ColumnText.chars ++
      if t.primaryKey.isEmpty then [] else [keyChars t.primaryKey]) ++ ['\n', ')'])

theorem toList_keyText (columns : List String) : (keyText columns).toList = keyChars columns := by
  have comma : ", ".toList = [',', ' '] := by simp
  have finish : ")".toList = [')'] := by simp
  have names : (columns.map quotedName).map String.toList = columns.map nameChars := by
    rw [List.map_map]
    exact List.map_congr_left fun name _ => toList_quotedName name
  unfold keyText
  rw [String.toList_append, String.toList_append, finish, toList_join, comma, names]
  rfl

theorem toList_render_eq_chars (t : TableText) : t.render.toList = t.chars := by
  have line : ",\n  ".toList = [',', '\n', ' ', ' '] := by simp
  have start : " (\n  ".toList = [' ', '(', '\n', ' ', ' '] := by simp
  have finish : "\n)".toList = ['\n', ')'] := by simp
  have columns : (t.columns.map ColumnText.render).map String.toList =
      t.columns.map ColumnText.chars := by
    rw [List.map_map]
    exact List.map_congr_left fun c _ => c.toList_render_eq_chars
  rw [render, body, chars]
  simp only [String.toList_append, toList_join, toList_quotedName, line, start, finish,
    List.map_append, columns]
  split <;> simp [toList_keyText]

/-- What a statement declares, if no further one stands behind it in the text. -/
def spec? (t : TableText) : Option TableSpec :=
  if t.hasPlainTypes then
    if t.chars.all (fun c => c.toNat ≠ 0) then t.plainSpec.toOption else none
  else
    match firstStatement (placedTokens t.chars) with
    | (own, []) => (Parser.table.run { tokens := own }).toOption.map Prod.fst
    | _ => none

theorem spec_of_spec? {t : TableText} {spec : TableSpec} (h : t.spec? = some spec) :
    t.spec = .ok spec ∧ t.further = [] := by
  have whole : t.isWhole = t.chars.all fun c => c.toNat ≠ 0 := by
    rw [isWhole, toList_render_eq_chars]
  have tokens : t.tokens = firstStatement (placedTokens t.chars) := by
    rw [TableText.tokens, toList_render_eq_chars]
  rw [spec?] at h
  unfold TableText.spec further readSpec
  rw [whole, tokens]
  cases plain : t.hasPlainTypes with
  | true =>
    simp only [plain, if_true] at h
    split at h
    · rename_i all
      simp only [all, Bool.not_true, Bool.false_eq_true, if_true, if_false]
      exact ⟨toOption_some h, trivial⟩
    · cases h
  | false =>
    simp only [plain, Bool.false_eq_true, if_false] at h
    split at h
    · rename_i own read
      obtain ⟨⟨spec', rest⟩, parsed, rfl⟩ := Option.map_eq_some_iff.mp h
      simp only [Bool.not_false, Bool.false_eq_true, if_true, if_false, read, toOption_some parsed]
      exact ⟨trivial, trivial⟩
    · cases h
end TableText

end EntityEngine.Sql
