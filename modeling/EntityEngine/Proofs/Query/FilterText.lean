import EntityEngine.Proofs.Query.FilterGrammar
import EntityEngine.Query.Options

/-! The text of a filter that compares a field with a text in quotes. With its quotes written twice,
any text is read back as it was. -/

namespace EntityEngine

open Text

/-- A filter that compares a field with a text, as it is written. -/
def comparisonText (field : String) (op : Comparison) (v : String) : String :=
  field ++ " " ++ op.word ++ " '" ++ String.ofList (double '\'' v.toList) ++ "'"

variable {field : String}

theorem toList_comparisonText (op : Comparison) (v : String) : (comparisonText field op v).toList =
    field.toList ++ ([' '] ++ (op.word.toList ++ ([' '] ++ quotedForm v))) := by
  simp [comparisonText, quotedForm]

theorem renders_comparisonText (named : isIdentifier field = true) (op : Comparison) (v : String) :
    (Filter.compare field op (.quoted v)).Renders (comparisonText field op v) := by
  refine ⟨[], _, [], blanks_nil, .compare named (List.cons_ne_nil ' ' []) blanks_one
    (sameFold_iff.mpr rfl) blanks_one (.quoted v) ?_, blanks_nil, ?_⟩
  · intro empty
    cases empty
  · rw [toList_comparisonText, List.nil_append, List.append_nil]

/-- A query with such a filter has it among its options. -/
theorem filter_comparisonText (named : isIdentifier field = true) {op : Comparison} {v : String}
    {params : Params} (h : params.lookup "$filter" = some (comparisonText field op v)) :
    (QueryOptions.ofParams params).filter = some (.compare field op (.quoted v)) := by
  have visible : isBlankText (comparisonText field op v) = false := by
    obtain ⟨c, u, chars, part⟩ := (Filter.IsWord.of_isIdentifier named).start
      ([' '] ++ (op.word.toList ++ ([' '] ++ quotedForm v)))
    rw [isBlankText, toList_comparisonText, chars, List.all_cons, not_blank_of_identifierChar part]
    rfl
  have read := Filter.parse_iff.mpr (renders_comparisonText named op v)
  show QueryOptions.filterOf params = _
  rw [QueryOptions.filterOf, QueryOptions.filled?, h]
  simp [Option.filter, visible, read, Except.toOption]

end EntityEngine
