import Mathlib.Data.List.Basic
/-!
Texts of lines.  Lines that hold no line end are read back from the text they are written to.
-/

namespace RecordMirror

/-- A text that holds no line end. -/
def OneLine (text : String) : Prop :=
  '\n' ∉ text.toList

instance (text : String) : Decidable (OneLine text) :=
  inferInstanceAs (Decidable ('\n' ∉ text.toList))

@[simp] theorem oneLine_append {text more : String} :
    OneLine (text ++ more) ↔ OneLine text ∧ OneLine more := by
  rw [OneLine, String.toList_append, List.mem_append, not_or]
  rfl

theorem oneLine_intercalate {separator : String} (hseparator : OneLine separator)
    {texts : List String} (h : ∀ text ∈ texts, OneLine text) :
    OneLine (separator.intercalate texts) := by
  induction texts with
  | nil => exact List.not_mem_nil
  | cons text rest ih =>
      obtain ⟨htext, hrest⟩ := List.forall_mem_cons.1 h
      by_cases hnil : rest = []
      · subst hnil
        rwa [String.intercalate_singleton]
      · rw [String.intercalate_cons_of_ne_nil hnil, oneLine_append, oneLine_append]
        exact ⟨⟨htext, hseparator⟩, ih hrest⟩

/-- The lines of a text that ends with a line end, and the empty rest after it. -/
theorem splitOn_lines {lines : List String} (hnonempty : lines ≠ [])
    (h : ∀ line ∈ lines, OneLine line) :
    ("\n".intercalate lines ++ "\n").toList.splitOn '\n' = lines.map String.toList ++ [[]] := by
  have htext : "\n".intercalate lines ++ "\n" = "\n".intercalate (lines ++ [""]) := by
    rw [String.intercalate_append_of_ne_nil hnonempty (List.cons_ne_nil _ _),
      String.intercalate_singleton, String.append_empty]
  have hlines : ∀ line ∈ (lines ++ [""]).map String.toList, '\n' ∉ line := by
    rw [List.forall_mem_map, List.forall_mem_append, List.forall_mem_singleton]
    exact ⟨h, by decide⟩
  rw [htext, String.toList_intercalate]
  change (['\n'].intercalate ((lines ++ [""]).map String.toList)).splitOn '\n' = _
  rw [List.splitOn_intercalate '\n' hlines (by simp), List.map_append]
  rfl

end RecordMirror
