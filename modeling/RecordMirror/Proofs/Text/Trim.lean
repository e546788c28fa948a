import Mathlib.Data.List.DropRight
import RecordMirror.Text.Blank
/-!
Trimming.  It takes characters of a class from the two ends of a text, and what is bare in the
middle keeps the two ends apart.
-/

namespace RecordMirror

/-- A text of characters of a class. -/
def AllOf (p : Char → Bool) (text : List Char) : Prop :=
  ∀ c ∈ text, p c = true

theorem AllOf.reverse {p : Char → Bool} {text : List Char} (h : AllOf p text) :
    AllOf p text.reverse :=
  fun c hc => h c (List.mem_reverse.1 hc)

/-- What is gone from a text is of the class. -/
theorem exists_trimBoth (p : Char → Bool) (text : List Char) :
    ∃ before after, AllOf p before ∧ AllOf p after ∧ text = before ++ trimBoth p text ++ after := by
  refine ⟨text.takeWhile p, (text.dropWhile p).rtakeWhile p, ?_, ?_, ?_⟩
  · exact fun c hc => List.mem_takeWhile_imp hc
  · exact fun c hc => List.mem_rtakeWhile_imp hc
  · calc
      text = text.takeWhile p ++ text.dropWhile p := List.takeWhile_append_dropWhile.symm
      _ = text.takeWhile p ++ ((text.dropWhile p).rdropWhile p ++
          (text.dropWhile p).rtakeWhile p) := by rw [List.rdropWhile_append_rtakeWhile]
      _ = text.takeWhile p ++ trimBoth p text ++ (text.dropWhile p).rtakeWhile p :=
        (List.append_assoc _ _ _).symm

/-- A text that is not empty and holds no character of a class. -/
structure Free (p : Char → Bool) (text : List Char) : Prop where
  nonempty : text ≠ []
  free : ∀ c ∈ text, p c = false

theorem free_of_any {p : Char → Bool} {text : List Char} (hnonempty : text ≠ [])
    (hany : text.any p = false) : Free p text where
  nonempty := hnonempty
  free c hc := Bool.eq_false_iff.2 (List.any_eq_false.1 hany c hc)

theorem Free.reverse {p : Char → Bool} {text : List Char} (h : Free p text) :
    Free p text.reverse where
  nonempty := fun hnil => h.nonempty (List.reverse_eq_nil_iff.1 hnil)
  free c hc := h.free c (List.mem_reverse.1 hc)

theorem Free.dropWhile {p : Char → Bool} {text : List Char} (h : Free p text)
    (before after : List Char) :
    (before ++ text ++ after).dropWhile p = before.dropWhile p ++ text ++ after := by
  induction before with
  | nil =>
      obtain ⟨c, rest, rfl⟩ := List.exists_cons_of_ne_nil h.nonempty
      have hc : ¬ p c = true := by simp [h.free c List.mem_cons_self]
      exact List.dropWhile_cons_of_neg hc
  | cons c before ih =>
      by_cases hc : p c = true
      · simpa [List.dropWhile_cons_of_pos hc] using ih
      · simp [List.dropWhile_cons_of_neg hc]

/-- What stands around a part without characters of the class is trimmed on its own. -/
theorem Free.trimBoth {p : Char → Bool} {text : List Char} (h : Free p text)
    (before after : List Char) :
    RecordMirror.trimBoth p (before ++ text ++ after) =
      before.dropWhile p ++ text ++ (after.reverse.dropWhile p).reverse := by
  have hreverse : (before.dropWhile p ++ text ++ after).reverse =
      after.reverse ++ text.reverse ++ (before.dropWhile p).reverse := by
    simp only [List.reverse_append, List.append_assoc]
  rw [RecordMirror.trimBoth, h.dropWhile, hreverse, h.reverse.dropWhile]
  simp only [List.reverse_append, List.reverse_reverse, List.append_assoc]

end RecordMirror
