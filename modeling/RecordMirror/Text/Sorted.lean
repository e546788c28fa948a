/-!
Lists of texts in code point order without repetitions.
-/

namespace RecordMirror

/-- Inserts a text into an ordered list, unless it is in it. -/
def insertText (s : String) : List String → List String
  | [] => [s]
  | t :: rest =>
    if s < t then s :: t :: rest else if s = t then t :: rest else t :: insertText s rest

/-- The texts of a list, each once, in code point order. -/
def sortedDistinct (texts : List String) : List String :=
  texts.foldr insertText []

theorem mem_insertText {s t : String} {texts : List String} :
    t ∈ insertText s texts ↔ t = s ∨ t ∈ texts := by
  induction texts with
  | nil => simp [insertText]
  | cons head rest ih =>
    simp only [insertText]
    split
    · simp
    · split
      · rename_i _ heq
        simp [heq]
      · simp only [List.mem_cons, ih]
        exact or_left_comm

/-- Sorting keeps exactly the texts of a list. -/
theorem mem_sortedDistinct {t : String} {texts : List String} :
    t ∈ sortedDistinct texts ↔ t ∈ texts := by
  induction texts with
  | nil => simp [sortedDistinct]
  | cons head rest ih =>
    rw [sortedDistinct, List.foldr_cons, mem_insertText, List.mem_cons]
    exact or_congr Iff.rfl ih

end RecordMirror
