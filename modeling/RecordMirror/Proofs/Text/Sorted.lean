import Mathlib.Data.List.Sort
import Mathlib.Data.String.Basic
import RecordMirror.Text.Sorted
/-!
Sorted lists of texts are settled by their members.
-/

namespace RecordMirror

theorem insertText_pairwise {s : String} {texts : List String} (h : texts.Pairwise (· < ·)) :
    (insertText s texts).Pairwise (· < ·) := by
  induction texts with
  | nil => exact List.pairwise_singleton _ _
  | cons t rest ih =>
      rw [List.pairwise_cons] at h
      rw [insertText]
      rcases lt_trichotomy s t with hlt | rfl | hgt
      · rw [if_pos hlt, List.pairwise_cons, List.pairwise_cons]
        refine ⟨?_, h⟩
        intro u hu
        rcases List.mem_cons.1 hu with rfl | hu
        · exact hlt
        · exact hlt.trans (h.1 u hu)
      · rw [if_neg (lt_irrefl s), if_pos rfl, List.pairwise_cons]
        exact h
      · rw [if_neg hgt.asymm, if_neg hgt.ne', List.pairwise_cons]
        refine ⟨?_, ih h.2⟩
        intro u hu
        rcases mem_insertText.1 hu with rfl | hu
        · exact hgt
        · exact h.1 u hu

theorem sortedDistinct_pairwise (texts : List String) :
    (sortedDistinct texts).Pairwise (· < ·) := by
  induction texts with
  | nil => exact List.Pairwise.nil
  | cons t rest ih => exact insertText_pairwise ih

theorem sortedDistinct_nodup (texts : List String) : (sortedDistinct texts).Nodup :=
  (sortedDistinct_pairwise texts).imp fun hlt => hlt.ne

theorem sortedDistinct_congr {texts texts' : List String} (h : ∀ t, t ∈ texts ↔ t ∈ texts') :
    sortedDistinct texts = sortedDistinct texts' := by
  apply (sortedDistinct_pairwise texts).eq_of_mem_iff (sortedDistinct_pairwise texts')
  intro t
  rw [mem_sortedDistinct, mem_sortedDistinct, h]

/-- Sorting commutes with taking texts away. -/
theorem sortedDistinct_filter (p : String → Bool) (texts : List String) :
    sortedDistinct (texts.filter p) = (sortedDistinct texts).filter p := by
  apply (sortedDistinct_pairwise _).eq_of_mem_iff ((sortedDistinct_pairwise texts).filter p)
  intro t
  rw [mem_sortedDistinct, List.mem_filter, List.mem_filter, mem_sortedDistinct]

/-- Texts that are all in an ordered list are sorted by looking them up there. -/
theorem sortedDistinct_eq_filter {texts known : List String} (hknown : known.Pairwise (· < ·))
    (hall : ∀ t ∈ texts, t ∈ known) :
    sortedDistinct texts = known.filter (texts.contains ·) := by
  apply (sortedDistinct_pairwise texts).eq_of_mem_iff (hknown.filter _)
  intro t
  rw [mem_sortedDistinct, List.mem_filter, List.contains_iff_mem]
  exact ⟨fun ht => ⟨hall t ht, ht⟩, And.right⟩

end RecordMirror
