import Mathlib.Data.List.Infix
import RecordMirror.Path
/-!
The names of paths.  The path of a name in a directory has one part more than the directory, and the
stem of a name is a part of the name.
-/

namespace RecordMirror.Path

@[ext]
theorem ext {p q : Path} (hanchor : p.anchor = q.anchor) (hparts : p.parts = q.parts) : p = q := by
  cases p
  cases q
  congr

theorem isPathPart_iff {part : String} :
    isPathPart part = true ↔ part ≠ "" ∧ part ≠ "." ∧ '/' ∉ part.toList := by
  simp [isPathPart, and_assoc]

theorem not_mem_of_mem_splitOn {c : Char} {text piece : List Char} (h : piece ∈ text.splitOn c) :
    c ∉ piece := by
  induction text generalizing piece with
  | nil =>
      rw [List.splitOn_nil, List.mem_singleton] at h
      exact h ▸ List.not_mem_nil
  | cons d text ih =>
      rw [List.splitOn_cons_eq_if_modifyHead] at h
      by_cases hd : (d == c) = true
      · rw [if_pos hd] at h
        rcases List.mem_cons.1 h with rfl | h
        · exact List.not_mem_nil
        · exact ih h
      · rw [if_neg hd] at h
        cases hsplit : text.splitOn c with
        | nil => exact absurd hsplit (List.splitOn_ne_nil c text)
        | cons first others =>
            rw [hsplit, List.modifyHead_cons] at h
            rcases List.mem_cons.1 h with rfl | h
            · have hne : ¬c = d := fun heq => hd (beq_iff_eq.2 heq.symm)
              simp [hne, ih (hsplit ▸ List.mem_cons_self)]
            · exact ih (hsplit ▸ List.mem_cons_of_mem _ h)

theorem mem_splitOn {c separator : Char} {text : List Char} (h : c ≠ separator) :
    c ∈ text ↔ ∃ piece ∈ text.splitOn separator, c ∈ piece := by
  induction text with
  | nil => simp
  | cons d text ih =>
      rw [List.splitOn_cons_eq_if_modifyHead, List.mem_cons, ih]
      by_cases hd : (d == separator) = true
      · have hne : c ≠ d := fun heq => h (heq.trans (beq_iff_eq.1 hd))
        simp [hd, hne]
      · rw [if_neg hd]
        cases hsplit : text.splitOn separator with
        | nil => exact absurd hsplit (List.splitOn_ne_nil separator text)
        | cons first others => simp [or_assoc]

/-- A path holds a null character if its text does. -/
theorem hasNull_ofText {text : String} :
    (ofText text).hasNull = true ↔ '\x00' ∈ text.toList := by
  rw [mem_splitOn (by decide : '\x00' ≠ '/')]
  simp only [hasNull, ofText, List.any_eq_true, List.contains_eq_mem, decide_eq_true_eq,
    List.mem_filter, List.mem_map]
  constructor
  · rintro ⟨part, ⟨⟨piece, hpiece, rfl⟩, -⟩, hnull⟩
    exact ⟨piece, hpiece, by rwa [String.toList_ofList] at hnull⟩
  · rintro ⟨piece, hpiece, hnull⟩
    have hne : ∀ name : String, '\x00' ∉ name.toList → String.ofList piece ≠ name := by
      rintro name hname rfl
      exact hname (by rwa [String.toList_ofList])
    have hslash : '/' ∉ (String.ofList piece).toList := by
      rw [String.toList_ofList]
      exact not_mem_of_mem_splitOn hpiece
    have hpart : isPathPart (String.ofList piece) = true :=
      isPathPart_iff.2 ⟨hne "" (by decide), hne "." (by decide), hslash⟩
    exact ⟨String.ofList piece, ⟨⟨piece, hpiece, rfl⟩, hpart⟩, by rwa [String.toList_ofList]⟩

theorem name_mem_parts {p : Path} (h : p.parts ≠ []) : p.name ∈ p.parts := by
  rw [name, List.getLastD_eq_getLast?, List.getLast?_eq_getLast_of_ne_nil h, Option.getD_some]
  exact List.getLast_mem h

theorem slash_not_mem_name (p : Path) : '/' ∉ p.name.toList := by
  by_cases hparts : p.parts = []
  · simp [name, hparts]
  · exact (isPathPart_iff.1 (p.proper _ (name_mem_parts hparts))).2.2

theorem hasNull_of_mem_name {p : Path} (h : '\x00' ∈ p.name.toList) : p.hasNull = true := by
  by_cases hparts : p.parts = []
  · simp [name, hparts] at h
  · exact List.any_eq_true.2 ⟨_, name_mem_parts hparts, List.contains_iff_mem.2 h⟩

theorem stem_subset (p : Path) : p.stem.toList ⊆ p.name.toList := by
  unfold stem
  dsimp only
  split
  · rw [String.toList_ofList]
    exact List.take_subset _ _
  · exact List.Subset.refl _

theorem anchorOf_of_not_mem {text : List Char} (h : '/' ∉ text) : anchorOf text = .none := by
  unfold anchorOf
  split <;> simp_all

section

variable {name : String} (h : isPathPart name = true)
include h

theorem ofText_anchor : (ofText name).anchor = .none :=
  anchorOf_of_not_mem (isPathPart_iff.1 h).2.2

theorem ofText_parts : (ofText name).parts = [name] := by
  simp [ofText, List.splitOn_eq_singleton (isPathPart_iff.1 h).2.2, h]

/-- The path of a name in a directory. -/
theorem child_eq_append (directory : Path) :
    directory.child name = directory.append (ofText name) := by
  rw [child, join, ofText_anchor h]

theorem child_anchor (directory : Path) : (directory.child name).anchor = directory.anchor := by
  rw [child_eq_append h, append_anchor]

theorem child_parts (directory : Path) :
    (directory.child name).parts = directory.parts ++ [name] := by
  rw [child_eq_append h, append_parts, ofText_parts h]

end

end RecordMirror.Path
