import RecordMirror.FileTree
import RecordMirror.Proofs.Text.Utf8
/-!
What is written to a file is read from it.  A path leads to the same place after a file has been
written there, as only directories are passed on the way.
-/

namespace RecordMirror

theorem unifyLineEnds_of_not_mem {text : List Char} (h : '\r' ∉ text) :
    unifyLineEnds text = text := by
  induction text with
  | nil => rfl
  | cons c rest ih =>
      rw [List.mem_cons, not_or] at h
      have hc : c ≠ '\r' := fun heq => h.1 heq.symm
      rw [unifyLineEnds, ih h.2]
      · exact fun _ heq => absurd heq hc
      · exact hc

namespace FileTree

/-- A tree with some entries.  Of those for one place the first counts. -/
def holding (workingDirectory : Place) (entries : List (Place × FileEntry)) : FileTree :=
  entries.foldr (fun entry t => t.put entry.1 entry.2) ⟨workingDirectory, []⟩

variable {t written : FileTree} {target start place : Place} {parts : List String} {path : Path}
  {entry : FileEntry} {text : String}

/-- Parts are followed as before when something is put where no directory was. -/
theorem follow_put (htarget : t.get? target ≠ some .directory)
    (h : t.follow start parts = .ok place) :
    (t.put target entry).follow start parts = .ok place := by
  induction parts generalizing start with
  | nil => exact h
  | cons part rest ih =>
      unfold follow at h ⊢
      cases hstart : t.get? start with
      | none => simp [hstart] at h
      | some found =>
          cases found with
          | file bytes => simp [hstart] at h
          | directory =>
              have hne : start ≠ target := by
                rintro rfl
                exact htarget hstart
              rw [hstart] at h
              rw [get?_put_of_ne t hne, hstart]
              by_cases hlong : longestName < part.utf8ByteSize
              · simp [hlong] at h
              · simp only [hlong, if_false] at h ⊢
                exact ih h

theorem place_put (htarget : t.get? target ≠ some .directory) (h : t.place path = .ok place) :
    (t.put target entry).place path = .ok place := by
  unfold FileTree.place at h ⊢
  by_cases hnull : path.hasNull = true
  · simp [hnull] at h
  by_cases hlong : longestPath < path.text.utf8ByteSize
  · simp [hnull, hlong] at h
  · rw [if_neg hnull, if_neg hlong] at h ⊢
    exact follow_put htarget h

theorem writeText_ok (h : t.writeText path text = .ok written) :
    ∃ place, t.place path = .ok place ∧ t.get? place ≠ some .directory ∧
      written = t.put place (.file (utf8OfText text)) := by
  unfold writeText at h
  cases hplace : t.place path with
  | error fault => rw [hplace] at h; cases h
  | ok place =>
      rw [hplace] at h
      by_cases hdirectory : t.get? place = some .directory
      · simp [hdirectory] at h
      · simp only [hdirectory, if_false] at h
        cases h
        exact ⟨place, rfl, hdirectory, rfl⟩

/-- The text that was written last to a file is read from it, if its lines end in line feeds. -/
theorem readText_of_writeText (h : t.writeText path text = .ok written)
    (htext : '\r' ∉ text.toList) : written.readText path = .ok text := by
  obtain ⟨place, hplace, hdirectory, rfl⟩ := writeText_ok h
  have hroot : place ≠ .root := by
    rintro rfl
    exact hdirectory rfl
  have hread : (t.put place (.file (utf8OfText text))).read path = .ok (utf8OfText text) := by
    simp only [read, place_put hdirectory hplace, get?_put_self t hroot]
  simp only [readText, hread, textOfUtf8_utf8OfText, unifyLineEnds_of_not_mem htext,
    String.ofList_toList]

/-- Whether a text can be written to a file does not depend on the text. -/
theorem writeText_error_iff {cause : AccessError} (other : String) :
    t.writeText path text = .error cause ↔ t.writeText path other = .error cause := by
  unfold writeText
  cases t.place path with
  | error fault => rfl
  | ok place => by_cases hdirectory : t.get? place = some .directory <;> simp [hdirectory]

end FileTree

end RecordMirror
