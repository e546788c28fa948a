import Mathlib.Data.List.Basic
import RecordMirror.Mode
/-!
The name of a mirror tells its mode and its record.
-/

namespace RecordMirror.Mode

/-- The mode and the record that the name of a mirror tells, if it is one. -/
def ofMirrorName? (name : String) : Option (Mode × String) :=
  all.findSome? fun mode =>
    (name.toList.dropPrefix? mode.style.namePrefix.toList).map fun rest =>
      (mode, String.ofList rest)

theorem ofMirrorName?_mirrorName (mode : Mode) (record : String) :
    ofMirrorName? (mode.mirrorName record) = some (mode, record) := by
  have hname : (mode.mirrorName record).toList =
      mode.style.namePrefix.toList ++ record.toList := by
    rw [mirrorName, String.toList_append]
  have hown : (mode.mirrorName record).toList.dropPrefix? mode.style.namePrefix.toList =
      some record.toList := by
    rw [hname]
    exact List.dropPrefix?_append_of_beq _ (beq_self_eq_true _)
  cases mode with
  | readonly => simp [ofMirrorName?, all, hown]
  | observable =>
      -- The two prefixes differ in their first letter.
      have hother : (observable.mirrorName record).toList.dropPrefix?
          readonly.style.namePrefix.toList = none := by
        rw [hname]
        simp [style, List.dropPrefix?]
      simp [ofMirrorName?, all, hown, hother]

end RecordMirror.Mode
