import RecordMirror.Proofs.FileTree
/-!
What making a directory changes: nothing that was there, and nothing but what stands on the way to
the directory.  A path leads to the same place before and after.
-/

namespace RecordMirror

theorem Place.step_names (place : Place) {part : String} (h : isFileName part = true) :
    (place.step part).names = place.names ++ [part] := by
  have hup : part ≠ Path.up := of_decide_eq_true (Bool.and_eq_true_iff.1 h).2
  rw [step, if_neg hup, dif_pos h, child]

namespace FileTree

variable {t made written : FileTree} {start target : Place} {parts more : List String}
  {part : String} {path : Path}

theorem follow_append :
    t.follow start (parts ++ more) = .ok target ↔
      ∃ middle, t.follow start parts = .ok middle ∧ t.follow middle more = .ok target := by
  induction parts generalizing start with
  | nil => simp [follow]
  | cons part parts ih =>
      simp only [List.cons_append, follow]
      cases hstart : t.get? start with
      | none => simp
      | some found =>
          cases found with
          | file bytes => simp
          | directory =>
              by_cases hlong : longestName < part.utf8ByteSize
              · simp [hlong]
              · simpa [hlong] using ih

/-- A name that is followed last is the last name of the place. -/
theorem follow_concat (hpart : isFileName part = true)
    (h : t.follow start (parts ++ [part]) = .ok target) :
    ∃ above : Place, t.follow start parts = .ok above ∧ target.names = above.names ++ [part] := by
  obtain ⟨above, habove, hlast⟩ := follow_append.1 h
  refine ⟨above, habove, ?_⟩
  unfold follow at hlast
  cases hfound : t.get? above with
  | none => simp [hfound] at hlast
  | some found =>
      cases found with
      | file bytes => simp [hfound] at hlast
      | directory =>
          by_cases hlong : longestName < part.utf8ByteSize
          · simp [hfound, hlong] at hlast
          · simp only [hfound, hlong, if_false] at hlast
            cases hlast
            exact Place.step_names above hpart

theorem place_eq_ok (h : t.place path = .ok target) :
    path.hasNull = false ∧ path.text.utf8ByteSize ≤ longestPath ∧
      t.follow (t.start path) path.parts = .ok target := by
  unfold FileTree.place at h
  by_cases hnull : path.hasNull = true
  · simp [hnull] at h
  by_cases hlong : longestPath < path.text.utf8ByteSize
  · simp [hnull, hlong] at h
  · rw [if_neg hnull, if_neg hlong] at h
    exact ⟨Bool.eq_false_iff.2 hnull, Nat.le_of_not_lt hlong, h⟩

/-- What is where it was, and where paths begin. -/
structure Kept (t made : FileTree) : Prop where
  workingDirectory : made.workingDirectory = t.workingDirectory
  found : ∀ {place entry}, t.get? place = some entry → made.get? place = some entry

namespace Kept

theorem refl (t : FileTree) : t.Kept t :=
  ⟨rfl, fun h => h⟩

theorem trans (first : t.Kept made) (second : made.Kept written) : t.Kept written :=
  ⟨second.workingDirectory.trans first.workingDirectory, fun h => second.found (first.found h)⟩

theorem put (entry : FileEntry) (h : t.get? target = none) : t.Kept (t.put target entry) where
  workingDirectory := rfl
  found {other _} hother := by
    have hne : other ≠ target := by
      rintro rfl
      exact absurd (h.symm.trans hother) (Option.some_ne_none _).symm
    rw [get?_put_of_ne t hne]
    exact hother

theorem follow (h : t.Kept made) (hplace : t.follow start parts = .ok target) :
    made.follow start parts = .ok target := by
  induction parts generalizing start with
  | nil => exact hplace
  | cons part parts ih =>
      unfold FileTree.follow at hplace ⊢
      cases hstart : t.get? start with
      | none => simp [hstart] at hplace
      | some found =>
          rw [h.found hstart]
          rw [hstart] at hplace
          cases found with
          | file bytes => simp at hplace
          | directory =>
              by_cases hlong : longestName < part.utf8ByteSize
              · simp [hlong] at hplace
              · simp only [hlong, if_false] at hplace ⊢
                exact ih hplace

theorem place (h : t.Kept made) (hplace : t.place path = .ok target) :
    made.place path = .ok target := by
  obtain ⟨hnull, hlong, hfollow⟩ := place_eq_ok hplace
  have hstart : made.start path = t.start path := by
    rw [FileTree.start, FileTree.start, h.workingDirectory]
  unfold FileTree.place
  rw [if_neg (Bool.eq_false_iff.1 hnull), if_neg (Nat.not_lt.2 hlong), hstart]
  exact h.follow hfollow

end Kept

/-- A tree that differs from another one by directories on the way to a path at most. -/
structure MadeToward (t made : FileTree) (path : Path) : Prop where
  kept : t.Kept made
  on_way : ∀ place, made.get? place ≠ t.get? place → made.get? place = some .directory ∧
    ∃ first : Path, first.anchor = path.anchor ∧ first.parts <+: path.parts ∧
      made.place first = .ok place

namespace MadeToward

theorem refl (t : FileTree) (path : Path) : t.MadeToward t path :=
  ⟨.refl t, fun _ h => absurd rfl h⟩

theorem put (hplace : t.place path = .ok target) (hnone : t.get? target = none) :
    t.MadeToward (t.put target .directory) path where
  kept := .put _ hnone
  on_way other hother := by
    have hroot : target ≠ .root := by
      rintro rfl
      exact Option.some_ne_none _ hnone
    by_cases hne : other = target
    · subst hne
      exact ⟨get?_put_self t hroot _, path, rfl, List.prefix_refl _,
        (Kept.put _ hnone).place hplace⟩
    · exact absurd (get?_put_of_ne t hne _) hother

theorem trans (first : t.MadeToward made path.parent) (second : made.MadeToward written path) :
    t.MadeToward written path where
  kept := first.kept.trans second.kept
  on_way place hplace := by
    by_cases hmade : made.get? place = t.get? place
    · exact second.on_way place (hmade.symm ▸ hplace)
    · obtain ⟨hfound, above, hanchor, hparts, hleads⟩ := first.on_way place hmade
      exact ⟨second.kept.found hfound, above, hanchor, hparts.trans (List.dropLast_prefix _),
        second.kept.place hleads⟩

end MadeToward

theorem makeDirectory_eq_ok (h : t.makeDirectory path = .ok made) :
    ∃ place, t.place path = .ok place ∧ t.get? place = none ∧ made = t.put place .directory := by
  unfold makeDirectory at h
  cases hplace : t.place path with
  | error fault => rw [hplace] at h; cases h
  | ok place =>
      rw [hplace] at h
      cases hfound : t.get? place with
      | some entry => simp [hfound] at h
      | none =>
          simp only [hfound, Option.isSome_none, Bool.false_eq_true, if_false] at h
          cases h
          exact ⟨place, rfl, hfound, rfl⟩

theorem hasDirectory_eq_true :
    t.hasDirectory path = true ↔
      ∃ place, t.place path = .ok place ∧ t.get? place = some .directory := by
  unfold hasDirectory at?
  cases t.place path <;> simp

theorem makeDirectory_madeToward (h : t.makeDirectory path = .ok made) :
    t.MadeToward made path ∧ made.hasDirectory path = true := by
  obtain ⟨place, hplace, hnone, rfl⟩ := makeDirectory_eq_ok h
  have hroot : place ≠ .root := by
    rintro rfl
    exact Option.some_ne_none _ hnone
  exact ⟨.put hplace hnone, hasDirectory_eq_true.2
    ⟨place, (Kept.put _ hnone).place hplace, get?_put_self t hroot _⟩⟩

theorem ensureLast_madeToward (h : t.ensureLast path = .ok made) :
    t.MadeToward made path ∧ made.hasDirectory path = true := by
  unfold ensureLast at h
  cases hmake : t.makeDirectory path with
  | ok tree =>
      rw [hmake] at h
      cases h
      exact makeDirectory_madeToward hmake
  | error cause =>
      rw [hmake] at h
      cases hthere : t.hasDirectory path with
      | false => simp [hthere] at h
      | true =>
          simp only [hthere, if_true] at h
          cases h
          exact ⟨.refl t path, hthere⟩

/-- Whether or not a directory can be made, only what stands on the way to it changes. -/
theorem ensureDirectory_madeToward (t : FileTree) (path : Path) :
    t.MadeToward (t.ensureDirectory path).1 path := by
  fun_induction t.ensureDirectory path with
  | case1 path made hmake => exact (makeDirectory_madeToward hmake).1
  | case2 path cause hmake hthere => exact .refl t path
  | case3 path cause hmake hthere hstop => exact .refl t path
  | case4 path cause hmake hthere hgo made cause' habove ih =>
      rw [habove] at ih
      exact ih.trans (.refl made path)
  | case5 path cause hmake hthere hgo made habove last hlast ih =>
      rw [habove] at ih
      exact ih.trans (ensureLast_madeToward hlast).1
  | case6 path cause hmake hthere hgo made habove cause' hlast ih =>
      rw [habove] at ih
      exact ih.trans (.refl made path)

theorem ensureDirectory_hasDirectory (h : t.ensureDirectory path = (made, .ok ())) :
    made.hasDirectory path = true := by
  revert h
  fun_cases t.ensureDirectory path with
  | case1 made hmake =>
      rintro ⟨⟩
      exact (makeDirectory_madeToward hmake).2
  | case2 cause hmake hthere =>
      rintro ⟨⟩
      exact hthere
  | case3 => rintro ⟨⟩
  | case4 => rintro ⟨⟩
  | case5 cause hmake hthere hgo above habove last hlast =>
      rintro ⟨⟩
      exact (ensureLast_madeToward hlast).2
  | case6 => rintro ⟨⟩

/-! What holds a null character leads nowhere, and nothing else does so for that reason. -/

theorem follow_ne_nullCharacter : t.follow start parts ≠ .error .nullCharacter := by
  induction parts generalizing start with
  | nil => simp [follow]
  | cons part parts ih =>
      unfold follow
      cases t.get? start with
      | none => simp
      | some found =>
          cases found with
          | file bytes => simp
          | directory =>
              by_cases hlong : longestName < part.utf8ByteSize
              · simp [hlong]
              · simpa [hlong] using ih

theorem place_eq_nullCharacter : t.place path = .error .nullCharacter ↔ path.hasNull = true := by
  unfold FileTree.place
  by_cases hnull : path.hasNull = true
  · simp [hnull]
  by_cases hlong : longestPath < path.text.utf8ByteSize
  · simp [hnull, hlong]
  · simp [hnull, hlong, follow_ne_nullCharacter]

theorem makeDirectory_eq_nullCharacter {cause : AccessError}
    (h : t.makeDirectory path = .error cause) :
    cause.fault = .nullCharacter ↔ path.hasNull = true := by
  rw [← place_eq_nullCharacter (t := t)]
  unfold makeDirectory at h
  cases hplace : t.place path with
  | error fault =>
      rw [hplace] at h
      cases h
      simp
  | ok place =>
      rw [hplace] at h
      by_cases hfound : (t.get? place).isSome = true
      · simp only [hfound, if_true] at h
        cases h
        simp
      · simp [hfound] at h

theorem hasNull_of_parent (h : path.parent.hasNull = true) : path.hasNull = true := by
  obtain ⟨part, hpart, hnull⟩ := List.any_eq_true.1 h
  exact List.any_eq_true.2 ⟨part, (List.dropLast_prefix _).subset hpart, hnull⟩

theorem ensureDirectory_eq_nullCharacter {cause : AccessError}
    (h : t.ensureDirectory path = (made, .error cause)) (hcause : cause.fault = .nullCharacter) :
    path.hasNull = true := by
  revert h
  fun_induction t.ensureDirectory path with
  | case1 => rintro ⟨⟩
  | case2 => rintro ⟨⟩
  | case3 path first hmake hthere hstop =>
      rintro ⟨⟩
      exact (makeDirectory_eq_nullCharacter hmake).1 hcause
  | case4 path first hmake hthere hgo above cause' habove ih =>
      rintro ⟨⟩
      exact hasNull_of_parent (ih habove)
  | case5 => rintro ⟨⟩
  | case6 path first hmake hthere hgo above habove cause' hlast ih =>
      rintro ⟨⟩
      unfold ensureLast at hlast
      cases hmade : made.makeDirectory path with
      | ok tree => simp [hmade] at hlast
      | error other =>
          rw [hmade] at hlast
          by_cases hthere : made.hasDirectory path = true
          · simp [hthere] at hlast
          · simp only [hthere] at hlast
            cases hlast
            exact (makeDirectory_eq_nullCharacter hmade).1 hcause

theorem hasNull_of_hasDirectory (h : t.hasDirectory path = true) : path.hasNull = false := by
  obtain ⟨place, hplace, -⟩ := hasDirectory_eq_true.1 h
  exact (place_eq_ok hplace).1

theorem hasNull_of_readText {text : String} (h : t.readText path = .ok text) :
    path.hasNull = false := by
  cases hplace : t.place path with
  | ok place => exact (place_eq_ok hplace).1
  | error fault => simp [readText, read, hplace] at h

end FileTree

end RecordMirror
