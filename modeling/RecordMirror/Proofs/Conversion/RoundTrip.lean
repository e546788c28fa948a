import RecordMirror.Proofs.Conversion.Value
/-!
Conversion to a mirror value and back: both ways succeed when the objects that references stand for
are converted, and what comes back is the value with each of those objects rebuilt.
-/

namespace RecordMirror.Conversion

open Code

variable {Object : Type} {rt : Runtime Object} {mode : Mode}

/-- Whether a value is what another one becomes on the way to a mirror and back.  An item whose
mirror is like that of another item may be lost from a set, as may one that is rebuilt like
another. -/
def Restored (rt : Runtime Object) (mode : Mode) : TypeExpr → Value Object → Value Object → Prop
  | .primitive _, v, w => v = w
  | .reference record, v, w =>
    ∃ m, rt.fromPersisted (mode.mirrorName record) v = some m ∧ buildRecord rt m = some w
  | .optional inner, v, w => v = .absent ∧ w = .absent ∨ v ≠ .absent ∧ Restored rt mode inner v w
  | .list element, v, w =>
    ∃ items restored, v = .collection .list items ∧ w = .collection .list restored ∧
      List.Forall₂ (Restored rt mode element) items restored
  | .set element, v, w =>
    ∃ items restored, v = .collection .set items ∧ w = .collection .set restored ∧
      (∀ y ∈ restored, ∃ x ∈ items, Restored rt mode element x y) ∧
      ∀ x ∈ items, ∃ x' ∈ items, ∃ y', ∃ y ∈ restored,
        (∃ m m', mirrorValue rt mode element x = some m ∧
          mirrorValue rt mode element x' = some m' ∧ rt.Alike m m') ∧
        Restored rt mode element x' y' ∧ rt.Alike y' y
  | .map _ value, v, w =>
    ∃ entries restored, v = .mapping .dict entries ∧ w = .mapping .dict restored ∧
      List.Forall₂ (fun e e' => e.1 = e'.1 ∧ Restored rt mode value e.2 e'.2) entries restored

/-! ### Values of mirrors and of restored records -/

variable {e : TypeExpr} {v m w : Value Object}

theorem Lawful.fits_mirrorValue (hlawful : Lawful rt mode) (hfits : rt.Fits (hintOf recordSide e) v)
    (hmirror : mirrorValue rt mode e v = some m) : rt.Fits (hintOf (mirrorSide mode) e) m := by
  refine fits_convert hlawful.arrange ?_ hfits hmirror
  intro record o m hinstance hm
  obtain ⟨o', heq, hclass, -⟩ := hlawful.mirror record o m hinstance hm
  exact ⟨o', heq, hclass⟩

theorem Lawful.fits_restoreValue (hlawful : Lawful rt mode)
    (hfits : rt.Fits (hintOf (mirrorSide mode) e) m) (hrestore : restoreValue rt e m = some w) :
    rt.Fits (hintOf recordSide e) w :=
  fits_convert hlawful.arrange hlawful.record hfits hrestore

theorem Lawful.mirrorValue_ne_absent (hlawful : Lawful rt mode)
    (hfits : rt.Fits (hintOf recordSide e) v) (hmirror : mirrorValue rt mode e v = some m)
    (hv : v ≠ .absent) : m ≠ .absent := by
  induction e with
  | primitive =>
      cases hmirror
      exact hv
  | reference | list | set | map =>
      obtain ⟨_, rfl, -⟩ := hlawful.fits_mirrorValue hfits hmirror
      exact nofun
  | optional inner ih =>
      rw [mirrorValue, convert_optional hv] at hmirror
      exact ih (hfits.resolve_left hv) hmirror

/-! ### Items of sets -/

/-- A mirror value can be an item of a set if the record's value can. -/
theorem Lawful.isHashable_mirrorValue (hlawful : Lawful rt mode)
    (hfits : rt.Fits (hintOf recordSide e) v) (hmirror : mirrorValue rt mode e v = some m)
    (hv : rt.isHashable v = true) : rt.isHashable m = true := by
  induction e with
  | primitive =>
      cases hmirror
      exact hv
  | reference record =>
      obtain ⟨o, rfl, hinstance⟩ := hfits
      obtain ⟨o', rfl, -, hhashable⟩ := hlawful.mirror record o m hinstance hmirror
      simpa [Runtime.isHashable] using hhashable
  | optional inner ih =>
      by_cases habsent : v = .absent
      · subst habsent
        cases hmirror
        exact hv
      · rw [mirrorValue, convert_optional habsent] at hmirror
        exact ih (hfits.resolve_left habsent) hmirror
  | list | set | map =>
      -- Containers of records are no items of sets.
      obtain ⟨_, rfl, -⟩ := hfits
      simp [Runtime.isHashable, recordSide] at hv

/-- A restored value can be an item of a set if the value it is restored from can. -/
theorem Lawful.isHashable_restoreValue (hlawful : Lawful rt mode)
    (hfits : rt.Fits (hintOf recordSide e) v) (hmirror : mirrorValue rt mode e v = some m)
    (hrestore : restoreValue rt e m = some w) (hv : rt.isHashable v = true) :
    rt.isHashable w = true := by
  induction e with
  | primitive =>
      cases hmirror
      cases hrestore
      exact hv
  | reference record =>
      obtain ⟨o, rfl, hinstance⟩ := hfits
      obtain ⟨o', rfl, hclass, -⟩ := hlawful.mirror record o m hinstance hmirror
      obtain ⟨o'', rfl, -⟩ := hlawful.record record o' w hclass hrestore
      rw [Runtime.isHashable] at hv ⊢
      exact hlawful.rebuilt record o o' o'' hinstance hv hmirror hrestore
  | optional inner ih =>
      by_cases habsent : v = .absent
      · subst habsent
        cases hmirror
        cases hrestore
        exact hv
      · have hm := hlawful.mirrorValue_ne_absent hfits hmirror habsent
        rw [mirrorValue, convert_optional habsent] at hmirror
        rw [restoreValue, convert_optional hm] at hrestore
        exact ih (hfits.resolve_left habsent) hmirror hrestore
  | list | set | map =>
      obtain ⟨_, rfl, -⟩ := hfits
      simp [Runtime.isHashable, recordSide] at hv

/-! ### Conversions that succeed -/

/-- A value has a mirror value if the records that its references stand for have mirrors. -/
theorem Lawful.exists_mirrorValue (hlawful : Lawful rt mode)
    (hfits : rt.Fits (hintOf recordSide e) v)
    (hreferences : ∀ p ∈ referencesIn e v,
      ∃ m, rt.fromPersisted (mode.mirrorName p.1) p.2 = some m) :
    ∃ m, mirrorValue rt mode e v = some m := by
  induction e generalizing v with
  | primitive => exact ⟨v, rfl⟩
  | reference record => exact hreferences _ (List.mem_singleton_self _)
  | optional inner ih =>
      by_cases habsent : v = .absent
      · subst habsent
        exact ⟨.absent, rfl⟩
      · rw [referencesIn_optional habsent] at hreferences
        rw [mirrorValue, convert_optional habsent]
        exact ih (hfits.resolve_left habsent) hreferences
  | list element ih =>
      obtain ⟨items, rfl, hitems⟩ := hfits
      obtain ⟨results, hresults⟩ := exists_mapM fun x hx =>
        ih (hitems x hx) fun p hp => hreferences p (List.mem_flatMap_of_mem hx hp)
      exact ⟨_, Option.map_eq_some_iff.2 ⟨results, hresults, rfl⟩⟩
  | set element ih =>
      obtain ⟨items, rfl, hitems⟩ := hfits
      obtain ⟨results, hresults⟩ := exists_mapM fun x hx =>
        ih (hitems x hx).1 fun p hp => hreferences p (List.mem_flatMap_of_mem hx hp)
      have hhashable : ∀ y ∈ results, rt.isHashable y = true := by
        intro y hy
        obtain ⟨x, hx, hxy⟩ := exists_of_mem_mapM hresults y hy
        exact hlawful.isHashable_mirrorValue (hitems x hx).1 hxy (hitems x hx).2
      obtain ⟨m, hm⟩ := makeSet_of_hashable hhashable
      exact ⟨m, Option.bind_eq_some_iff.2 ⟨results, hresults, hm⟩⟩
  | map key value _ ih =>
      obtain ⟨entries, rfl, hentries, -⟩ := hfits
      obtain ⟨results, hresults⟩ := exists_mapM fun x hx => by
        obtain ⟨y, hy⟩ := ih (hentries x hx).2.2
          fun p hp => hreferences p (List.mem_flatMap_of_mem hx hp)
        exact ⟨(x.1, y), Option.map_eq_some_iff.2 ⟨y, hy, rfl⟩⟩
      exact ⟨_, Option.map_eq_some_iff.2 ⟨results, hresults, rfl⟩⟩

/-- The mirror value of a record's value is restored if its mirrors build their records. -/
theorem Lawful.exists_restoreValue (hlawful : Lawful rt mode)
    (hfits : rt.Fits (hintOf recordSide e) v) (hmirror : mirrorValue rt mode e v = some m)
    (hreferences : ∀ p ∈ referencesIn e m, ∃ w, buildRecord rt p.2 = some w) :
    ∃ w, restoreValue rt e m = some w := by
  induction e generalizing v m with
  | primitive => exact ⟨m, rfl⟩
  | reference record => exact hreferences _ (List.mem_singleton_self _)
  | optional inner ih =>
      by_cases habsent : v = .absent
      · subst habsent
        cases hmirror
        exact ⟨.absent, rfl⟩
      · have hm := hlawful.mirrorValue_ne_absent hfits hmirror habsent
        rw [mirrorValue, convert_optional habsent] at hmirror
        rw [referencesIn_optional hm] at hreferences
        rw [restoreValue, convert_optional hm]
        exact ih (hfits.resolve_left habsent) hmirror hreferences
  | list element ih =>
      obtain ⟨items, rfl, hitems⟩ := hfits
      obtain ⟨results, hresults, rfl⟩ := Option.map_eq_some_iff.1 hmirror
      obtain ⟨others, hothers⟩ := exists_mapM fun y hy => by
        obtain ⟨x, hx, hxy⟩ := exists_of_mem_mapM hresults y hy
        exact ih (hitems x hx) hxy fun p hp => hreferences p (List.mem_flatMap_of_mem hy hp)
      exact ⟨_, Option.map_eq_some_iff.2 ⟨others, hothers, rfl⟩⟩
  | set element ih =>
      obtain ⟨items, rfl, hitems⟩ := hfits
      obtain ⟨results, hresults, hset⟩ := Option.bind_eq_some_iff.1 hmirror
      obtain ⟨kept, rfl, hkept, -⟩ := of_makeSet hlawful.arrange hset
      obtain ⟨others, hothers⟩ := exists_mapM fun y hy => by
        obtain ⟨x, hx, hxy⟩ := exists_of_mem_mapM hresults y (hkept y hy).1
        exact ih (hitems x hx).1 hxy fun p hp => hreferences p (List.mem_flatMap_of_mem hy hp)
      have hhashable : ∀ z ∈ others, rt.isHashable z = true := by
        intro z hz
        obtain ⟨y, hy, hyz⟩ := exists_of_mem_mapM hothers z hz
        obtain ⟨x, hx, hxy⟩ := exists_of_mem_mapM hresults y (hkept y hy).1
        exact hlawful.isHashable_restoreValue (hitems x hx).1 hxy hyz (hitems x hx).2
      obtain ⟨w, hw⟩ := makeSet_of_hashable hhashable
      exact ⟨w, Option.bind_eq_some_iff.2 ⟨others, hothers, hw⟩⟩
  | map key value _ ih =>
      obtain ⟨entries, rfl, hentries, -⟩ := hfits
      obtain ⟨results, hresults, rfl⟩ := Option.map_eq_some_iff.1 hmirror
      have hall : ∀ y ∈ results, ∃ z, (restoreValue rt value y.2).map (Prod.mk y.1) = some z := by
        intro y hy
        obtain ⟨x, hx, hxy⟩ := exists_of_mem_mapM hresults y hy
        obtain ⟨u, hu, rfl⟩ := Option.map_eq_some_iff.1 hxy
        obtain ⟨z, hz⟩ := ih (hentries x hx).2.2 hu
          fun p hp => hreferences p (List.mem_flatMap_of_mem hy hp)
        exact ⟨(x.1, z), Option.map_eq_some_iff.2 ⟨z, hz, rfl⟩⟩
      obtain ⟨others, hothers⟩ := exists_mapM hall
      exact ⟨_, Option.map_eq_some_iff.2 ⟨others, hothers, rfl⟩⟩

/-! ### The way back -/

/-- What is restored from a mirror value is the value that was mirrored, with records rebuilt. -/
theorem Lawful.restored (hlawful : Lawful rt mode) (hfits : rt.Fits (hintOf recordSide e) v)
    (hmirror : mirrorValue rt mode e v = some m) (hrestore : restoreValue rt e m = some w) :
    Restored rt mode e v w := by
  induction e generalizing v m w with
  | primitive =>
      cases hmirror
      cases hrestore
      rfl
  | reference record => exact ⟨m, hmirror, hrestore⟩
  | optional inner ih =>
      by_cases habsent : v = .absent
      · subst habsent
        cases hmirror
        cases hrestore
        exact Or.inl ⟨rfl, rfl⟩
      · have hm := hlawful.mirrorValue_ne_absent hfits hmirror habsent
        rw [mirrorValue, convert_optional habsent] at hmirror
        rw [restoreValue, convert_optional hm] at hrestore
        exact Or.inr ⟨habsent, ih (hfits.resolve_left habsent) hmirror hrestore⟩
  | list element ih =>
      obtain ⟨items, rfl, hitems⟩ := hfits
      obtain ⟨results, hresults, rfl⟩ := Option.map_eq_some_iff.1 hmirror
      obtain ⟨others, hothers, rfl⟩ := Option.map_eq_some_iff.1 hrestore
      exact ⟨items, others, rfl, rfl, forall₂_of_mapM hresults hothers fun x hx y z =>
        ih (hitems x hx)⟩
  | set element ih =>
      obtain ⟨items, rfl, hitems⟩ := hfits
      obtain ⟨results, hresults, hset⟩ := Option.bind_eq_some_iff.1 hmirror
      obtain ⟨kept, rfl, hkept, hcovers⟩ := of_makeSet hlawful.arrange hset
      obtain ⟨others, hothers, hset'⟩ := Option.bind_eq_some_iff.1 hrestore
      obtain ⟨restored, rfl, hrestored, hcovers'⟩ := of_makeSet hlawful.arrange hset'
      refine ⟨items, restored, rfl, rfl, ?_, ?_⟩
      · intro z hz
        obtain ⟨y, hy, hyz⟩ := exists_of_mem_mapM hothers z (hrestored z hz).1
        obtain ⟨x, hx, hxy⟩ := exists_of_mem_mapM hresults y (hkept y hy).1
        exact ⟨x, hx, ih (hitems x hx).1 hxy hyz⟩
      · intro x hx
        obtain ⟨y, hy, hxy⟩ := exists_of_mapM_mem hresults x hx
        obtain ⟨y', hy', halike⟩ := hcovers y hy
        obtain ⟨x', hx', hxy'⟩ := exists_of_mem_mapM hresults y' (hkept y' hy').1
        obtain ⟨z', hz', hyz'⟩ := exists_of_mapM_mem hothers y' hy'
        obtain ⟨z, hz, halike'⟩ := hcovers' z' hz'
        exact ⟨x', hx', z', z, hz, ⟨y, y', hxy, hxy', halike⟩, ih (hitems x' hx').1 hxy' hyz',
          halike'⟩
  | map key value _ ih =>
      obtain ⟨entries, rfl, hentries, -⟩ := hfits
      obtain ⟨results, hresults, rfl⟩ := Option.map_eq_some_iff.1 hmirror
      obtain ⟨others, hothers, rfl⟩ := Option.map_eq_some_iff.1 hrestore
      refine ⟨entries, others, rfl, rfl, forall₂_of_mapM hresults hothers ?_⟩
      intro x hx y z hxy hyz
      obtain ⟨u, hu, rfl⟩ := Option.map_eq_some_iff.1 hxy
      obtain ⟨t, ht, rfl⟩ := Option.map_eq_some_iff.1 hyz
      exact ⟨rfl, ih (hentries x hx).2.2 hu ht⟩

end RecordMirror.Conversion
