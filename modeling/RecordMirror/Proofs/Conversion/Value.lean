import RecordMirror.Proofs.Code.Eval
import RecordMirror.Proofs.Conversion.Trees
import RecordMirror.Proofs.Outcomes
/-!
What a conversion should make of a value: every object that a reference stands for is converted,
containers become those of the other side, and all else is kept.
-/

namespace RecordMirror.Conversion

open Code

variable {Object : Type}

/-- The value that a value of a type stands for on another side.  Map keys are kept. -/
def convert (rt : Runtime Object) (side : Side)
    (reference : String → Value Object → Option (Value Object)) :
    TypeExpr → Value Object → Option (Value Object)
  | .primitive _, v => some v
  | .reference record, v => reference record v
  | .optional _, .absent => some .absent
  | .optional inner, v => convert rt side reference inner v
  | .list element, .collection _ items =>
    (items.mapM (convert rt side reference element)).map (.collection side.ordered)
  | .set element, .collection _ items =>
    (items.mapM (convert rt side reference element)).bind (rt.makeSet side.distinct [])
  | .map _ value, .mapping _ entries =>
    (entries.mapM fun e => (convert rt side reference value e.2).map (Prod.mk e.1)).map
      (.mapping side.keyed)
  | _, _ => none

/-- The mirror value of a persistent value. -/
def mirrorValue (rt : Runtime Object) (mode : Mode) :
    TypeExpr → Value Object → Option (Value Object) :=
  convert rt (mirrorSide mode) fun record => rt.fromPersisted (mode.mirrorName record)

/-- The new record of a mirror. -/
def buildRecord (rt : Runtime Object) : Value Object → Option (Value Object)
  | .object o => rt.buildPersisted o
  | _ => none

/-- The persistent value of a mirror value. -/
def restoreValue (rt : Runtime Object) : TypeExpr → Value Object → Option (Value Object) :=
  convert rt recordSide fun _ => buildRecord rt

/-- The objects in a value that references stand for, with the names of their records. -/
def referencesIn : TypeExpr → Value Object → List (String × Value Object)
  | .reference record, v => [(record, v)]
  | .optional _, .absent => []
  | .optional inner, v => referencesIn inner v
  | .list element, .collection _ items => items.flatMap (referencesIn element)
  | .set element, .collection _ items => items.flatMap (referencesIn element)
  | .map _ value, .mapping _ entries => entries.flatMap fun e => referencesIn value e.2
  | _, _ => []

/-- What the conversions of objects and the order of sets are known to keep to. -/
structure Lawful (rt : Runtime Object) (mode : Mode) : Prop where
  /-- A set is iterated over its own items. -/
  arrange : ∀ items x, x ∈ rt.arrange items ↔ x ∈ items
  /-- The mirror that is made of a record is a mirror of that record's class, and can be an item of
  a set. -/
  mirror : ∀ record o m, rt.isInstance record o = true →
    rt.fromPersisted (mode.mirrorName record) (.object o) = some m →
    ∃ o', m = .object o' ∧ rt.isInstance (mode.mirrorName record) o' = true ∧
      rt.hashable o' = true
  /-- The record that a mirror builds is of the class that the mirror mirrors. -/
  record : ∀ record o v, rt.isInstance (mode.mirrorName record) o = true →
    rt.buildPersisted o = some v → ∃ o', v = .object o' ∧ rt.isInstance record o' = true
  /-- A record that is built from the mirror of an item of a set can be an item of a set. -/
  rebuilt : ∀ record o m o', rt.isInstance record o = true → rt.hashable o = true →
    rt.fromPersisted (mode.mirrorName record) (.object o) = some (.object m) →
    rt.buildPersisted m = some (.object o') → rt.hashable o' = true

/-! ### Lists of conversions -/

section

variable {α β : Type} {f g : α → Option β} {l : List α} {results : List β}

theorem mapM_congr (h : ∀ x ∈ l, f x = g x) : l.mapM f = l.mapM g := by
  induction l with
  | nil => rfl
  | cons x rest ih =>
      rw [List.mapM_cons, List.mapM_cons, h x List.mem_cons_self,
        ih fun y hy => h y (List.mem_cons_of_mem _ hy)]

theorem mapM_eq_some_iff : l.mapM f = some results ↔
    List.Forall₂ (fun x y => f x = some y) l results := by
  induction l generalizing results with
  | nil => simp [eq_comm]
  | cons x rest ih =>
      simp only [List.mapM_cons, Option.bind_eq_bind, Option.bind_eq_some_iff, Option.pure_def,
        Option.some.injEq, List.forall₂_cons_left_iff]
      constructor
      · rintro ⟨y, hy, others, hothers, rfl⟩
        exact ⟨y, others, hy, ih.1 hothers, rfl⟩
      · rintro ⟨y, others, hy, hothers, rfl⟩
        exact ⟨y, hy, others, ih.2 hothers, rfl⟩

theorem exists_of_mapM_mem (h : l.mapM f = some results) : ∀ x ∈ l, ∃ y ∈ results, f x = some y :=
  fun _ => exists_of_forall₂ (List.Forall₂.flip (mapM_eq_some_iff.1 h))

theorem exists_of_mem_mapM (h : l.mapM f = some results) : ∀ y ∈ results, ∃ x ∈ l, f x = some y :=
  fun _ => exists_of_forall₂ (mapM_eq_some_iff.1 h)

theorem exists_mapM (h : ∀ x ∈ l, ∃ y, f x = some y) : ∃ results, l.mapM f = some results := by
  induction l with
  | nil => exact ⟨[], rfl⟩
  | cons x rest ih =>
      obtain ⟨y, hy⟩ := h x List.mem_cons_self
      obtain ⟨others, hothers⟩ := ih fun z hz => h z (List.mem_cons_of_mem _ hz)
      exact ⟨y :: others, mapM_eq_some_iff.2 (.cons hy (mapM_eq_some_iff.1 hothers))⟩

/-- Two conversions after each other relate each item to what becomes of it. -/
theorem forall₂_of_mapM {γ : Type} {g : β → Option γ} {others : List γ} {related : α → γ → Prop}
    (hf : l.mapM f = some results) (hg : results.mapM g = some others)
    (h : ∀ x ∈ l, ∀ y z, f x = some y → g y = some z → related x z) :
    List.Forall₂ related l others := by
  rw [mapM_eq_some_iff] at hf
  induction hf generalizing others with
  | nil =>
      cases hg
      exact .nil
  | @cons x y rest restResults hxy _ ih =>
      rw [mapM_eq_some_iff, List.forall₂_cons_left_iff] at hg
      obtain ⟨z, tail, hyz, htail, rfl⟩ := hg
      refine .cons (h x List.mem_cons_self y z hxy hyz) (ih (mapM_eq_some_iff.2 htail) ?_)
      exact fun x hx => h x (List.mem_cons_of_mem _ hx)

theorem mapM_eq_some_self {f : α → Option α} (h : ∀ x ∈ l, f x = some x) :
    l.mapM f = some l := by
  rw [mapM_eq_some_iff, List.forall₂_same]
  exact h

end

variable {rt : Runtime Object} {side other : Side}
  {reference : String → Value Object → Option (Value Object)}

/-! ### Keys of mappings -/

theorem map_fst_of_mapM {f : Value Object → Option (Value Object)}
    {entries results : List (Value Object × Value Object)}
    (h : (entries.mapM fun e => (f e.2).map (Prod.mk e.1)) = some results) :
    results.map Prod.fst = entries.map Prod.fst := by
  rw [mapM_eq_some_iff] at h
  induction h with
  | nil => rfl
  | cons hxy _ ih =>
      obtain ⟨w, -, rfl⟩ := Option.map_eq_some_iff.1 hxy
      rw [List.map_cons, List.map_cons, ih]

/-- Keys that a mapping can have: they can be items of a set, and no two are equal. -/
structure KeysApart (rt : Runtime Object) (entries : List (Value Object × Value Object)) :
    Prop where
  hashable : ∀ e ∈ entries, rt.isHashable e.1 = true
  pairwise : entries.Pairwise fun e e' => rt.equal e.1 e'.1 = false

theorem KeysApart.of_keys {entries results : List (Value Object × Value Object)}
    (h : KeysApart rt entries) (hkeys : results.map Prod.fst = entries.map Prod.fst) :
    KeysApart rt results where
  hashable e he := by
    have hmem : e.1 ∈ entries.map Prod.fst := hkeys ▸ List.mem_map_of_mem he
    obtain ⟨e', he', heq⟩ := List.mem_map.1 hmem
    rw [← heq]
    exact h.hashable e' he'
  pairwise := by
    have hmapped : (results.map Prod.fst).Pairwise fun k k' => rt.equal k k' = false := by
      rw [hkeys]
      exact List.pairwise_map.2 h.pairwise
    exact List.pairwise_map.1 hmapped

theorem KeysApart.makeMapping {entries : List (Value Object × Value Object)}
    (h : KeysApart rt entries) (kind : Container) :
    rt.makeMapping kind [] entries = some (.mapping kind entries) :=
  Runtime.makeMapping_of_pairwise h.hashable h.pairwise

/-- The pairs of converted values make the mapping that they are. -/
theorem KeysApart.bind_makeMapping {entries : List (Value Object × Value Object)}
    (h : KeysApart rt entries) (f : Value Object → Option (Value Object)) (kind : Container) :
    (entries.mapM fun e => (f e.2).map (Prod.mk e.1)).bind (rt.makeMapping kind []) =
      (entries.mapM fun e => (f e.2).map (Prod.mk e.1)).map (.mapping kind) := by
  cases hresults : entries.mapM fun e => (f e.2).map (Prod.mk e.1) with
  | none => rfl
  | some results => exact (h.of_keys (map_fst_of_mapM hresults)).makeMapping kind

/-! ### What converted values are -/

theorem convert_of_isCopied {e : TypeExpr} (h : e.isCopied = true) (v : Value Object) :
    convert rt side reference e v = some v := by
  induction e generalizing v with
  | primitive => rfl
  | optional inner ih =>
      cases v with
      | absent => rfl
      | object | collection | mapping => exact ih h _
  | list | set | map | reference => cases h

theorem convert_optional {inner : TypeExpr} {v : Value Object} (h : v ≠ .absent) :
    convert rt side reference (.optional inner) v = convert rt side reference inner v := by
  cases v with
  | absent => exact absurd rfl h
  | object | collection | mapping => rfl

theorem referencesIn_optional {inner : TypeExpr} {v : Value Object} (h : v ≠ .absent) :
    referencesIn (.optional inner) v = referencesIn inner v := by
  cases v with
  | absent => exact absurd rfl h
  | object | collection | mapping => rfl

/-- A set that is made has only items it is made from, and for each of them one that is alike. -/
theorem of_makeSet {kind : Container} {items : List (Value Object)} {v : Value Object}
    (harrange : ∀ items x, x ∈ rt.arrange items ↔ x ∈ items)
    (h : rt.makeSet kind [] items = some v) :
    ∃ kept, v = .collection kind kept ∧ (∀ x ∈ kept, x ∈ items ∧ rt.isHashable x = true) ∧
      ∀ x ∈ items, ∃ y ∈ kept, rt.Alike x y := by
  unfold Runtime.makeSet at h
  split at h
  · rename_i hall
    cases h
    refine ⟨_, rfl, ?_, ?_⟩
    · intro x hx
      have hmem := Runtime.mem_foldl_insertItem ((harrange _ x).1 hx)
      exact ⟨by simpa using hmem, List.all_eq_true.1 hall x hmem⟩
    · intro x hx
      obtain ⟨y, hy, halike⟩ := Runtime.foldl_insertItem_covers [] hx
      exact ⟨y, (harrange _ y).2 hy, halike⟩
  · cases h

theorem makeSet_of_hashable {kind : Container} {items : List (Value Object)}
    (h : ∀ x ∈ items, rt.isHashable x = true) : ∃ v, rt.makeSet kind [] items = some v := by
  refine ⟨_, if_pos ?_⟩
  rw [List.nil_append, List.all_eq_true]
  exact h

/-- A converted value is one of the other side, if converted objects are. -/
theorem fits_convert (harrange : ∀ items x, x ∈ rt.arrange items ↔ x ∈ items)
    (hreference : ∀ record o m, rt.isInstance (side.className record) o = true →
      reference record (.object o) = some m →
      ∃ o', m = .object o' ∧ rt.isInstance (other.className record) o' = true)
    {e : TypeExpr} {v m : Value Object} (hfits : rt.Fits (hintOf side e) v)
    (hconvert : convert rt other reference e v = some m) : rt.Fits (hintOf other e) m := by
  induction e generalizing v m with
  | primitive =>
      cases hconvert
      exact hfits
  | reference record =>
      obtain ⟨o, rfl, hinstance⟩ := hfits
      exact hreference record o m hinstance hconvert
  | optional inner ih =>
      by_cases hv : v = .absent
      · subst hv
        cases hconvert
        exact Or.inl rfl
      · rw [convert_optional hv] at hconvert
        exact Or.inr (ih (hfits.resolve_left hv) hconvert)
  | list element ih =>
      obtain ⟨items, rfl, hitems⟩ := hfits
      obtain ⟨results, hresults, rfl⟩ := Option.map_eq_some_iff.1 hconvert
      refine ⟨results, rfl, ?_⟩
      intro y hy
      obtain ⟨x, hx, hxy⟩ := exists_of_mem_mapM hresults y hy
      exact ih (hitems x hx) hxy
  | set element ih =>
      obtain ⟨items, rfl, hitems⟩ := hfits
      obtain ⟨results, hresults, hset⟩ := Option.bind_eq_some_iff.1 hconvert
      obtain ⟨kept, rfl, hkept, -⟩ := of_makeSet harrange hset
      refine ⟨kept, rfl, ?_⟩
      intro y hy
      obtain ⟨hmem, hhashable⟩ := hkept y hy
      obtain ⟨x, hx, hxy⟩ := exists_of_mem_mapM hresults y hmem
      exact ⟨ih (hitems x hx).1 hxy, hhashable⟩
  | map key value _ ih =>
      obtain ⟨entries, rfl, hentries, hpairwise⟩ := hfits
      obtain ⟨results, hresults, rfl⟩ := Option.map_eq_some_iff.1 hconvert
      refine ⟨results, rfl, ?_, ?_⟩
      · intro y hy
        obtain ⟨x, hx, hxy⟩ := exists_of_mem_mapM hresults y hy
        obtain ⟨w, hw, rfl⟩ := Option.map_eq_some_iff.1 hxy
        obtain ⟨hkey, hhashable, hvalue⟩ := hentries x hx
        exact ⟨hkey, hhashable, ih hvalue hw⟩
      · have hapart : KeysApart rt entries := ⟨fun x hx => (hentries x hx).2.1, hpairwise⟩
        exact (hapart.of_keys (map_fst_of_mapM hresults)).pairwise

end RecordMirror.Conversion
