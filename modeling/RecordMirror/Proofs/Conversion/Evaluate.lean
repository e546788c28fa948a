import RecordMirror.Proofs.Conversion.Value
/-!
The trees of a conversion have the values that the conversion should make.  Loop variables hide each
other only where the hidden one is not used, and never hide the name of a container or a mirror.
-/

namespace RecordMirror.Conversion

open Code

variable {Object : Type} {rt : Runtime Object} {mode : Mode}
  {locals : List (String × Value Object)}

/-- No local variable has the name of a container or of a mirror. -/
structure HidesNothing (mode : Mode) (locals : List (String × Value Object)) : Prop where
  container : ∀ c : Container, locals.lookup c.name = none
  mirror : ∀ record, locals.lookup (mode.mirrorName record) = none

theorem container_name_ne_loopVariable (c : Container) (depth : Nat) {stem : String}
    (hstem : stem = "item" ∨ stem = "key" ∨ stem = "value") :
    c.name ≠ loopVariable stem depth := by
  intro heq
  obtain ⟨rest, hrest, -⟩ := loopVariable_toList stem depth
  have hstart : stem.toList <+: c.name.toList := ⟨rest, by rw [heq, hrest]⟩
  rcases hstem with rfl | rfl | rfl <;> cases c <;> revert hstart <;> decide

theorem mirrorName_ne_loopVariable (mode : Mode) (record : String) (depth : Nat) {stem : String}
    (hstem : stem = "item" ∨ stem = "key" ∨ stem = "value") :
    mode.mirrorName record ≠ loopVariable stem depth := by
  intro heq
  obtain ⟨rest, hrest, -⟩ := loopVariable_toList stem depth
  have hstart : stem.toList <+: (mode.mirrorName record).toList := ⟨rest, by rw [heq, hrest]⟩
  have hmode : mode.style.namePrefix.toList <+: (mode.mirrorName record).toList := by
    rw [Mode.mirrorName, String.toList_append]
    exact List.prefix_append _ _
  rcases List.prefix_or_prefix_of_prefix hstart hmode with h | h <;>
    rcases hstem with rfl | rfl | rfl <;> cases mode <;> revert h <;> decide

theorem HidesNothing.cons (h : HidesNothing mode locals) {stem : String}
    (hstem : stem = "item" ∨ stem = "key" ∨ stem = "value") (depth : Nat) (x : Value Object) :
    HidesNothing mode ((loopVariable stem depth, x) :: locals) where
  container c := by
    rw [List.lookup_cons, beq_false_of_ne (container_name_ne_loopVariable c depth hstem)]
    exact h.container c
  mirror record := by
    rw [List.lookup_cons, beq_false_of_ne (mirrorName_ne_loopVariable mode record depth hstem)]
    exact h.mirror record

/-- The local variables of the methods of a mirror class. -/
def methodVariables : List String :=
  ["cls", "self", persistedObject]

theorem HidesNothing.of_method (h : ∀ x ∈ locals, x.1 ∈ methodVariables) :
    HidesNothing mode locals where
  container c := by
    rw [List.lookup_eq_none_iff]
    intro x hx
    have hne : c.name ∉ methodVariables := by cases c <;> decide
    exact bne_iff_ne.2 fun heq => hne (heq.symm ▸ h x hx)
  mirror record := by
    rw [List.lookup_eq_none_iff]
    intro x hx
    have hmode : ∀ name ∈ methodVariables, ¬ mode.style.namePrefix.toList <+: name.toList := by
      cases mode <;> decide
    refine bne_iff_ne.2 fun heq => hmode x.1 (h x hx) ?_
    rw [← heq, Mode.mirrorName, String.toList_append]
    exact List.prefix_append _ _

/-! ### Making containers -/

theorem makeFromItems_of_isSequence {c : Container} (hc : c.isSequence = true) :
    rt.makeFromItems c = fun items => some (.collection c items) := by
  cases c with
  | tuple | list => rfl
  | frozenset | set | immutabledict | dict => cases hc

theorem makeFromItems_of_isSet {c : Container} (hc : c.isSet = true) :
    rt.makeFromItems c = rt.makeSet c [] := by
  cases c with
  | frozenset | set => rfl
  | tuple | list | immutabledict | dict => cases hc

theorem make_collection {c : Container} (hc : c.isMapping = false) (kind : Container)
    (items : List (Value Object)) :
    rt.make c (.collection kind items) = rt.makeFromItems c items := by
  cases c with
  | immutabledict | dict => cases hc
  | tuple | list | frozenset | set => rfl

theorem make_mapping {c : Container} (hc : c.isMapping = true) (kind : Container)
    (entries : List (Value Object × Value Object)) :
    rt.make c (.mapping kind entries) = rt.makeMapping c [] entries := by
  cases c with
  | immutabledict | dict => rfl
  | tuple | list | frozenset | set => cases hc

theorem convert_items_of_isCopied {side : Side}
    {reference : String → Value Object → Option (Value Object)} {element : TypeExpr}
    (h : element.isCopied = true) (items : List (Value Object)) :
    items.mapM (convert rt side reference element) = some items :=
  mapM_eq_some_self fun x _ => convert_of_isCopied h x

theorem convert_entries_of_isCopied {side : Side}
    {reference : String → Value Object → Option (Value Object)} {value : TypeExpr}
    (h : value.isCopied = true) (entries : List (Value Object × Value Object)) :
    (entries.mapM fun e => (convert rt side reference value e.2).map (Prod.mk e.1)) =
      some entries := by
  apply mapM_eq_some_self
  intro e _
  rw [convert_of_isCopied h]
  rfl

/-! ### Evaluating comprehensions -/

theorem eval_construct {c : Container} {source : Expr} (hc : locals.lookup c.name = none) :
    rt.eval (.construct c source) locals = (rt.eval source locals).bind (rt.make c) := by
  rw [Runtime.eval, hc]

theorem eval_construct_collection {c kind : Container} {source : Expr} {items : List (Value Object)}
    (hc : locals.lookup c.name = none) (hkind : c.isMapping = false)
    (hsource : rt.eval source locals = some (.collection kind items)) :
    rt.eval (.construct c source) locals = rt.makeFromItems c items := by
  rw [eval_construct hc, hsource]
  exact make_collection hkind kind items

theorem eval_constructEach {c kind : Container} {value source : Expr} {item : String}
    {items : List (Value Object)} {f : Value Object → Option (Value Object)}
    (hc : locals.lookup c.name = none)
    (hsource : rt.eval source locals = some (.collection kind items))
    (hvalue : ∀ x ∈ items, rt.eval value ((item, x) :: locals) = f x) :
    rt.eval (.constructEach c value item source) locals =
      (items.mapM f).bind (rt.makeFromItems c) := by
  rw [Runtime.eval, hc, hsource, ← mapM_congr hvalue]
  rfl

theorem eval_displayEach {display : Display} {kind : Container} {value source : Expr}
    {item : String} {items : List (Value Object)} {f : Value Object → Option (Value Object)}
    (hsource : rt.eval source locals = some (.collection kind items))
    (hvalue : ∀ x ∈ items, rt.eval value ((item, x) :: locals) = f x) :
    rt.eval (.displayEach display value item source) locals =
      (items.mapM f).bind (rt.makeFromItems display.container) := by
  change (((rt.eval source locals).bind rt.itemsOf).bind fun items =>
    (items.mapM fun x => rt.eval value ((item, x) :: locals)).bind
      (rt.makeFromItems display.container)) = _
  rw [hsource, ← mapM_congr hvalue]
  rfl

theorem eval_pairs {kind : Container} {key item : String} {value source : Expr}
    {entries : List (Value Object × Value Object)} {f : Value Object → Option (Value Object)}
    (hapart : KeysApart rt entries) (hne : key ≠ item)
    (hsource : rt.eval source locals = some (.mapping kind entries))
    (hvalue : ∀ e ∈ entries, rt.eval value ((item, e.2) :: (key, e.1) :: locals) = f e.2) :
    rt.eval (.pairs key item value source) locals =
      (entries.mapM fun e => (f e.2).map (Prod.mk e.1)).map (.mapping .dict) := by
  have hpairs : ∀ e ∈ entries, (do
      let k ← List.lookup key ((item, e.2) :: (key, e.1) :: locals)
      let v ← rt.eval value ((item, e.2) :: (key, e.1) :: locals)
      return (k, v)) = (f e.2).map (Prod.mk e.1) := by
    intro e he
    rw [hvalue e he, List.lookup_cons, beq_false_of_ne hne]
    cases f e.2 <;> simp
  change (((rt.eval source locals).bind rt.entriesOf).bind fun entries =>
    (entries.mapM fun e : Value Object × Value Object => do
      let k ← List.lookup key ((item, e.2) :: (key, e.1) :: locals)
      let v ← rt.eval value ((item, e.2) :: (key, e.1) :: locals)
      return (k, v)).bind (rt.makeMapping .dict [])) = _
  rw [← hapart.bind_makeMapping, ← mapM_congr hpairs, hsource]
  rfl

theorem eval_ifPresent_absent {value subject : Expr}
    (hsubject : rt.eval subject locals = some .absent) :
    rt.eval (.ifPresent value subject) locals = some .absent := by
  change ((rt.eval subject locals).bind _) = _
  rw [hsubject]
  rfl

theorem eval_ifPresent {value subject : Expr} {v : Value Object}
    (hsubject : rt.eval subject locals = some v) (hv : v ≠ .absent) :
    rt.eval (.ifPresent value subject) locals = rt.eval value locals := by
  change ((rt.eval subject locals).bind _) = _
  rw [hsubject]
  cases v with
  | absent => exact absurd rfl hv
  | object | collection | mapping => rfl

/-- A mapping made from one with other keys has its pairs. -/
theorem eval_construct_mapping {entries : List (Value Object × Value Object)}
    (hapart : KeysApart rt entries) {f : Value Object → Option (Value Object)} {c kind : Container}
    {pairs : Expr} (hc : locals.lookup c.name = none) (hmapping : c.isMapping = true)
    (hpairs : rt.eval pairs locals =
      (entries.mapM fun e => (f e.2).map (Prod.mk e.1)).map (.mapping kind)) :
    rt.eval (.construct c pairs) locals =
      (entries.mapM fun e => (f e.2).map (Prod.mk e.1)).map (.mapping c) := by
  rw [eval_construct hc, hpairs]
  cases hresults : entries.mapM fun e => (f e.2).map (Prod.mk e.1) with
  | none => rfl
  | some results =>
      have hmake := (hapart.of_keys (map_fst_of_mapM hresults)).makeMapping c
      rw [← make_mapping hmapping kind] at hmake
      exact hmake

theorem eval_item {stem : String} (depth : Nat) (x : Value Object) :
    rt.eval (.name (loopVariable stem depth)) ((loopVariable stem depth, x) :: locals) =
      some x :=
  List.lookup_cons_self

/-! ### The value of a conversion -/

/-- The expression of the mirror value has the mirror value. -/
theorem eval_forward {e : TypeExpr} {source : Expr} {v : Value Object} (depth : Nat)
    (hlocals : HidesNothing mode locals) (hsource : rt.eval source locals = some v)
    (hfits : rt.Fits (hintOf recordSide e) v) :
    rt.eval (forward mode e source depth) locals = mirrorValue rt mode e v := by
  induction e generalizing source v depth locals with
  | primitive => exact hsource
  | reference record =>
      rw [forward, Runtime.eval, hlocals.mirror record, hsource]
      rfl
  | optional inner ih =>
      rw [forward]
      split
      · rename_i hcopied
        have hwhole : (TypeExpr.optional inner).isCopied = true := hcopied
        rw [hsource, mirrorValue, convert_of_isCopied hwhole]
      · by_cases hv : v = .absent
        · subst hv
          exact eval_ifPresent_absent hsource
        · rw [eval_ifPresent hsource hv, mirrorValue, convert_optional hv]
          exact ih depth hlocals hsource (hfits.resolve_left hv)
  | list element ih =>
      obtain ⟨items, rfl, hitems⟩ := hfits
      have hmake : rt.makeFromItems mode.style.sequence = _ :=
        makeFromItems_of_isSequence (by cases mode <;> rfl)
      rw [forward]
      split
      · rename_i hcopied
        rw [eval_construct_collection (hlocals.container _) (by cases mode <;> rfl) hsource, hmake,
          mirrorValue, convert, convert_items_of_isCopied hcopied]
        rfl
      · rw [eval_constructEach (hlocals.container _) hsource fun x hx =>
          ih (depth + 1) (hlocals.cons (.inl rfl) depth x) (eval_item depth x) (hitems x hx), hmake]
        exact Option.map_eq_bind.symm
  | set element ih =>
      obtain ⟨items, rfl, hitems⟩ := hfits
      have hmake : rt.makeFromItems mode.style.set = _ :=
        makeFromItems_of_isSet (by cases mode <;> rfl)
      rw [forward]
      split
      · rename_i hcopied
        rw [eval_construct_collection (hlocals.container _) (by cases mode <;> rfl) hsource, hmake,
          mirrorValue, convert, convert_items_of_isCopied hcopied]
        rfl
      · rw [eval_constructEach (hlocals.container _) hsource fun x hx =>
          ih (depth + 1) (hlocals.cons (.inl rfl) depth x) (eval_item depth x) (hitems x hx).1,
          hmake]
        rfl
  | map key value _ ih =>
      obtain ⟨entries, rfl, hentries, hpairwise⟩ := hfits
      have hapart : KeysApart rt entries := ⟨fun e he => (hentries e he).2.1, hpairwise⟩
      have hkind : mode.style.mapping.isMapping = true := by cases mode <;> rfl
      have hne : loopVariable "key" depth ≠ loopVariable "value" depth :=
        loopVariable_ne depth depth (by decide)
      simp only [forward]
      split
      · rename_i hcopied
        rw [eval_construct (hlocals.container _), hsource, Option.bind_some, make_mapping hkind,
          hapart.makeMapping, mirrorValue, convert, convert_entries_of_isCopied hcopied]
        rfl
      · have hpairs := eval_pairs hapart hne hsource fun e he =>
          ih (depth + 1)
            ((hlocals.cons (.inr (.inl rfl)) depth e.1).cons (.inr (.inr rfl)) depth e.2)
            (eval_item depth e.2) (hentries e he).2.2
        split
        · rename_i hdict
          rw [hpairs, mirrorValue, convert, mirrorSide, hdict]
        · exact eval_construct_mapping hapart (hlocals.container _) hkind hpairs

/-- The expression of the record value has the record value. -/
theorem eval_backward {e : TypeExpr} {source : Expr} {v : Value Object} (depth : Nat)
    (hlocals : HidesNothing mode locals) (hsource : rt.eval source locals = some v)
    (hfits : rt.Fits (hintOf (mirrorSide mode) e) v) :
    rt.eval (backward e source depth) locals = restoreValue rt e v := by
  induction e generalizing source v depth locals with
  | primitive => exact hsource
  | reference record =>
      obtain ⟨o, rfl, -⟩ := hfits
      change ((rt.eval source locals).bind _) = _
      rw [hsource]
      rfl
  | optional inner ih =>
      rw [backward]
      split
      · rename_i hcopied
        have hwhole : (TypeExpr.optional inner).isCopied = true := hcopied
        rw [hsource, restoreValue, convert_of_isCopied hwhole]
      · by_cases hv : v = .absent
        · subst hv
          exact eval_ifPresent_absent hsource
        · rw [eval_ifPresent hsource hv, restoreValue, convert_optional hv]
          exact ih depth hlocals hsource (hfits.resolve_left hv)
  | list element ih =>
      obtain ⟨items, rfl, hitems⟩ := hfits
      rw [backward]
      split
      · rename_i hcopied
        rw [eval_construct_collection (hlocals.container _) rfl hsource, restoreValue, convert,
          convert_items_of_isCopied hcopied]
        rfl
      · rw [eval_displayEach hsource fun x hx =>
          ih (depth + 1) (hlocals.cons (.inl rfl) depth x) (eval_item depth x) (hitems x hx)]
        exact Option.map_eq_bind.symm
  | set element ih =>
      obtain ⟨items, rfl, hitems⟩ := hfits
      rw [backward]
      split
      · rename_i hcopied
        rw [eval_construct_collection (hlocals.container _) rfl hsource, restoreValue, convert,
          convert_items_of_isCopied hcopied]
        rfl
      · rw [eval_displayEach hsource fun x hx =>
          ih (depth + 1) (hlocals.cons (.inl rfl) depth x) (eval_item depth x) (hitems x hx).1]
        rfl
  | map key value _ ih =>
      obtain ⟨entries, rfl, hentries, hpairwise⟩ := hfits
      have hapart : KeysApart rt entries := ⟨fun e he => (hentries e he).2.1, hpairwise⟩
      have hne : loopVariable "key" depth ≠ loopVariable "value" depth :=
        loopVariable_ne depth depth (by decide)
      rw [backward]
      split
      · rename_i hcopied
        rw [eval_construct (hlocals.container _), hsource, Option.bind_some, make_mapping rfl,
          hapart.makeMapping, restoreValue, convert, convert_entries_of_isCopied hcopied]
        rfl
      · exact eval_pairs hapart hne hsource fun e he =>
          ih (depth + 1)
            ((hlocals.cons (.inr (.inl rfl)) depth e.1).cons (.inr (.inr rfl)) depth e.2)
            (eval_item depth e.2) (hentries e he).2.2

end RecordMirror.Conversion
