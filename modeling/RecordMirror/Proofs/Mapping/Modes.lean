import RecordMirror.Proofs.Code.Containers
import RecordMirror.Proofs.Mode
/-!
The two modes of a mapping.  What a field has in an observable mirror is what it has in a readonly
one, with each container exchanged for its counterpart and each mirror for the observable one.  That
is a map of trees, which does not look at the type that the trees were made for.
-/

namespace RecordMirror

open Code Conversion

/-! ### The observable counterpart of a tree -/

/-- The container of an observable mirror for that of a readonly one. -/
def Container.toObservable : Container → Container
  | tuple => list
  | frozenset => set
  | immutabledict => dict
  | container => container

/-- The name of the observable mirror for that of a readonly one. -/
def Mode.observableName (name : String) : String :=
  match ofMirrorName? name with
  | some (.readonly, record) => observable.mirrorName record
  | _ => name

namespace Code

/-- The annotation of an observable mirror for that of a readonly one.  The key of a mapping names
no mirror. -/
def TypeHint.toObservable : TypeHint → TypeHint
  | name text => name (Mode.observableName text)
  | optional inner => optional inner.toObservable
  | sequence container element => sequence container.toObservable element.toObservable
  | set container element => set container.toObservable element.toObservable
  | mapping container key value => mapping container.toObservable key value.toObservable

/-- The expression of an observable mirror's value for that of a readonly one.  A display of pairs
is a mapping already. -/
def Expr.toObservable : Expr → Expr
  | name text => name text
  | member object field => member object.toObservable field
  | fromPersisted mirror record => fromPersisted (Mode.observableName mirror) record.toObservable
  | buildPersisted mirror => buildPersisted mirror.toObservable
  | construct .immutabledict (pairs key item value source) =>
    pairs key item value.toObservable source.toObservable
  | construct container source => construct container.toObservable source.toObservable
  | constructEach container value item source =>
    constructEach container.toObservable value.toObservable item source.toObservable
  | displayEach display value item source =>
    displayEach display value.toObservable item source.toObservable
  | pairs key item value source => pairs key item value.toObservable source.toObservable
  | ifPresent value subject => ifPresent value.toObservable subject.toObservable

/-- The field of an observable mirror for that of a readonly one.  What is stored into the record
does not change. -/
def MirrorField.toObservable (field : MirrorField) : MirrorField where
  name := field.name
  hint := field.hint.toObservable
  forward := field.forward.toObservable
  backward := field.backward

/-- An expression for a place: a variable, or an attribute of a place. -/
inductive Expr.IsPlace : Expr → Prop
  | name (text : String) : IsPlace (name text)
  | member {object : Expr} (field : String) : IsPlace object → IsPlace (member object field)

namespace Expr.IsPlace

variable {source : Expr}

theorem toObservable_eq (h : source.IsPlace) : source.toObservable = source := by
  induction h with
  | name text => rfl
  | member field _ ih => rw [Expr.toObservable, ih]

/-- A place is no display, so a container made from it remains one. -/
theorem toObservable_construct (h : source.IsPlace) (container : Container) :
    (construct container source).toObservable = construct container.toObservable source := by
  have hsource := h.toObservable_eq
  cases h with
  | name text => cases container <;> rfl
  | member field hobject => cases container <;> exact congrArg (construct _) hsource

end Expr.IsPlace

end Code

/-! ### The counterparts of what is planned -/

theorem Mode.observableName_mirrorName (record : String) :
    observableName (readonly.mirrorName record) = observable.mirrorName record := by
  simp only [observableName, ofMirrorName?_mirrorName]

theorem Mode.observableName_hintText (type : Primitive) :
    observableName type.hintText = type.hintText := by
  cases type <;> decide

theorem Conversion.hintOf_toObservable (e : TypeExpr) :
    (hintOf (mirrorSide .readonly) e).toObservable = hintOf (mirrorSide .observable) e := by
  induction e with
  | primitive type => exact congrArg TypeHint.name (Mode.observableName_hintText type)
  | reference record => exact congrArg TypeHint.name (Mode.observableName_mirrorName record)
  | optional inner ih => exact congrArg TypeHint.optional ih
  | list element ih => exact congrArg (TypeHint.sequence .list) ih
  | set element ih => exact congrArg (TypeHint.set .set) ih
  | map key value _ ih => exact congrArg (TypeHint.mapping .dict (keyHintOf key)) ih

theorem Conversion.forward_toObservable (e : TypeExpr) {source : Expr} (hsource : source.IsPlace)
    (depth : Nat) :
    (forward .readonly e source depth).toObservable = forward .observable e source depth := by
  induction e generalizing source depth with
  | primitive type => exact hsource.toObservable_eq
  | reference record =>
      rw [forward, forward, Expr.toObservable, Mode.observableName_mirrorName,
        hsource.toObservable_eq]
  | optional inner ih =>
      rw [forward, forward]
      split
      · exact hsource.toObservable_eq
      · rw [Expr.toObservable, ih hsource, hsource.toObservable_eq]
  | list element ih | set element ih =>
      rw [forward, forward]
      split
      · exact hsource.toObservable_construct _
      · rw [Expr.toObservable, ih (.name _), hsource.toObservable_eq]
        rfl
  | map key value _ ih =>
      rw [forward, forward]
      split
      · exact hsource.toObservable_construct _
      · -- Only the readonly mirror makes a container from the pairs.
        change (Expr.construct .immutabledict (.pairs _ _ _ _)).toObservable = Expr.pairs _ _ _ _
        rw [Expr.toObservable, ih (.name _), hsource.toObservable_eq]

theorem MirrorField.ofType_toObservable (name : String) (type : TypeExpr) :
    (MirrorField.ofType .readonly name type).toObservable = .ofType .observable name type := by
  simp only [MirrorField.toObservable, MirrorField.ofType, hintOf_toObservable,
    forward_toObservable type (.member name (.name persistedObject))]

theorem Conversion.importLines_observable (e : TypeExpr) :
    importLines .observable e =
      (importLines .readonly e).filter (· != immutabledictImport.render) := by
  induction e with
  | primitive type => cases type <;> decide
  | reference record => rfl
  | optional inner ih => exact ih
  | list element ih => exact ih
  | set element ih => exact ih
  | map key value ihKey ihValue =>
      have hmapping : immutabledictImport.render = "from immutabledict import immutabledict" := by
        decide
      rw [importLines, importLines, List.filter_append, List.filter_append, ← ihKey, ← ihValue,
        hmapping]
      rfl

theorem Conversion.imports_observable (e : TypeExpr) :
    imports .observable e = (imports .readonly e).filter (· != immutabledictImport.render) := by
  rw [imports, imports, importLines_observable, sortedDistinct_filter]

/-! ### Mappings -/

/-- The mapping of a field has the texts of a tree. -/
structure FieldMapping.Shows (mapping : FieldMapping) (tree : MirrorField) : Prop where
  name : mapping.name = tree.name
  declaration : mapping.declaration = tree.name ++ ": " ++ tree.hint.render
  forward : mapping.forward = tree.forward.render
  backward : mapping.backward = tree.backward.render

namespace FieldMapping

theorem typed_shows (mode : Mode) (name text : String) (type : TypeExpr) :
    (typed mode name text type).Shows (.ofType mode name type) :=
  ⟨rfl, rfl, rfl, rfl⟩

/-- Without mirrors to ask for, a scope allows the same in both modes. -/
theorem refusal?_eq_of_lax (enums : List String) (type : TypeExpr) (mode : Mode) :
    (Scope.mk none enums).refusal? mode type = (Scope.mk none enums).refusal? .readonly type :=
  rfl

/-- The modes never diverge.  Without strict references a field is refused in both modes, for the
same, or has a mapping in both.  Then the mappings have one type, shape and statement.  The readonly
annotation and expression are those of a tree, and the observable ones those of its observable
counterpart; the observable imports are the readonly ones without that of the mapping type. -/
theorem modes_agree (enums : List String) (field : Field) :
    (∃ fault, ofField ⟨none, enums⟩ .readonly field = .error fault ∧
        ofField ⟨none, enums⟩ .observable field = .error fault) ∨
      ∃ type readonly observable,
        TypeExpr.parse field.declaredType = .ok type ∧
        ofField ⟨none, enums⟩ .readonly field = .ok readonly ∧
        ofField ⟨none, enums⟩ .observable field = .ok observable ∧
        observable.name = readonly.name ∧ observable.declaredType = readonly.declaredType ∧
        observable.shape = readonly.shape ∧ observable.backward = readonly.backward ∧
        readonly.Shows (.ofType .readonly field.name type) ∧
        observable.Shows (MirrorField.ofType .readonly field.name type).toObservable ∧
        observable.imports =
          readonly.imports.filter (· != "from immutabledict import immutabledict") := by
  cases hparse : TypeExpr.parse field.declaredType with
  | error cause =>
      refine Or.inl ⟨.unreadableType cause, ?_, ?_⟩
      · simp only [ofField, hparse]
      · simp only [ofField, hparse]
  | ok type =>
      have hmode := refusal?_eq_of_lax enums type .observable
      cases hrefusal : (Scope.mk none enums).refusal? .readonly type with
      | some fault =>
          refine Or.inl ⟨fault, ofField_of_refusal hparse hrefusal, ?_⟩
          exact ofField_of_refusal hparse (hmode.trans hrefusal)
      | none =>
          refine Or.inr ⟨type, _, _, rfl, ofField_of_allowed hparse hrefusal,
            ofField_of_allowed hparse (hmode.trans hrefusal), rfl, rfl, rfl, rfl, ?_, ?_, ?_⟩
          · exact typed_shows .readonly _ _ type
          · rw [MirrorField.ofType_toObservable]
            exact typed_shows .observable _ _ type
          · exact imports_observable type

end FieldMapping

end RecordMirror
