import RecordMirror.Proofs.Plan.Names
import RecordMirror.Text.Identifier
/-!
The names that are written in generated code.  Those of a conversion are names of the schema, the
variables of the methods, and loop variables.
-/

namespace RecordMirror

namespace Code

/-- The names in an annotation, apart from its containers. -/
def TypeHint.names : TypeHint → List String
  | name text => [text]
  | optional inner => inner.names
  | sequence _ element => element.names
  | set _ element => element.names
  | mapping _ key value => key.names ++ value.names

/-- The names in an expression, apart from its containers: variables, attributes and classes. -/
def Expr.names : Expr → List String
  | name text => [text]
  | member object field => object.names ++ [field]
  | fromPersisted mirror record => mirror :: record.names
  | buildPersisted mirror => mirror.names
  | construct _ source => source.names
  | constructEach _ value item source => value.names ++ item :: source.names
  | displayEach _ value item source => value.names ++ item :: source.names
  | pairs key item value source => key :: item :: (value.names ++ source.names)
  | ifPresent value subject => value.names ++ subject.names

/-- The names in a statement, apart from its containers. -/
def Statement.names : Statement → List String
  | assign target value => target.names ++ value.names
  | fill target _ source => target.names ++ source.names
  | fillEach target _ value item source => target.names ++ (value.names ++ item :: source.names)

/-- The names in the declaration and the conversions of a field. -/
def MirrorField.names (field : MirrorField) : List String :=
  field.name :: (field.hint.names ++ (field.forward.names ++ field.backward.names))

/-- A field all of whose names have a property and whose trees are read from their texts. -/
structure MirrorField.WellNamed (P : String → Prop) (field : MirrorField) : Prop where
  name : P field.name
  hint : field.hint.WellNamed P
  forward : field.forward.WellNamed P
  backward : field.backward.WellNamed P

/-- The names in a class: its own, that of its record, and those of its fields. -/
def MirrorClass.names (c : MirrorClass) : List String :=
  c.name :: c.record :: c.fields.flatMap MirrorField.names

/-- The names in a module: the imported ones and those of its classes. -/
def Module.names (m : Module) : List String :=
  m.imports.flatten.flatMap Import.names ++ m.classes.flatMap MirrorClass.names

end Code

open Code

/-! ### The names of well-formed trees -/

section

variable {P : String → Prop}

theorem Code.TypeHint.WellNamed.names {hint : TypeHint} (h : hint.WellNamed P) :
    ∀ name ∈ hint.names, P name := by
  induction hint with
  | name text => exact List.forall_mem_singleton.2 h
  | optional inner ih => exact ih h
  | sequence container element ih | set container element ih => exact ih h.2
  | mapping container key value ihKey ihValue =>
      exact List.forall_mem_append.2 ⟨ihKey h.2.1, ihValue h.2.2⟩

theorem Code.Expr.WellNamed.names {e : Expr} (h : e.WellNamed P) : ∀ name ∈ e.names, P name := by
  induction e with
  | name text => exact List.forall_mem_singleton.2 h
  | member object field ih =>
      exact List.forall_mem_append.2 ⟨ih h.1, List.forall_mem_singleton.2 h.2.2⟩
  | fromPersisted mirror record ih => exact List.forall_mem_cons.2 ⟨h.1, ih h.2⟩
  | buildPersisted mirror ih => exact ih h.1
  | construct container source ih => exact ih h
  | constructEach container value item source ihValue ihSource =>
      obtain ⟨-, hvalue, hitem, hsource, -⟩ := h
      exact List.forall_mem_append.2
        ⟨ihValue hvalue, List.forall_mem_cons.2 ⟨hitem, ihSource hsource⟩⟩
  | displayEach display value item source ihValue ihSource =>
      obtain ⟨hvalue, hitem, hsource, -⟩ := h
      exact List.forall_mem_append.2
        ⟨ihValue hvalue, List.forall_mem_cons.2 ⟨hitem, ihSource hsource⟩⟩
  | pairs key item value source ihValue ihSource =>
      obtain ⟨hkey, hitem, -, hvalue, hsource, -⟩ := h
      refine List.forall_mem_cons.2 ⟨hkey, List.forall_mem_cons.2 ⟨hitem, ?_⟩⟩
      exact List.forall_mem_append.2 ⟨ihValue hvalue, ihSource hsource⟩
  | ifPresent value subject ihValue ihSubject =>
      obtain ⟨hvalue, -, hsubject, -⟩ := h
      exact List.forall_mem_append.2 ⟨ihValue hvalue, ihSubject hsubject⟩

theorem Code.Expr.IsTarget.names {target : Expr} (h : target.IsTarget P) :
    ∀ name ∈ target.names, P name := by
  obtain ⟨-, -, -, htarget⟩ := h
  exact htarget.names

theorem Code.Statement.WellNamed.names {store : Statement} (h : store.WellNamed P) :
    ∀ name ∈ store.names, P name := by
  cases store with
  | assign target value | fill target filling value =>
      exact List.forall_mem_append.2 ⟨h.1.names, h.2.names⟩
  | fillEach target filling value item source =>
      obtain ⟨htarget, hvalue, hitem, hsource, -⟩ := h
      refine List.forall_mem_append.2 ⟨htarget.names, ?_⟩
      exact List.forall_mem_append.2
        ⟨hvalue.names, List.forall_mem_cons.2 ⟨hitem, hsource.names⟩⟩

theorem Code.MirrorField.WellNamed.names {field : MirrorField} (h : field.WellNamed P) :
    ∀ name ∈ field.names, P name := by
  refine List.forall_mem_cons.2 ⟨h.name, List.forall_mem_append.2 ⟨h.hint.names, ?_⟩⟩
  exact List.forall_mem_append.2 ⟨h.forward.names, h.backward.names⟩

end

/-! ### Names by their beginning -/

/-- A name is none of those that do not begin like it. -/
theorem not_mem_of_start {start name : String} {names : List String}
    (hnames : ∀ other ∈ names, ¬ start.toList <+: other.toList)
    (hstart : start.toList <+: name.toList) : name ∉ names :=
  fun hmem => hnames name hmem hstart

theorem Mode.mirrorName_not_mem {mode : Mode} {names : List String}
    (hnames : ∀ other ∈ names, ¬ mode.style.namePrefix.toList <+: other.toList)
    (record : String) : mode.mirrorName record ∉ names := by
  refine not_mem_of_start hnames ?_
  rw [mirrorName, String.toList_append]
  exact List.prefix_append _ _

/-! ### Names in conversions -/

namespace Conversion

variable {P : String → Prop} {mode : Mode} {e : TypeExpr}

theorem hintOf_names_iff (hprimitive : ∀ type : Primitive, P type.hintText) {side : Side}
    (he : e.Proper) :
    (∀ name ∈ (hintOf side e).names, P name) ↔
      (∀ record ∈ e.references, P (side.className record)) ∧
        ∀ record ∈ e.keyRecords, P record := by
  induction e with
  | primitive type => simp [hintOf, TypeHint.names, TypeExpr.references, TypeExpr.keyRecords,
      hprimitive]
  | reference record => simp [hintOf, TypeHint.names, TypeExpr.references, TypeExpr.keyRecords]
  | optional inner ih => exact ih he.2
  | list element ih => exact ih he
  | set element ih => exact ih he
  | map key value _ ih =>
      have hvalue := ih he.2.2
      cases key with
      | primitive type =>
          simpa [hintOf, keyHintOf, TypeHint.names, TypeExpr.references, TypeExpr.keyRecords,
            hprimitive] using hvalue
      | reference record =>
          simp only [hintOf, keyHintOf, TypeHint.names, TypeExpr.references, TypeExpr.keyRecords,
            List.cons_append, List.nil_append, List.forall_mem_cons, hvalue]
          exact and_left_comm
      | optional | list | set | map => cases he.1

section

variable {field : String} (hlocals : HoldsOfLocals P)
  (hprimitive : ∀ type : Primitive, P type.hintText) (he : e.Proper)
include hlocals hprimitive he

theorem ofType_wellNamed (hfield : P field)
    (hmirrors : ∀ record ∈ e.references, P (mode.mirrorName record))
    (hkeys : ∀ record ∈ e.keyRecords, P record) :
    (MirrorField.ofType mode field e).WellNamed P where
  name := hfield
  hint := hintOf_wellNamed hprimitive hmirrors hkeys he
  forward := by
    have hsource : (Expr.member (.name persistedObject) field).WellNamed P :=
      ⟨hlocals.persisted, rfl, hfield⟩
    exact forward_wellNamed hlocals hmirrors he hsource rfl 0
  backward := statement_wellNamed hlocals he hfield

/-- What holds of the fixed names holds of all names in a field exactly if it holds of the name of
the field and of the names in its annotation. -/
theorem ofType_names_iff :
    (∀ name ∈ (MirrorField.ofType mode field e).names, P name) ↔
      P field ∧ (∀ record ∈ e.references, P (mode.mirrorName record)) ∧
        ∀ record ∈ e.keyRecords, P record := by
  have hhint : (∀ name ∈ (hintOf (mirrorSide mode) e).names, P name) ↔ _ :=
    hintOf_names_iff hprimitive he
  constructor
  · intro h
    obtain ⟨hfield, hnames⟩ := List.forall_mem_cons.1 h
    exact ⟨hfield, hhint.1 (List.forall_mem_append.1 hnames).1⟩
  · rintro ⟨hfield, hmirrors, hkeys⟩
    exact (ofType_wellNamed hlocals hprimitive he hfield hmirrors hkeys).names

theorem ofType_wellNamed_iff :
    (MirrorField.ofType mode field e).WellNamed P ↔
      P field ∧ (∀ record ∈ e.references, P (mode.mirrorName record)) ∧
        ∀ record ∈ e.keyRecords, P record := by
  constructor
  · exact fun h => (ofType_names_iff hlocals hprimitive he).1 h.names
  · rintro ⟨hfield, hmirrors, hkeys⟩
    exact ofType_wellNamed hlocals hprimitive he hfield hmirrors hkeys

end

end Conversion

/-! ### Names in classes -/

theorem Plan.mem_tree_fields {plan : Plan} {field : MirrorField} :
    field ∈ plan.tree.fields ↔ ∃ mapping ∈ plan.fields, ∃ type,
      TypeExpr.parse mapping.declaredType = .ok type ∧
        MirrorField.ofType plan.mode mapping.name type = field := by
  rw [Plan.tree, List.mem_filterMap]
  refine exists_congr fun mapping => and_congr_right fun _ => ?_
  rw [FieldMapping.tree?, Option.map_eq_some_iff]
  refine exists_congr fun type => and_congr_left fun _ => ?_
  cases TypeExpr.parse mapping.declaredType with
  | error cause => simp [Except.toOption]
  | ok type' => simp [Except.toOption]

/-! ### Names in imports -/

namespace Code.Module

variable {persistentModule : Option String} {plans : List Plan}

/-- The imports of a module beside that of its records. -/
def fixedImports (plans : List Plan) : List Import :=
  annotationsImport :: ((needed plans).filter Import.isLibrary ++
    ((needed plans).filter (!·.isLibrary) ++
      if plans.any (·.mode == .observable) then [observableImport] else []))

theorem imports_flatten :
    (ofPlans persistentModule plans).imports.flatten =
      fixedImports plans ++ (recordImports persistentModule plans).flatten := by
  simp only [ofPlans, fixedImports, List.flatten_append, List.flatten_cons, List.flatten_nil]
  split
  · rename_i hothers
    rw [List.isEmpty_iff.1 hothers]
    split <;> simp
  · split <;> simp

theorem mem_fixedImports {i : Import} :
    i ∈ fixedImports plans ↔ i = annotationsImport ∨ i ∈ needed plans ∨
      (∃ plan ∈ plans, plan.mode = .observable) ∧ i = observableImport := by
  have hsplit : i ∈ needed plans ↔
      i ∈ (needed plans).filter Import.isLibrary ∨
        i ∈ (needed plans).filter (!·.isLibrary) := by
    rw [← List.mem_append, (List.filter_append_perm _ _).mem_iff]
  have hobservable : (plans.any (·.mode == .observable)) = true ↔
      ∃ plan ∈ plans, plan.mode = .observable := by
    simp
  rw [fixedImports, List.mem_cons, List.mem_append, List.mem_append, hsplit, or_assoc,
    ← hobservable]
  split
  · rename_i hany
    simp [hany]
  · rename_i hany
    simp [hany]

/-- What a module imports is fixed, apart from the records. -/
theorem mem_imports {i : Import} (h : i ∈ (ofPlans persistentModule plans).imports.flatten) :
    i ∈ annotationsImport :: observableImport :: neededImports ∨
      ∃ name ∈ persistentModule, i = ⟨name, sortedDistinct (plans.map (·.record))⟩ := by
  rw [imports_flatten] at h
  rcases List.mem_append.1 h with h | h
  · left
    rcases mem_fixedImports.1 h with rfl | h | ⟨-, rfl⟩
    · exact List.mem_cons_self
    · exact List.mem_cons_of_mem _ (List.mem_cons_of_mem _ (List.mem_filter.1 h).1)
    · exact List.mem_cons_of_mem _ List.mem_cons_self
  · right
    unfold recordImports at h
    split at h
    · cases h
    · split at h
      · cases h
      · exact ⟨_, rfl, List.mem_singleton.1 h⟩

/-- What holds of the fixed imports and of the records holds of all that is imported. -/
theorem forall_imported {P : String → Prop}
    (hfixed : ∀ i ∈ annotationsImport :: observableImport :: neededImports,
      ∀ name ∈ i.names, P name)
    (hrecords : ∀ plan ∈ plans, P plan.record) :
    ∀ i ∈ (ofPlans persistentModule plans).imports.flatten, ∀ name ∈ i.names, P name := by
  intro i hi name hname
  rcases mem_imports hi with hi | ⟨_, -, rfl⟩
  · exact hfixed i hi name hname
  · obtain ⟨plan, hplan, rfl⟩ := List.mem_map.1 (mem_sortedDistinct.1 hname)
    exact hrecords plan hplan

end Code.Module

end RecordMirror
