import RecordMirror.Proofs.Code.Globals
import RecordMirror.Proofs.ModuleText.Imports
import RecordMirror.Proofs.Plan.References
/-!
When generated modules are closed.  What the code of a class refers to is built in, imported, or a
class of the module: containers are built in or imported where a map is, mirrors are planned where
references are strict, and records are imported.  The built-in names are not to be had where a
record replaces them, and a private record is looked up under another name.
-/

namespace RecordMirror

open Code

namespace Code.Module

/-- A module provides a name: it is a built-in one, or the module binds it by an import or a
class. -/
def Provides (N : NameForm) (m : Module) (form : String) : Prop :=
  m.HasBuiltin N form ∨ form ∈ m.boundNames.map N.form

/-- A name that is provided in every class, unless the built-in names are replaced. -/
def Knows (N : NameForm) (m : Module) (x : String) : Prop :=
  x ∈ calledBuiltins ∨ x ∈ m.boundNames ∧ isPrivate (N.form x) = false

/-- All that the code of a module refers to is provided. -/
def Closed (N : NameForm) (m : Module) : Prop :=
  ∀ c ∈ m.classes, ∀ form ∈ c.globals N, m.Provides N form

variable {N : NameForm} {m : Module} {owner name x : String} {plans : List Plan} {plan : Plan}

theorem mem_boundNames_of_import {i : Import} (hi : i ∈ m.imports.flatten) (hx : x ∈ i.names) :
    x ∈ m.boundNames :=
  List.mem_append_left _ (List.mem_flatMap.2 ⟨i, hi, hx⟩)

/-- A name that is bound and is not private is found under its own name in a class. -/
theorem inClass_mem_boundForms (hbound : x ∈ m.boundNames)
    (hprivate : isPrivate (N.form x) = false) : N.inClass owner x ∈ m.boundNames.map N.form := by
  rw [N.inClass_of_not_private hprivate]
  exact List.mem_map_of_mem hbound

theorem fixed_mem_boundNames {i : Import} (hi : i ∈ fixedImports plans) (hx : x ∈ i.names) :
    x ∈ (ofPlans (some name) plans).boundNames := by
  apply mem_boundNames_of_import _ hx
  rw [imports_flatten]
  exact List.mem_append_left _ hi

theorem dataclass_mem_boundNames : "dataclass" ∈ (ofPlans (some name) plans).boundNames := by
  have hneeded : (⟨"dataclasses", ["dataclass"]⟩ : Import) ∈ needed plans := by
    refine List.mem_filter.2 ⟨List.mem_cons_self, List.contains_iff_mem.2 ?_⟩
    exact List.mem_cons_self
  exact fixed_mem_boundNames (mem_fixedImports.2 (Or.inr (Or.inl hneeded))) List.mem_cons_self

/-- The decorators of a class are imported. -/
theorem decorators_mem_boundNames (hplan : plan ∈ plans) :
    ∀ x ∈ plan.mode.style.decorators.map decoratorName,
      x ∈ (ofPlans (some name) plans).boundNames := by
  intro x hx
  cases hmode : plan.mode with
  | readonly =>
      have hnames : Mode.readonly.style.decorators.map decoratorName = ["dataclass"] := by decide
      rw [hmode, hnames, List.mem_singleton] at hx
      rw [hx]
      exact dataclass_mem_boundNames
  | observable =>
      have hnames : Mode.observable.style.decorators.map decoratorName =
          ["observable", "dataclass"] := by decide
      have himport : observableImport ∈ fixedImports plans :=
        mem_fixedImports.2 (Or.inr (Or.inr ⟨⟨plan, hplan, hmode⟩, rfl⟩))
      rw [hmode, hnames, List.mem_cons, List.mem_singleton] at hx
      rcases hx with rfl | rfl
      · exact fixed_mem_boundNames himport List.mem_cons_self
      · exact dataclass_mem_boundNames

/-- The mirrors of the plans are classes. -/
theorem mirror_mem_boundNames (hname : name.isEmpty = false) (hplan : plan ∈ plans) :
    plan.mode.mirrorName plan.record ∈ (ofPlans (some name) plans).boundNames := by
  rw [boundNames_ofPlans hname]
  refine List.mem_append_right _ (List.mem_append_right _ ?_)
  exact List.mem_map.2 ⟨plan, hplan, rfl⟩

/-- The conversions of a field refer to built-in containers and to names that the module binds, if
the records in its type are planned. -/
theorem knows_field {mode : Mode} {field : String} {type : TypeExpr}
    (hname : name.isEmpty = false) (hwords : ∀ plan ∈ plans, isWord plan.record.toList = true)
    (hmirrors : ∀ record ∈ type.references, ∃ plan ∈ plans,
      plan.mode.mirrorName plan.record = mode.mirrorName record)
    (hmapping : mode = .readonly → type.holdsMap = true →
      immutabledictImport ∈ (ofPlans (some name) plans).imports.flatten) :
    ∀ x ∈ (MirrorField.ofType mode field type).globals,
      (ofPlans (some name) plans).Knows N x := by
  have hsource : ∀ x ∈ (Expr.member (.name persistedObject) field).globals converterVariables,
      (ofPlans (some name) plans).Knows N x := Conversion.globals_local (by decide)
  rw [MirrorField.globals, List.forall_mem_append]
  constructor
  · apply Conversion.forward_globals _ _ _ _ hsource
    · intro record hrecord
      obtain ⟨plan, hplan, heq⟩ := hmirrors record hrecord
      have hprivate : isPrivate (N.form (plan.mode.mirrorName plan.record)) = false := by
        rw [N.of_mirror _ _ (hwords plan hplan)]
        exact mirrorName_not_private _ _
      rw [← heq]
      exact Or.inr ⟨mirror_mem_boundNames hname hplan, hprivate⟩
    · left
      cases mode <;> decide
    · left
      cases mode <;> decide
    · intro hmap
      cases mode with
      | readonly =>
          have hprivate : isPrivate (N.form "immutabledict") = false := by
            rw [N.of_ascii _ (by decide)]
            decide
          have hbound := mem_boundNames_of_import (hmapping rfl hmap) List.mem_cons_self
          exact Or.inr ⟨hbound, hprivate⟩
      | observable => exact Or.inl (by decide)
  · exact Conversion.statement_globals (Or.inl (by decide)) (Or.inl (by decide))
      (Or.inl (by decide)) field

end Code.Module

/-! ### Records that take names away -/

namespace Plan

variable {N : NameForm} {name : String} {plans : List Plan} {plan : Plan}

/-- The planned records leave the globals of their mirrors bound. -/
structure GlobalsBound (N : NameForm) (plans : List Plan) : Prop where
  /-- Where the name of a record is private, there is a record of the name that it stands for. -/
  privates : ∀ plan ∈ plans, isPrivate (N.form plan.record) = true →
    ∃ other ∈ plans, N.form other.record =
      N.inClass (plan.mode.mirrorName plan.record) plan.record
  /-- Where a record replaces the built-in names, there are records of those that are called. -/
  builtins : (∃ plan ∈ plans, N.form plan.record = builtinsName) →
    ∀ plan ∈ plans, ∀ form ∈ plan.tree.globals N, form ∈ calledBuiltins →
      ∃ other ∈ plans, N.form other.record = form

theorem globalsBound_of_not_private (h : ∀ plan ∈ plans,
    isPrivate (N.form plan.record) = false ∧ N.form plan.record ≠ builtinsName) :
    GlobalsBound N plans where
  privates plan hplan hprivate := by
    rw [(h plan hplan).1] at hprivate
    cases hprivate
  builtins := by
    rintro ⟨plan, hplan, heq⟩
    exact absurd heq (h plan hplan).2

/-- The name that a private one stands for in a mirror begins with an underscore. -/
theorem underscore_prefix_inClass {mode : Mode} {record x : String}
    (hrecord : isWord record.toList = true) (hprivate : isPrivate (N.form x) = true) :
    "_".toList <+: (N.inClass (mode.mirrorName record) x).toList := by
  rw [N.inClass_mirrorName hrecord, nameIn_mirrorName _ _ hprivate, String.toList_append,
    String.toList_append, List.append_assoc]
  exact List.prefix_append _ _

section

variable (hname : name.isEmpty = false)
  (hwords : ∀ plan ∈ plans, isWord plan.record.toList = true)

include hname hwords

/-- The name of a private record is provided exactly if there is a record of the name that it stands
for. -/
theorem provides_private_iff (hplan : plan ∈ plans)
    (hprivate : isPrivate (N.form plan.record) = true) :
    (Module.ofPlans (some name) plans).Provides N
        (N.inClass (plan.mode.mirrorName plan.record) plan.record) ↔
      ∃ other ∈ plans, N.form other.record =
        N.inClass (plan.mode.mirrorName plan.record) plan.record := by
  have hstart : "_".toList <+:
      (N.inClass (plan.mode.mirrorName plan.record) plan.record).toList :=
    underscore_prefix_inClass (hwords plan hplan) hprivate
  have hcalled : ∀ other ∈ calledBuiltins, ¬ "_".toList <+: other.toList := by decide
  have hlibrary : ∀ other ∈ Module.libraryNames, ¬ "_".toList <+: other.toList := by decide
  have hmirror : ∀ mode : Mode, ¬ mode.style.namePrefix.toList <+:
      (N.inClass (plan.mode.mirrorName plan.record) plan.record).toList := by
    intro mode hbegins
    have hnone : ¬ "_".toList <+: mode.style.namePrefix.toList := by cases mode <;> decide
    apply hnone
    exact List.prefix_of_prefix_length_le hstart hbegins (by cases mode <;> decide)
  rw [Module.Provides,
    mem_boundForms_iff hname hwords (not_mem_of_start hlibrary hstart) hmirror]
  constructor
  · rintro (hbuiltin | hrecord)
    · exact absurd hbuiltin.1 (not_mem_of_start hcalled hstart)
    · exact hrecord
  · exact Or.inr

/-- The records of a closed module leave its globals bound. -/
theorem globalsBound_of_closed (h : (Module.ofPlans (some name) plans).Closed N) :
    GlobalsBound N plans where
  privates plan hplan hprivate := by
    rw [← provides_private_iff hname hwords hplan hprivate]
    apply h plan.tree (List.mem_map_of_mem hplan)
    have hlocals : ∀ x ∈ builderScope, isPrivate x = false := by decide
    have hglobal : plan.record ∉ builderScope := by
      intro hlocal
      have hform : N.form plan.record = plan.record := N.of_mem_ascii hlocal (by decide)
      rw [hform, hlocals _ hlocal] at hprivate
      cases hprivate
    refine List.mem_append_right _ (List.mem_map_of_mem (List.mem_cons_of_mem _ ?_))
    exact List.mem_append_left _ (Expr.mem_globals_name.2 ⟨rfl, hglobal⟩)
  builtins hreplaced plan hplan form hform hcalled := by
    rw [← called_bound_iff hname hwords hcalled]
    rcases h plan.tree (List.mem_map_of_mem hplan) form hform with hbuiltin | hbound
    · exact absurd ((special_bound_iff hname hwords (by decide)).2 hreplaced) hbuiltin.2
    · exact hbound

/-- A built-in name that a class calls is provided. -/
theorem provides_called (h : GlobalsBound N plans) (hplan : plan ∈ plans) {x : String}
    (hcalled : x ∈ calledBuiltins) (hx : x ∈ plan.tree.bodyGlobals) :
    (Module.ofPlans (some name) plans).Provides N (N.inClass plan.tree.name x) := by
  have hnames : ∀ x ∈ calledBuiltins, isPrivate x = false := by decide
  have hform : N.form x = x := N.of_mem_ascii hcalled (by decide)
  have hself : N.inClass plan.tree.name x = x := by
    rw [N.inClass_of_not_private (hform.symm ▸ hnames x hcalled), hform]
  have hglobal : x ∈ plan.tree.globals N := by
    refine List.mem_append_right _ ?_
    rw [← hself]
    exact List.mem_map_of_mem hx
  rw [hself]
  by_cases hreplaced : builtinsName ∈ (Module.ofPlans (some name) plans).boundNames.map N.form
  · right
    rw [called_bound_iff hname hwords hcalled]
    rw [special_bound_iff hname hwords (by decide)] at hreplaced
    exact h.builtins hreplaced plan hplan x hglobal hcalled
  · exact Or.inl ⟨hcalled, hreplaced⟩

theorem provides_record (h : GlobalsBound N plans) (hplan : plan ∈ plans) :
    (Module.ofPlans (some name) plans).Provides N
      (N.inClass (plan.mode.mirrorName plan.record) plan.record) := by
  cases hprivate : isPrivate (N.form plan.record) with
  | false =>
      have hbound := Module.record_mem_boundNames hname hplan
      exact Or.inr (Module.inClass_mem_boundForms hbound hprivate)
  | true =>
      rw [provides_private_iff hname hwords hplan hprivate]
      exact h.privates plan hplan hprivate

/-- A module is closed if its records leave its globals bound and its conversions refer to names
that are called or bound. -/
theorem closed_of_globalsBound (h : GlobalsBound N plans)
    (hknown : ∀ plan ∈ plans, ∀ field ∈ plan.tree.fields, ∀ x ∈ field.globals,
      (Module.ofPlans (some name) plans).Knows N x) :
    (Module.ofPlans (some name) plans).Closed N := by
  intro c hc form hform
  obtain ⟨plan, hplan, rfl⟩ := List.mem_map.1 hc
  rcases List.mem_append.1 hform with hdecorator | hbody
  · obtain ⟨x, hx, rfl⟩ := List.mem_map.1 hdecorator
    exact Or.inr (List.mem_map_of_mem (Module.decorators_mem_boundNames hplan x hx))
  · obtain ⟨x, hx, rfl⟩ := List.mem_map.1 hbody
    rcases List.mem_cons.1 hx with rfl | hrest
    · exact provides_called hname hwords h hplan (by decide) List.mem_cons_self
    · rcases List.mem_append.1 hrest with hrecord | hfields
      · obtain ⟨rfl, -⟩ := Expr.mem_globals_name.1 hrecord
        exact provides_record hname hwords h hplan
      · obtain ⟨field, hfield, hmem⟩ := List.mem_flatMap.1 hfields
        rcases hknown plan hplan field hfield x hmem with hcalled | ⟨hbound, hprivate⟩
        · exact provides_called hname hwords h hplan hcalled hx
        · exact Or.inr (Module.inClass_mem_boundForms hbound hprivate)

end

/-- Where references are strict, the conversions in the plans of a source refer to built-in
containers and to names that the module binds. -/
theorem knows_globals {options : PlanOptions} {source : String} (hname : name.isEmpty = false)
    (hstrict : options.strictReferences = true) (h : ofSource options source = .ok plans) :
    ∀ plan ∈ plans, ∀ field ∈ plan.tree.fields, ∀ x ∈ field.globals,
      (Module.ofPlans (some name) plans).Knows N x := by
  obtain ⟨hdeclared, -⟩ := declared_of_ofSource h
  have hwords : ∀ plan ∈ plans, isWord plan.record.toList = true :=
    fun plan hplan => (hdeclared plan hplan).record_isWord
  intro plan hplan field hfield
  obtain ⟨mapping, hmapping, type, hparse, rfl⟩ := Plan.mem_tree_fields.1 hfield
  refine Module.knows_field hname hwords ?_ ?_
  · intro record hrecord
    exact references_planned h hstrict hplan hmapping hparse hrecord
  · intro hmode hmap
    rw [Module.immutabledict_imported_iff hname hdeclared]
    exact ⟨plan, hplan, hmode, type, ⟨mapping, hmapping, hparse⟩, hmap⟩

end Plan

/-- When generated modules are closed.  Where references are strict, all that the code of a module
refers to is built in, imported or a class of the module exactly if its records leave it bound; the
imports that depend on the plans are there exactly if they are needed; and the records of the plans
are imported once each and in order. -/
theorem moduleOfSource_closed_iff (N : NameForm) {options : PlanOptions}
    {name source text : String} (hname : Build.isModuleName name = true)
    (hstrict : options.strictReferences = true)
    (h : moduleOfSource options (some name) source = .ok text) :
    ∃ plans, Plan.ofSource options source = .ok plans ∧
      (Module.ofPlans (some name) plans).render (ModuleText.header (some options.label)) = text ∧
      ((Module.ofPlans (some name) plans).Closed N ↔ Plan.GlobalsBound N plans) ∧
      (immutabledictImport ∈ (Module.ofPlans (some name) plans).imports.flatten ↔
        ∃ plan ∈ plans, plan.mode = .readonly ∧
          ∃ type, plan.HasFieldOf type ∧ type.holdsMap = true) ∧
      (datetimeImport ∈ (Module.ofPlans (some name) plans).imports.flatten ↔
        ∃ plan ∈ plans, ∃ type, plan.HasFieldOf type ∧ .date ∈ type.primitives) ∧
      (uuidImport ∈ (Module.ofPlans (some name) plans).imports.flatten ↔
        ∃ plan ∈ plans, ∃ type, plan.HasFieldOf type ∧ .uuid ∈ type.primitives) ∧
      (observableImport ∈ (Module.ofPlans (some name) plans).imports.flatten ↔
        ∃ plan ∈ plans, plan.mode = .observable) ∧
      ∃ records, records.Pairwise (· < ·) ∧
        (∀ record, record ∈ records ↔ ∃ plan ∈ plans, plan.record = record) ∧
        (Module.ofPlans (some name) plans).imports.flatten = Module.fixedImports plans ++
          if plans = [] then [] else [⟨name, records⟩] := by
  obtain ⟨plans, hplans, htext⟩ := moduleOfSource_eq_ok_iff.1 h
  obtain ⟨hdeclared, -⟩ := Plan.declared_of_ofSource hplans
  have hnonempty := isEmpty_of_isModuleName hname
  have hwords : ∀ plan ∈ plans, isWord plan.record.toList = true :=
    fun plan hplan => (hdeclared plan hplan).record_isWord
  have hclosed : (Module.ofPlans (some name) plans).Closed N ↔ Plan.GlobalsBound N plans := by
    constructor
    · exact Plan.globalsBound_of_closed hnonempty hwords
    · intro hbound
      exact Plan.closed_of_globalsBound hnonempty hwords hbound
        (Plan.knows_globals hnonempty hstrict hplans)
  refine ⟨plans, hplans, htext, hclosed,
    Module.immutabledict_imported_iff hnonempty hdeclared,
    Module.datetime_imported_iff hnonempty hdeclared,
    Module.uuid_imported_iff hnonempty hdeclared,
    Module.observable_imported_iff hnonempty hdeclared,
    sortedDistinct (plans.map (·.record)), sortedDistinct_pairwise _, ?_,
    Module.imports_records hnonempty⟩
  intro record
  rw [mem_sortedDistinct, List.mem_map]

/-- A source with mirrors of both modes, of which one refers to another where references are
strict. -/
def librarySource : String :=
  "@mirror record Shelf \x7b @persisted books: List<Book> \x7d" ++
    " @mirror @mirror(observable) record Book \x7b @persisted due: Map<UUID, Date> \x7d"

/-- The options under which references are strict. -/
def strictOptions : PlanOptions := { strictReferences := true }

theorem moduleOfSource_closed_iff_library :
    Build.isModuleName "models" = true ∧ strictOptions.strictReferences = true ∧
      ∃ text plans, moduleOfSource strictOptions (some "models") librarySource = .ok text ∧
        Plan.ofSource strictOptions librarySource = .ok plans ∧
        (∃ c ∈ (Module.ofPlans (some "models") plans).classes,
          "ReadonlyBook" ∈ c.globals .asWritten) ∧
        (Module.ofPlans (some "models") plans).Closed .asWritten := by
  have hname : Build.isModuleName "models" = true := by decide
  have hchecked : (Plan.ofSource strictOptions librarySource).toOption.any fun plans =>
      decide ((∃ c ∈ (Module.ofPlans (some "models") plans).classes,
          "ReadonlyBook" ∈ c.globals .asWritten) ∧
        ∀ plan ∈ plans, isPrivate (NameForm.asWritten.form plan.record) = false ∧
          NameForm.asWritten.form plan.record ≠ builtinsName) := by
    decide +kernel
  cases hplans : Plan.ofSource strictOptions librarySource with
  | error e =>
      rw [hplans] at hchecked
      cases hchecked
  | ok plans =>
      have hmodule := moduleOfSource_of_plans (some "models") hplans
      obtain ⟨plans', hplans', -, hclosed, -⟩ :=
        moduleOfSource_closed_iff .asWritten hname rfl hmodule
      obtain rfl : plans = plans' := Except.ok.inj (hplans.symm.trans hplans')
      rw [hplans] at hchecked
      obtain ⟨hrefers, hrecords⟩ := of_decide_eq_true hchecked
      exact ⟨hname, rfl, _, plans, hmodule, rfl, hrefers,
        hclosed.2 (Plan.globalsBound_of_not_private hrecords)⟩

/-- A source whose record is private. -/
def privateSource : String :=
  "@mirror record __A \x7b @persisted x: Int \x7d"

/-- The mirror of a private record refers to a name that its module does not provide.  The source
compiles where references are strict. -/
theorem compiles_private_record :
    (moduleOfSource strictOptions (some "models") privateSource).isOk = true ∧
      ∃ plans, Plan.ofSource strictOptions privateSource = .ok plans ∧
        (∃ c ∈ (Module.ofPlans (some "models") plans).classes,
          "_Readonly__A__A" ∈ c.globals .asWritten) ∧
        ¬ (Module.ofPlans (some "models") plans).Provides .asWritten "_Readonly__A__A" ∧
        ¬ (Module.ofPlans (some "models") plans).Closed .asWritten := by
  have hplans : Plan.ofSource strictOptions privateSource =
      .ok [⟨"__A", "Readonly__A", .readonly, [⟨"x", "Int", .primitive, "x: int",
        "persisted_object.x", "persisted_object.x = self.x", []⟩]⟩] := by
    decide +kernel
  refine ⟨?_, _, hplans, ?_⟩
  · rw [moduleOfSource_of_plans (some "models") hplans]
    rfl
  · let m := Module.ofPlans (some "models") [⟨"__A", "Readonly__A", .readonly, [⟨"x", "Int",
      .primitive, "x: int", "persisted_object.x", "persisted_object.x = self.x", []⟩]⟩]
    have hrefers : ∃ c ∈ m.classes, "_Readonly__A__A" ∈ c.globals .asWritten := by
      decide +kernel
    have hnone : ¬ m.Provides .asWritten "_Readonly__A__A" := by
      rintro (hbuiltin | hbound)
      · exact absurd hbuiltin.1 (by decide)
      · exact absurd hbound (by decide +kernel)
    refine ⟨hrefers, hnone, ?_⟩
    intro hclosed
    obtain ⟨c, hc, hglobal⟩ := hrefers
    exact hnone (hclosed c hc _ hglobal)

end RecordMirror
