import Mathlib.Data.List.Flatten
import Mathlib.Data.List.Nodup
import RecordMirror.Build
import RecordMirror.Proofs.Code.Scope
import RecordMirror.Proofs.Plan.Names
/-!
When no name in a generated module takes the place of another.  Only some of the names that a module
uses are kept from records, the name of a mirror can be that of another record, and private names
stand for others in a class, so the names of the records that are planned settle it.
-/

namespace RecordMirror

open Code

/-! ### The names that a module binds -/

namespace Code.Module

variable {N : NameForm} {plans : List Plan}

/-- The names that a module imports beside those of its records. -/
def fixedNames (plans : List Plan) : List String :=
  (fixedImports plans).flatMap Import.names

/-- The names that modules import beside those of their records. -/
def libraryNames : List String :=
  (annotationsImport :: observableImport :: neededImports).flatMap Import.names

theorem mem_libraryNames {name : String} (h : name ∈ fixedNames plans) : name ∈ libraryNames := by
  obtain ⟨i, hi, hname⟩ := List.mem_flatMap.1 h
  refine List.mem_flatMap.2 ⟨i, ?_, hname⟩
  rcases mem_fixedImports.1 hi with rfl | hi | ⟨-, rfl⟩
  · exact List.mem_cons_self
  · exact List.mem_cons_of_mem _ (List.mem_cons_of_mem _ (List.mem_filter.1 hi).1)
  · exact List.mem_cons_of_mem _ List.mem_cons_self

theorem annotations_mem_fixedNames : "annotations" ∈ fixedNames plans :=
  List.mem_flatMap.2 ⟨annotationsImport, List.mem_cons_self, List.mem_singleton_self _⟩

theorem fixedNames_nodup : (fixedNames plans).Nodup := by
  have hall : (fixedImports plans).Perm
      (annotationsImport :: (needed plans ++
        if plans.any (·.mode == .observable) then [observableImport] else [])) := by
    rw [fixedImports, ← List.append_assoc]
    exact ((List.filter_append_perm _ _).append_right _).cons _
  have hsublist : (annotationsImport :: (needed plans ++
      if plans.any (·.mode == .observable) then [observableImport] else [])).Sublist
        (annotationsImport :: (neededImports ++ [observableImport])) := by
    refine (List.Sublist.append List.filter_sublist ?_).cons_cons _
    split
    · exact List.Sublist.refl _
    · exact List.nil_sublist _
  have hnodup : ((annotationsImport :: (neededImports ++ [observableImport])).flatMap
      Import.names).Nodup := by
    decide
  exact (hall.flatMap_right _).nodup_iff.2 ((hsublist.flatMap _).nodup hnodup)

theorem map_form_fixedNames (N : NameForm) : (fixedNames plans).map N.form = fixedNames plans := by
  have hascii : ∀ name ∈ libraryNames, isAscii name = true := by decide
  rw [List.map_congr_left fun name hname => N.of_mem_ascii (mem_libraryNames hname) hascii,
    List.map_id']

theorem recordImports_names {name : String} (hname : name.isEmpty = false) :
    (recordImports (some name) plans).flatten.flatMap Import.names =
      sortedDistinct (plans.map (·.record)) := by
  rw [recordImports, hname, Bool.false_or]
  split
  · rename_i hplans
    rw [List.isEmpty_iff.1 hplans]
    rfl
  · exact List.append_nil _

/-- A module binds the fixed names, the names of records, and those of mirrors. -/
theorem boundNames_ofPlans {name : String} (hname : name.isEmpty = false) :
    (ofPlans (some name) plans).boundNames =
      fixedNames plans ++ (sortedDistinct (plans.map (·.record)) ++
        plans.map fun plan => plan.mode.mirrorName plan.record) := by
  have hmirrors : (ofPlans (some name) plans).classes.map MirrorClass.name =
      plans.map fun plan => plan.mode.mirrorName plan.record :=
    List.map_map
  rw [boundNames, imports_flatten, List.flatMap_append, recordImports_names hname, hmirrors,
    List.append_assoc]
  rfl

/-- The records of the plans are imported. -/
theorem record_mem_boundNames {name : String} (hname : name.isEmpty = false) {plan : Plan}
    (hplan : plan ∈ plans) :
    plan.record ∈ (ofPlans (some name) plans).boundNames := by
  rw [boundNames_ofPlans hname]
  refine List.mem_append_right _ (List.mem_append_left _ ?_)
  exact mem_sortedDistinct.2 (List.mem_map_of_mem hplan)

/-- The import of the records of some plans. -/
theorem mem_imports_records {name : String} (hname : name.isEmpty = false) {plan : Plan}
    (hplan : plan ∈ plans) :
    ⟨name, sortedDistinct (plans.map (·.record))⟩ ∈
      (ofPlans (some name) plans).imports.flatten := by
  have hplans : plans.isEmpty = false := List.isEmpty_eq_false_iff_exists_mem.2 ⟨plan, hplan⟩
  rw [imports_flatten, recordImports, hname, hplans]
  exact List.mem_append_right _ (List.mem_singleton_self _)

end Code.Module

/-! ### The names of planned records -/

namespace Plan

variable {N : NameForm} {plans : List Plan}

/-- The name of the mirror of a plan in the form in which names are compared. -/
def mirrorForm (N : NameForm) (plan : Plan) : String :=
  plan.mode.mirrorName (N.form plan.record)

/-- The planned records keep apart from one another, from the other names that the module imports,
from the built-in names that are called, from variables, and from mirrors. -/
structure RecordsApart (N : NameForm) (plans : List Plan) : Prop where
  records : ∀ plan ∈ plans, ∀ other ∈ plans, N.form plan.record = N.form other.record →
    plan.record = other.record
  imports : ∀ plan ∈ plans, N.form plan.record ∉ Module.fixedNames plans
  builtins : ∀ plan ∈ plans, N.form plan.record ∉ calledBuiltins
  locals : ∀ plan ∈ plans, N.form plan.record ∉ builderVariables
  mirrors : ∀ plan ∈ plans, ∀ other ∈ plans, N.form plan.record ≠ other.mirrorForm N

/-- The planned records keep apart, and their names have no other meaning in a module or in a class
of it. -/
structure SeparateNames (N : NameForm) (plans : List Plan) : Prop extends RecordsApart N plans where
  not_special : ∀ plan ∈ plans, N.form plan.record ∉ specialNames
  not_private : ∀ plan ∈ plans, isPrivate (N.form plan.record) = false

theorem mirrorForm_not_mem {names : List String}
    (hnames : ∀ mode : Mode, ∀ name ∈ names, ¬ mode.style.namePrefix.toList <+: name.toList)
    (plan : Plan) : plan.mirrorForm N ∉ names :=
  Mode.mirrorName_not_mem (hnames plan.mode) _

theorem mirrorForm_not_fixed (plan : Plan) : plan.mirrorForm N ∉ Module.fixedNames plans := by
  have hnames : ∀ mode : Mode, ∀ name ∈ Module.libraryNames,
      ¬ mode.style.namePrefix.toList <+: name.toList := by
    intro mode
    cases mode <;> decide
  exact fun hmem => mirrorForm_not_mem hnames plan (Module.mem_libraryNames hmem)

theorem map_form_boundNames {name : String} (hname : name.isEmpty = false)
    (hwords : ∀ plan ∈ plans, isWord plan.record.toList = true) :
    (Module.ofPlans (some name) plans).boundNames.map N.form =
      Module.fixedNames plans ++ ((sortedDistinct (plans.map (·.record))).map N.form ++
        plans.map (mirrorForm N)) := by
  have hmirrors : (plans.map fun plan => plan.mode.mirrorName plan.record).map N.form =
      plans.map (mirrorForm N) := by
    rw [List.map_map]
    exact List.map_congr_left fun plan hplan => N.of_mirror _ _ (hwords plan hplan)
  rw [Module.boundNames_ofPlans hname, List.map_append, List.map_append,
    Module.map_form_fixedNames, hmirrors]

theorem mem_recordForms {form : String} :
    form ∈ (sortedDistinct (plans.map (·.record))).map N.form ↔
      ∃ plan ∈ plans, N.form plan.record = form := by
  simp only [List.mem_map, mem_sortedDistinct, exists_exists_and_eq_and]

theorem recordForms_nodup_iff :
    ((sortedDistinct (plans.map (·.record))).map N.form).Nodup ↔
      ∀ plan ∈ plans, ∀ other ∈ plans, N.form plan.record = N.form other.record →
        plan.record = other.record := by
  rw [List.nodup_map_iff_inj_on (sortedDistinct_nodup _)]
  simp only [mem_sortedDistinct, List.forall_mem_map]

/-- Mirrors of different plans have different names if records keep apart. -/
theorem mirrorForms_nodup (hkeys : (plans.map fun plan => (plan.record, plan.mode)).Nodup)
    (hrecords : ∀ plan ∈ plans, ∀ other ∈ plans, N.form plan.record = N.form other.record →
      plan.record = other.record) : (plans.map (mirrorForm N)).Nodup := by
  have hplans : plans.Nodup := hkeys.of_map
  refine hplans.map_on ?_
  intro plan hplan other hother heq
  obtain ⟨hmode, hform⟩ := Mode.mirrorName_injective heq
  refine List.inj_on_of_nodup_map hkeys hplan hother ?_
  rw [hmode, hrecords plan hplan other hother hform]

/-- The names in a module are bound once exactly if those of its records keep apart from one
another, from the other imports and from mirrors. -/
theorem boundNames_nodup_iff {name : String} (hname : name.isEmpty = false)
    (hwords : ∀ plan ∈ plans, isWord plan.record.toList = true)
    (hkeys : (plans.map fun plan => (plan.record, plan.mode)).Nodup) :
    ((Module.ofPlans (some name) plans).boundNames.map N.form).Nodup ↔
      (∀ plan ∈ plans, ∀ other ∈ plans, N.form plan.record = N.form other.record →
        plan.record = other.record) ∧
      (∀ plan ∈ plans, N.form plan.record ∉ Module.fixedNames plans) ∧
      ∀ plan ∈ plans, ∀ other ∈ plans, N.form plan.record ≠ other.mirrorForm N := by
  rw [map_form_boundNames hname hwords, List.nodup_append, List.nodup_append,
    recordForms_nodup_iff]
  constructor
  · rintro ⟨-, ⟨hrecords, -, hmirrors⟩, hfixed⟩
    refine ⟨hrecords, ?_, ?_⟩
    · intro plan hplan hmem
      exact hfixed _ hmem _ (List.mem_append_left _ (mem_recordForms.2 ⟨plan, hplan, rfl⟩)) rfl
    · intro plan hplan other hother
      exact hmirrors _ (mem_recordForms.2 ⟨plan, hplan, rfl⟩) _ (List.mem_map_of_mem hother)
  · rintro ⟨hrecords, hfixed, hmirrors⟩
    refine ⟨Module.fixedNames_nodup, ⟨hrecords, mirrorForms_nodup hkeys hrecords, ?_⟩, ?_⟩
    · intro form hform mirror hmirror
      obtain ⟨plan, hplan, rfl⟩ := mem_recordForms.1 hform
      obtain ⟨other, hother, rfl⟩ := List.mem_map.1 hmirror
      exact hmirrors plan hplan other hother
    · intro fixed hmem form hform heq
      subst heq
      rcases List.mem_append.1 hform with hform | hform
      · obtain ⟨plan, hplan, rfl⟩ := mem_recordForms.1 hform
        exact hfixed plan hplan hmem
      · obtain ⟨plan, -, rfl⟩ := List.mem_map.1 hform
        exact mirrorForm_not_fixed plan hmem

/-- A name that is neither that of a mirror nor imported beside the records is bound in a module
exactly if it is the name of a record. -/
theorem mem_boundForms_iff {name form : String} (hname : name.isEmpty = false)
    (hwords : ∀ plan ∈ plans, isWord plan.record.toList = true)
    (hlibrary : form ∉ Module.libraryNames)
    (hmirror : ∀ mode : Mode, ¬ mode.style.namePrefix.toList <+: form.toList) :
    form ∈ (Module.ofPlans (some name) plans).boundNames.map N.form ↔
      ∃ plan ∈ plans, N.form plan.record = form := by
  have hfixed : form ∉ Module.fixedNames plans := fun hmem =>
    hlibrary (Module.mem_libraryNames hmem)
  have hmirrors : form ∉ plans.map (mirrorForm N) := by
    intro hmem
    obtain ⟨plan, -, hform⟩ := List.mem_map.1 hmem
    have hother : ∀ mode : Mode, ∀ other ∈ [form],
        ¬ mode.style.namePrefix.toList <+: other.toList :=
      fun mode => List.forall_mem_singleton.2 (hmirror mode)
    exact mirrorForm_not_mem hother plan (List.mem_singleton.2 hform)
  rw [map_form_boundNames hname hwords, List.mem_append, List.mem_append, mem_recordForms]
  simp only [hfixed, hmirrors, false_or, or_false]

/-- A special or called name is bound in a module exactly if a record has it. -/
theorem special_bound_iff {name form : String} (hname : name.isEmpty = false)
    (hwords : ∀ plan ∈ plans, isWord plan.record.toList = true)
    (hform : form ∈ specialNames ++ calledBuiltins) :
    form ∈ (Module.ofPlans (some name) plans).boundNames.map N.form ↔
      ∃ plan ∈ plans, N.form plan.record = form := by
  have hlibrary : ∀ form ∈ specialNames ++ calledBuiltins, form ∉ Module.libraryNames := by
    decide
  have hmirror : ∀ mode : Mode, ∀ form ∈ specialNames ++ calledBuiltins,
      ¬ mode.style.namePrefix.toList <+: form.toList := by
    intro mode
    cases mode <;> decide
  exact mem_boundForms_iff hname hwords (hlibrary form hform) fun mode => hmirror mode form hform

theorem called_bound_iff {name form : String} (hname : name.isEmpty = false)
    (hwords : ∀ plan ∈ plans, isWord plan.record.toList = true) (hform : form ∈ calledBuiltins) :
    form ∈ (Module.ofPlans (some name) plans).boundNames.map N.form ↔
      ∃ plan ∈ plans, N.form plan.record = form :=
  special_bound_iff hname hwords (List.mem_append_right _ hform)

/-- The names in a module are apart exactly if its records are. -/
theorem namesApart_iff {name : String} (hname : name.isEmpty = false)
    (hwords : ∀ plan ∈ plans, isWord plan.record.toList = true)
    (hkeys : (plans.map fun plan => (plan.record, plan.mode)).Nodup) :
    (Module.ofPlans (some name) plans).NamesApart N ↔ RecordsApart N plans := by
  have hdistinct := boundNames_nodup_iff (N := N) hname hwords hkeys
  have hbuiltins : (∀ builtin ∈ calledBuiltins,
      builtin ∉ (Module.ofPlans (some name) plans).boundNames.map N.form) ↔
        ∀ plan ∈ plans, N.form plan.record ∉ calledBuiltins := by
    constructor
    · intro h plan hplan hmem
      exact h _ hmem ((called_bound_iff hname hwords hmem).2 ⟨plan, hplan, rfl⟩)
    · intro h builtin hbuiltin hmem
      obtain ⟨plan, hplan, rfl⟩ := (called_bound_iff hname hwords hbuiltin).1 hmem
      exact h plan hplan hbuiltin
  have hvariables : (∀ c ∈ (Module.ofPlans (some name) plans).classes,
      N.form c.record ∉ builderVariables) ↔
        ∀ plan ∈ plans, N.form plan.record ∉ builderVariables :=
    List.forall_mem_map
  constructor
  · rintro ⟨hbound, hcalled, hrecords⟩
    obtain ⟨hforms, hfixed, hmirrors⟩ := hdistinct.1 hbound
    exact ⟨hforms, hfixed, hbuiltins.1 hcalled, hvariables.1 hrecords, hmirrors⟩
  · rintro ⟨hforms, hfixed, hcalled, hrecords, hmirrors⟩
    exact ⟨hdistinct.2 ⟨hforms, hfixed, hmirrors⟩, hbuiltins.2 hcalled, hvariables.2 hrecords⟩

/-- What is constructed and called in a module of separate names are the intended objects. -/
theorem captureFree_of_separateNames {name : String} (hname : name.isEmpty = false)
    (hdeclared : ∀ plan ∈ plans, plan.Declared)
    (hapart : (Module.ofPlans (some name) plans).NamesApart N) (h : SeparateNames N plans) :
    (Module.ofPlans (some name) plans).CaptureFree N name := by
  have hwords : ∀ plan ∈ plans, isWord plan.record.toList = true :=
    fun plan hplan => (hdeclared plan hplan).record_isWord
  have htyped : ∀ plan ∈ plans, plan.Typed := fun plan hplan => (hdeclared plan hplan).typed
  have hspecial : ∀ form ∈ specialNames,
      form ∉ (Module.ofPlans (some name) plans).boundNames.map N.form := by
    intro form hform
    rw [special_bound_iff hname hwords (List.mem_append_left _ hform)]
    rintro ⟨plan, hplan, rfl⟩
    exact h.not_special plan hplan hform
  have hbuiltins := hspecial builtinsName List.mem_cons_self
  refine { hapart with named := ?_, decorator := ?_, constructed := ?_, containers := ?_ }
  · intro c _
    exact Module.resolve_ownName (hspecial ownName (by decide))
  · intro c _
    exact hapart.resolve_builtin hbuiltins (by decide) List.not_mem_nil
  · intro c hc
    obtain ⟨plan, hplan, rfl⟩ := List.mem_map.1 hc
    have hnot := h.not_special plan hplan
    have hdebug : N.form plan.record ≠ debugName := fun heq => hnot (heq ▸ by decide)
    have hattribute : N.form plan.record ∉ moduleAttributes := fun hmem =>
      hnot (List.mem_cons_of_mem _ (List.mem_cons_of_mem _ (List.mem_cons_of_mem _ hmem)))
    exact hapart.resolve_record hc (h.not_private plan hplan) hdebug hattribute
      (Module.mem_imports_records hname hplan)
      (mem_sortedDistinct.2 (List.mem_map.2 ⟨plan, hplan, rfl⟩))
  · intro c hc field hfield container hcalled locals hlocals
    refine hapart.resolve_container hbuiltins hlocals ?_
    rintro rfl
    exact Module.immutabledict_imported htyped hc hfield hcalled

/-- If what is constructed and called in a module are the intended objects, then the names of the
records have no other meaning. -/
theorem separateNames_of_captureFree {name : String} (hname : name.isEmpty = false)
    (hwords : ∀ plan ∈ plans, isWord plan.record.toList = true) (hapart : RecordsApart N plans)
    (h : (Module.ofPlans (some name) plans).CaptureFree N name) : SeparateNames N plans := by
  have hforms : ∀ plan ∈ plans, isPrivate (N.form plan.record) = false ∧
      N.form plan.record ≠ debugName ∧ N.form plan.record ∉ moduleAttributes := by
    intro plan hplan
    have hresolve := h.constructed plan.tree (List.mem_map_of_mem hplan)
    obtain ⟨hform, hdebug, -, hattribute⟩ := Module.form_of_resolve_imported hresolve
    rw [← hform] at hdebug
    exact ⟨(NameForm.inClass_eq_form_iff (hwords plan hplan)).1 hform.symm, hdebug, hattribute⟩
  have hbound : ∀ plan ∈ plans,
      N.form plan.record ∈ (Module.ofPlans (some name) plans).boundNames.map N.form :=
    fun plan hplan => List.mem_map_of_mem (Module.record_mem_boundNames hname hplan)
  refine { hapart with not_special := ?_, not_private := fun plan hplan => (hforms plan hplan).1 }
  intro plan hplan hmem
  obtain ⟨-, hdebug, hattribute⟩ := hforms plan hplan
  have hclass : plan.tree ∈ (Module.ofPlans (some name) plans).classes :=
    List.mem_map_of_mem hplan
  simp only [specialNames, List.mem_cons] at hmem
  rcases hmem with hbuiltins | hown | hconstant | hmodule
  · apply (Module.hasBuiltin_of_resolve (h.decorator plan.tree hclass)).2
    exact hbuiltins ▸ hbound plan hplan
  · have hform : N.inClass plan.tree.name ownName = ownName := by
      have hself : N.form ownName = ownName := N.of_ascii _ (by decide)
      rw [N.inClass_of_not_private (hself.symm ▸ by decide), hself]
    obtain ⟨hnot, -⟩ := Module.not_bound_of_resolve (h.named plan.tree hclass) (Or.inl rfl)
    rw [hform] at hnot
    exact hnot (hown ▸ hbound plan hplan)
  · exact hdebug hconstant
  · exact hattribute (by simpa [moduleAttributes] using hmodule)

/-- A module is free of capture exactly if the names of its records keep apart and have no other
meaning. -/
theorem captureFree_iff {name : String} (hname : name.isEmpty = false)
    (hdeclared : ∀ plan ∈ plans, plan.Declared)
    (hkeys : (plans.map fun plan => (plan.record, plan.mode)).Nodup) :
    (Module.ofPlans (some name) plans).CaptureFree N name ↔ SeparateNames N plans := by
  have hwords : ∀ plan ∈ plans, isWord plan.record.toList = true :=
    fun plan hplan => (hdeclared plan hplan).record_isWord
  have hapart : (Module.ofPlans (some name) plans).NamesApart N ↔ RecordsApart N plans :=
    namesApart_iff hname hwords hkeys
  constructor
  · intro h
    exact separateNames_of_captureFree hname hwords (hapart.1 h.toNamesApart) h
  · intro h
    exact captureFree_of_separateNames hname hdeclared (hapart.2 h.toRecordsApart) h

/-- The names that records can have although generated modules use them for something else. -/
def unguardedNames : List String :=
  "annotations" :: (specialNames ++ (calledBuiltins ++ builderVariables))

/-- Of the names that modules can import, all but one are kept from records. -/
theorem Declared.libraryName_eq {plan : Plan} (h : plan.Declared)
    (hmem : plan.record ∈ Module.libraryNames) : plan.record = "annotations" := by
  have hlibrary : ∀ name ∈ Module.libraryNames,
      name = "annotations" ∨ name ∈ importedNames ∨ Primitive.uuid.name = name := by
    decide
  rcases hlibrary _ hmem with hannotations | himported | huuid
  · exact hannotations
  · exact absurd himported h.record_free.not_imported
  · exact absurd huuid (h.record_free.not_primitive .uuid)

theorem Declared.fixedName_eq {plan : Plan} (h : plan.Declared)
    (hmem : plan.record ∈ Module.fixedNames plans) : plan.record = "annotations" :=
  h.libraryName_eq (Module.mem_libraryNames hmem)

/-- Where names are compared as they are written, the unguarded names, private names and those of
mirrors are all that records have to keep apart from. -/
theorem separateNames_iff_unguarded (hdeclared : ∀ plan ∈ plans, plan.Declared)
    (hforms : ∀ plan ∈ plans, N.form plan.record = plan.record) :
    SeparateNames N plans ↔ ∀ plan ∈ plans,
      plan.record ∉ unguardedNames ∧ isPrivate plan.record = false ∧
        ∀ other ∈ plans, plan.record ≠ other.mode.mirrorName other.record := by
  constructor
  · intro h plan hplan
    have hform := hforms plan hplan
    refine ⟨?_, hform ▸ h.not_private plan hplan, ?_⟩
    · intro hmem
      rcases List.mem_cons.1 hmem with hannotations | hmem
      · refine h.imports plan hplan ?_
        rw [hform, hannotations]
        exact Module.annotations_mem_fixedNames
      · rcases List.mem_append.1 hmem with hspecial | hmem
        · exact h.not_special plan hplan (hform.symm ▸ hspecial)
        · rcases List.mem_append.1 hmem with hbuiltin | hlocal
          · exact h.builtins plan hplan (hform.symm ▸ hbuiltin)
          · exact h.locals plan hplan (hform.symm ▸ hlocal)
    · intro other hother heq
      refine h.mirrors plan hplan other hother ?_
      rw [hform, mirrorForm, hforms other hother, heq]
  · intro h
    refine ⟨⟨?_, ?_, ?_, ?_, ?_⟩, ?_, ?_⟩
    · intro plan hplan other hother heq
      rwa [hforms plan hplan, hforms other hother] at heq
    · intro plan hplan hmem
      rw [hforms plan hplan] at hmem
      refine (h plan hplan).1 ?_
      rw [(hdeclared plan hplan).fixedName_eq hmem]
      exact List.mem_cons_self
    · intro plan hplan hmem
      rw [hforms plan hplan] at hmem
      refine (h plan hplan).1 (List.mem_cons_of_mem _ (List.mem_append_right _ ?_))
      exact List.mem_append_left _ hmem
    · intro plan hplan hmem
      rw [hforms plan hplan] at hmem
      refine (h plan hplan).1 (List.mem_cons_of_mem _ (List.mem_append_right _ ?_))
      exact List.mem_append_right _ hmem
    · intro plan hplan other hother heq
      rw [hforms plan hplan, mirrorForm, hforms other hother] at heq
      exact (h plan hplan).2.2 other hother heq
    · intro plan hplan hmem
      rw [hforms plan hplan] at hmem
      exact (h plan hplan).1 (List.mem_cons_of_mem _ (List.mem_append_left _ hmem))
    · intro plan hplan
      rw [hforms plan hplan]
      exact (h plan hplan).2.1

end Plan

/-! ### Modules of sources -/

theorem isEmpty_of_isModuleName {name : String} (h : Build.isModuleName name = true) :
    name.isEmpty = false := by
  refine Bool.eq_false_iff.2 ?_
  intro hempty
  rw [String.isEmpty_iff] at hempty
  subst hempty
  exact absurd h (by decide)

/-- Every source that compiles has plans whose module has the text of a tree.  The names in it are
apart exactly if the planned records are, and it is free of capture exactly if moreover the names of
the records have no other meaning.  Where names are compared as they are written, the records only
have to avoid the unguarded names, private ones, and one another's mirrors. -/
theorem moduleOfSource_capture_free_iff (N : NameForm) {options : PlanOptions}
    {name source text : String} (hname : Build.isModuleName name = true)
    (h : moduleOfSource options (some name) source = .ok text) :
    ∃ plans, Plan.ofSource options source = .ok plans ∧
      (Module.ofPlans (some name) plans).render (ModuleText.header (some options.label)) = text ∧
      ((Module.ofPlans (some name) plans).NamesApart N ↔ Plan.RecordsApart N plans) ∧
      ((Module.ofPlans (some name) plans).CaptureFree N name ↔ Plan.SeparateNames N plans) ∧
      ((∀ plan ∈ plans, N.form plan.record = plan.record) →
        (Plan.SeparateNames N plans ↔ ∀ plan ∈ plans,
          plan.record ∉ Plan.unguardedNames ∧ isPrivate plan.record = false ∧
            ∀ other ∈ plans, plan.record ≠ other.mode.mirrorName other.record)) := by
  obtain ⟨plans, hplans, htext⟩ := moduleOfSource_eq_ok_iff.1 h
  obtain ⟨hdeclared, hkeys⟩ := Plan.declared_of_ofSource hplans
  have hnonempty := isEmpty_of_isModuleName hname
  have hwords : ∀ plan ∈ plans, isWord plan.record.toList = true :=
    fun plan hplan => (hdeclared plan hplan).record_isWord
  exact ⟨plans, hplans, htext, Plan.namesApart_iff hnonempty hwords hkeys,
    Plan.captureFree_iff hnonempty hdeclared hkeys, Plan.separateNames_iff_unguarded hdeclared⟩

/-- A source with mirrors of both modes that call containers. -/
def booksSource : String :=
  "@mirror record Book \x7b @persisted pages: List<Page> @persisted notes: Map<String, Int> \x7d" ++
    " @mirror(observable) record Page \x7b @persisted words: MutableSet<String> \x7d"

theorem moduleOfSource_capture_free_iff_books :
    Build.isModuleName "models" = true ∧
      ∃ text plans, moduleOfSource {} (some "models") booksSource = .ok text ∧
        Plan.ofSource {} booksSource = .ok plans ∧
        (Module.ofPlans (some "models") plans).CaptureFree .asWritten "models" := by
  have hname : Build.isModuleName "models" = true := by decide
  have hseparate : (Plan.ofSource {} booksSource).toOption.any fun plans =>
      decide (∀ plan ∈ plans, plan.record ∉ Plan.unguardedNames ∧
        isPrivate plan.record = false ∧
          ∀ other ∈ plans, plan.record ≠ other.mode.mirrorName other.record) := by
    decide +kernel
  cases hplans : Plan.ofSource {} booksSource with
  | error e =>
      rw [hplans] at hseparate
      cases hseparate
  | ok plans =>
      have hmodule := moduleOfSource_of_plans (some "models") hplans
      obtain ⟨plans', hplans', -, -, hfree, hunguarded⟩ :=
        moduleOfSource_capture_free_iff .asWritten hname hmodule
      obtain rfl : plans = plans' := Except.ok.inj (hplans.symm.trans hplans')
      rw [hplans] at hseparate
      have hnames := of_decide_eq_true hseparate
      refine ⟨hname, _, plans, hmodule, rfl, hfree.2 ?_⟩
      exact (hunguarded fun _ _ => rfl).2 hnames

/-- A record can have the name of a container that its own mirror calls, and the mirror then calls
the record.  The name of a record can also be private: no name takes its place then, but the class
that constructs it does not find it.  The sources compile. -/
theorem compiles_captured_container :
    (moduleOfSource {} (some "models")
        "@mirror record tuple \x7b @persisted x: List<Int> \x7d").isOk = true ∧
      (∃ plans,
        Plan.ofSource {} "@mirror record tuple \x7b @persisted x: List<Int> \x7d" = .ok plans ∧
        (∃ c ∈ (Module.ofPlans (some "models") plans).classes, ∃ field ∈ c.fields,
          Container.tuple ∈ field.containers) ∧
        (Module.ofPlans (some "models") plans).resolve .asWritten "Readonlytuple"
          ["cls", persistedObject] Container.tuple.name = .imported "models" "tuple" ∧
        ¬ (Module.ofPlans (some "models") plans).CaptureFree .asWritten "models") ∧
      (moduleOfSource {} (some "models") "@mirror record __A \x7b \x7d").isOk = true ∧
      ∃ plans,
        Plan.ofSource {} "@mirror record __A \x7b \x7d" = .ok plans ∧
        (Module.ofPlans (some "models") plans).NamesApart .asWritten ∧
        (Module.ofPlans (some "models") plans).resolve .asWritten "Readonly__A" builderScope "__A" =
          .unbound "_Readonly__A__A" := by
  have hplans : Plan.ofSource {} "@mirror record tuple \x7b @persisted x: List<Int> \x7d" =
      .ok [⟨"tuple", "Readonlytuple", .readonly, [⟨"x", "List<Int>", .list,
        "x: tuple[int, ...]", "tuple(persisted_object.x)", "persisted_object.x.extend(self.x)",
        []⟩]⟩] := by
    decide +kernel
  have hprivate : Plan.ofSource {} "@mirror record __A \x7b \x7d" =
      .ok [⟨"__A", "Readonly__A", .readonly, []⟩] := by
    decide +kernel
  refine ⟨?_, ⟨_, hplans, ?_, ?_, ?_⟩, ?_, _, hprivate, ⟨?_, ?_, ?_⟩, ?_⟩
  · rw [moduleOfSource_of_plans (some "models") hplans]
    rfl
  · decide +kernel
  · decide +kernel
  · intro hfree
    exact hfree.builtins "tuple" (by decide) (by decide +kernel)
  · rw [moduleOfSource_of_plans (some "models") hprivate]
    rfl
  · decide +kernel
  · decide +kernel
  · decide +kernel
  · decide +kernel

end RecordMirror
