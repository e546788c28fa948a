import RecordMirror.Proofs.ModuleText.Capture
/-!
Which imports a module has.  An import that an annotation needs is there exactly if a field of a
plan has such an annotation, and the records of the plans are imported once and in order.
-/

namespace RecordMirror

open Code

/-- The primitives in a type at any depth, keys of maps included. -/
def TypeExpr.primitives : TypeExpr → List Primitive
  | primitive type => [type]
  | optional inner => inner.primitives
  | list element => element.primitives
  | set element => element.primitives
  | map key value => key.primitives ++ value.primitives
  | reference _ => []

/-- A line is needed for a primitive in the type, or for a map in it. -/
theorem Conversion.mem_importLines_iff {mode : Mode} {e : TypeExpr} {line : String} :
    line ∈ importLines mode e ↔ (∃ type ∈ e.primitives, line ∈ type.importLine?) ∨
      e.holdsMap = true ∧ line ∈ mode.style.mappingImport := by
  induction e with
  | primitive type => simp [importLines, TypeExpr.primitives, TypeExpr.holdsMap]
  | reference record => simp [importLines, TypeExpr.primitives, TypeExpr.holdsMap]
  | optional inner ih => exact ih
  | list element ih => exact ih
  | set element ih => exact ih
  | map key value ihKey ihValue =>
      rw [importLines, List.mem_append, List.mem_append, ihKey, ihValue, Option.mem_toList]
      simp only [TypeExpr.primitives, TypeExpr.holdsMap, List.mem_append, or_and_right, exists_or,
        true_and]
      constructor
      · rintro (hmapping | ((hvalue | ⟨-, hmapping⟩) | (hkey | ⟨-, hmapping⟩)))
        · exact Or.inr hmapping
        · exact Or.inl (Or.inr hvalue)
        · exact Or.inr hmapping
        · exact Or.inl (Or.inl hkey)
        · exact Or.inr hmapping
      · rintro ((hkey | hvalue) | hmapping)
        · exact Or.inr (Or.inr (Or.inl hkey))
        · exact Or.inr (Or.inl (Or.inl hvalue))
        · exact Or.inl hmapping

namespace Plan

/-- A field of a plan has a type. -/
def HasFieldOf (plan : Plan) (type : TypeExpr) : Prop :=
  ∃ mapping ∈ plan.fields, TypeExpr.parse mapping.declaredType = .ok type

theorem Typed.mem_imports_iff {plan : Plan} (h : plan.Typed) {line : String} :
    line ∈ plan.imports ↔
      ∃ type, plan.HasFieldOf type ∧ line ∈ Conversion.importLines plan.mode type := by
  rw [imports, mem_sortedDistinct, List.mem_flatMap]
  constructor
  · rintro ⟨mapping, hmapping, hline⟩
    obtain ⟨type, hparse, htyped⟩ := h mapping hmapping
    rw [← htyped] at hline
    exact ⟨type, ⟨mapping, hmapping, hparse⟩, mem_sortedDistinct.1 hline⟩
  · rintro ⟨type, ⟨mapping, hmapping, hparse⟩, hline⟩
    obtain ⟨type', hparse', htyped⟩ := h mapping hmapping
    obtain rfl : type' = type := Except.ok.inj (hparse'.symm.trans hparse)
    refine ⟨mapping, hmapping, ?_⟩
    rw [← htyped]
    exact mem_sortedDistinct.2 hline

end Plan

namespace Code

/-- The import that provides dates. -/
def datetimeImport : Import := ⟨"datetime", ["datetime"]⟩

/-- The import that provides UUIDs. -/
def uuidImport : Import := ⟨"uuid", ["UUID"]⟩

namespace Module

variable {name : String} {plans : List Plan} {i : Import}

theorem mem_needed_iff (htyped : ∀ plan ∈ plans, plan.Typed) (hi : i ∈ neededImports)
    (hclass : i.render ≠ ModuleText.dataclassImport) :
    i ∈ needed plans ↔ ∃ plan ∈ plans, ∃ type, plan.HasFieldOf type ∧
      i.render ∈ Conversion.importLines plan.mode type := by
  rw [needed, List.mem_filter, List.contains_iff_mem, List.mem_cons, List.mem_flatMap]
  constructor
  · rintro ⟨-, heq | ⟨plan, hplan, hline⟩⟩
    · exact absurd heq hclass
    · exact ⟨plan, hplan, (htyped plan hplan).mem_imports_iff.1 hline⟩
  · rintro ⟨plan, hplan, hline⟩
    exact ⟨hi, Or.inr ⟨plan, hplan, (htyped plan hplan).mem_imports_iff.2 hline⟩⟩

/-- The records of the plans are imported once each and in order, after the other imports. -/
theorem imports_records (hname : name.isEmpty = false) :
    (ofPlans (some name) plans).imports.flatten = fixedImports plans ++
      if plans = [] then [] else [⟨name, sortedDistinct (plans.map (·.record))⟩] := by
  rw [imports_flatten, recordImports, hname, Bool.false_or]
  by_cases hplans : plans = []
  · simp [hplans]
  · simp [hplans]

/-- The import of some records is none of those that classes and annotations can need. -/
theorem record_import_ne (hdeclared : ∀ plan ∈ plans, plan.Declared)
    (hi : i ∈ observableImport :: neededImports) :
    i ≠ ⟨name, sortedDistinct (plans.map (·.record))⟩ := by
  have hnames : ∀ i ∈ observableImport :: neededImports,
      ∃ x ∈ i.names, x ∈ libraryNames ∧ x ≠ "annotations" := by
    decide
  rintro rfl
  obtain ⟨x, hx, hlibrary, hne⟩ := hnames _ hi
  obtain ⟨plan, hplan, rfl⟩ := List.mem_map.1 (mem_sortedDistinct.1 hx)
  exact hne ((hdeclared plan hplan).libraryName_eq hlibrary)

theorem mem_imports_iff (hname : name.isEmpty = false)
    (hdeclared : ∀ plan ∈ plans, plan.Declared) (hi : i ∈ observableImport :: neededImports) :
    i ∈ (ofPlans (some name) plans).imports.flatten ↔ i ∈ fixedImports plans := by
  rw [imports_records hname, List.mem_append]
  refine ⟨?_, Or.inl⟩
  rintro (hfixed | hrecords)
  · exact hfixed
  · by_cases hplans : plans = []
    · simp [hplans] at hrecords
    · rw [if_neg hplans, List.mem_singleton] at hrecords
      exact absurd hrecords (record_import_ne hdeclared hi)

/-- An import that an annotation needs is in a module exactly if a field of a plan has such an
annotation. -/
theorem needed_imported_iff (hname : name.isEmpty = false)
    (hdeclared : ∀ plan ∈ plans, plan.Declared) (hi : i ∈ neededImports)
    (hclass : i.render ≠ ModuleText.dataclassImport) :
    i ∈ (ofPlans (some name) plans).imports.flatten ↔ ∃ plan ∈ plans, ∃ type,
      plan.HasFieldOf type ∧ i.render ∈ Conversion.importLines plan.mode type := by
  have hne : ∀ i ∈ neededImports, i ≠ annotationsImport ∧ i ≠ observableImport := by
    decide
  rw [mem_imports_iff hname hdeclared (List.mem_cons_of_mem _ hi), mem_fixedImports,
    ← mem_needed_iff (fun plan hplan => (hdeclared plan hplan).typed) hi hclass]
  simp [hne i hi]

theorem observable_imported_iff (hname : name.isEmpty = false)
    (hdeclared : ∀ plan ∈ plans, plan.Declared) :
    observableImport ∈ (ofPlans (some name) plans).imports.flatten ↔
      ∃ plan ∈ plans, plan.mode = .observable := by
  have hneeded : observableImport ∉ needed plans := fun hmem =>
    absurd (List.mem_filter.1 hmem).1 (by decide)
  rw [mem_imports_iff hname hdeclared List.mem_cons_self, mem_fixedImports]
  simp [hneeded, show observableImport ≠ annotationsImport by decide]

/-- A primitive is imported exactly if a field of a plan has a type with it. -/
theorem primitive_imported_iff (hname : name.isEmpty = false)
    (hdeclared : ∀ plan ∈ plans, plan.Declared) (hi : i ∈ neededImports) {primitive : Primitive}
    (hline : ∀ type : Primitive, i.render ∈ type.importLine? ↔ type = primitive)
    (hmapping : ∀ mode : Mode, i.render ∉ mode.style.mappingImport)
    (hclass : i.render ≠ ModuleText.dataclassImport) :
    i ∈ (ofPlans (some name) plans).imports.flatten ↔
      ∃ plan ∈ plans, ∃ type, plan.HasFieldOf type ∧ primitive ∈ type.primitives := by
  rw [needed_imported_iff hname hdeclared hi hclass]
  simp only [Conversion.mem_importLines_iff, hline, hmapping, and_false, or_false,
    exists_eq_right]

theorem datetime_imported_iff (hname : name.isEmpty = false)
    (hdeclared : ∀ plan ∈ plans, plan.Declared) :
    datetimeImport ∈ (ofPlans (some name) plans).imports.flatten ↔
      ∃ plan ∈ plans, ∃ type, plan.HasFieldOf type ∧ .date ∈ type.primitives := by
  apply primitive_imported_iff hname hdeclared (by decide)
  · intro type
    cases type <;> decide
  · intro mode
    cases mode <;> decide
  · decide

theorem uuid_imported_iff (hname : name.isEmpty = false)
    (hdeclared : ∀ plan ∈ plans, plan.Declared) :
    uuidImport ∈ (ofPlans (some name) plans).imports.flatten ↔
      ∃ plan ∈ plans, ∃ type, plan.HasFieldOf type ∧ .uuid ∈ type.primitives := by
  apply primitive_imported_iff hname hdeclared (by decide)
  · intro type
    cases type <;> decide
  · intro mode
    cases mode <;> decide
  · decide

theorem immutabledict_imported_iff (hname : name.isEmpty = false)
    (hdeclared : ∀ plan ∈ plans, plan.Declared) :
    immutabledictImport ∈ (ofPlans (some name) plans).imports.flatten ↔
      ∃ plan ∈ plans, plan.mode = .readonly ∧
        ∃ type, plan.HasFieldOf type ∧ type.holdsMap = true := by
  have hline : ∀ type : Primitive, immutabledictImport.render ∉ type.importLine? := by
    intro type
    cases type <;> decide
  have hmapping : ∀ mode : Mode, immutabledictImport.render ∈ mode.style.mappingImport ↔
      mode = .readonly := by
    intro mode
    cases mode <;> decide
  rw [needed_imported_iff hname hdeclared (by decide) (by decide)]
  refine exists_congr fun plan => and_congr_right fun _ => ?_
  simp only [Conversion.mem_importLines_iff, hline, hmapping, and_false, exists_false, false_or]
  constructor
  · rintro ⟨type, hfield, hmap, hmode⟩
    exact ⟨hmode, type, hfield, hmap⟩
  · rintro ⟨hmode, type, hfield, hmap⟩
    exact ⟨type, hfield, hmap, hmode⟩

end Module

end Code

end RecordMirror
