import RecordMirror.ModuleText
import RecordMirror.Proofs.Plan.Requests
import RecordMirror.Proofs.Text.Sorted
/-!
Generated modules as trees: groups of imports, and classes whose fields have an annotation, an
expression and a statement.  The text of a module is its header comment and the lines of its tree.
-/

namespace RecordMirror

namespace Code

/-- An import of names from a module. -/
structure Import where
  source : String
  names : List String
deriving DecidableEq, Repr

namespace Import

/-- The text of an import. -/
def render (i : Import) : String :=
  "from " ++ i.source ++ " import " ++ ", ".intercalate i.names

/-- The top-level package that names are imported from. -/
def package (i : Import) : String :=
  String.ofList (i.source.toList.takeWhile (· != '.'))

/-- Whether names are imported from the standard library. -/
def isLibrary (i : Import) : Bool :=
  isLibraryModule i.package

end Import

/-- The import that leaves annotations unevaluated. -/
def annotationsImport : Import := ⟨"__future__", ["annotations"]⟩

/-- The imports that classes and annotations can need, in the order of their texts. -/
def neededImports : List Import :=
  [⟨"dataclasses", ["dataclass"]⟩, ⟨"datetime", ["datetime"]⟩,
    ⟨"immutabledict", ["immutabledict"]⟩, ⟨"uuid", ["UUID"]⟩]

/-- The import that observable mirrors need. -/
def observableImport : Import := ⟨"mirrorgen.runtime", ["observable"]⟩

/-- A field of a mirror class: its annotation, the expression of its value and the statement that
stores it into a record. -/
structure MirrorField where
  name : String
  hint : TypeHint
  forward : Expr
  backward : Statement
deriving DecidableEq, Repr

/-- The field of a mirror for a record's field of a type. -/
def MirrorField.ofType (mode : Mode) (name : String) (type : TypeExpr) : MirrorField where
  name := name
  hint := Conversion.hintOf (Conversion.mirrorSide mode) type
  forward := Conversion.forward mode type (.member (.name persistedObject) name) 0
  backward := Conversion.statement type name

/-- A mirror class. -/
structure MirrorClass where
  record : String
  mode : Mode
  fields : List MirrorField
deriving DecidableEq, Repr

namespace MirrorClass

/-- The name of a mirror class. -/
def name (c : MirrorClass) : String :=
  c.mode.mirrorName c.record

/-- The lines of a mirror class. -/
def lines (c : MirrorClass) : List String :=
  c.mode.style.decorators ++
  ["class " ++ c.name ++ ":"] ++
  c.fields.map (fun field => "    " ++ (field.name ++ ": " ++ field.hint.render)) ++
  (if c.fields.isEmpty then [] else [""]) ++
  ["    @classmethod",
    "    def from_persisted(cls, " ++ persistedObject ++ ": " ++ c.record ++ ") -> " ++ c.name ++
      ":"] ++
  (if c.fields.isEmpty then ["        return cls()"]
    else
      ["        return cls("] ++
      c.fields.map (fun field =>
        "            " ++ field.name ++ "=" ++ field.forward.render ++ ",") ++
      ["        )"]) ++
  ["",
    "    def build_persisted_object(self) -> " ++ c.record ++ ":",
    "        " ++ persistedObject ++ " = " ++ c.record ++ "()"] ++
  c.fields.map (fun field => "        " ++ field.backward.render) ++
  ["        return " ++ persistedObject]

end MirrorClass

/-- A module: groups of imports, and classes. -/
structure Module where
  imports : List (List Import)
  classes : List MirrorClass
deriving DecidableEq, Repr

namespace Module

/-- The lines of a module.  An empty line stands before each group, and two before each class. -/
def lines (m : Module) : List String :=
  (m.imports.flatMap fun group => "" :: group.map Import.render) ++
    m.classes.flatMap fun c => "" :: "" :: c.lines

/-- The text of a module with a header comment. -/
def render (m : Module) (header : String) : String :=
  "\n".intercalate (header :: m.lines) ++ "\n"

end Module

end Code

open Code

/-- The tree of a mapping, if its type can be read. -/
def FieldMapping.tree? (mode : Mode) (mapping : FieldMapping) : Option MirrorField :=
  (TypeExpr.parse mapping.declaredType).toOption.map (MirrorField.ofType mode mapping.name)

/-- The tree of the class of a plan. -/
def Plan.tree (plan : Plan) : MirrorClass :=
  ⟨plan.record, plan.mode, plan.fields.filterMap (FieldMapping.tree? plan.mode)⟩

namespace Code.Module

/-- The import of the records of some plans, as a group if there is one. -/
def recordImports (persistentModule : Option String) (plans : List Plan) : List (List Import) :=
  match persistentModule with
  | none => []
  | some name =>
    if name.isEmpty || plans.isEmpty then []
    else [[⟨name, sortedDistinct (plans.map (·.record))⟩]]

/-- The imports that some plans need, with the one that every module has. -/
def needed (plans : List Plan) : List Import :=
  neededImports.filter fun i =>
    (ModuleText.dataclassImport :: plans.flatMap (·.imports)).contains i.render

/-- The tree of the module of some plans. -/
def ofPlans (persistentModule : Option String) (plans : List Plan) : Module where
  imports :=
    let others := (needed plans).filter (!·.isLibrary)
    [[annotationsImport], (needed plans).filter Import.isLibrary] ++
      (if others.isEmpty then [] else [others]) ++
      (if plans.any (·.mode == .observable) then [[observableImport]] else []) ++
      recordImports persistentModule plans
  classes := plans.map Plan.tree

end Code.Module

/-! ### The classes of plans -/

/-- A plan whose mappings are settled by the types that their texts denote. -/
def Plan.Typed (plan : Plan) : Prop :=
  ∀ mapping ∈ plan.fields, ∃ type, TypeExpr.parse mapping.declaredType = .ok type ∧
    FieldMapping.typed plan.mode mapping.name mapping.declaredType type = mapping

theorem map_filterMap_eq_map {α β γ : Type} {f : α → Option β} {g : β → γ} {g' : α → γ}
    {items : List α} (h : ∀ a ∈ items, ∃ b, f a = some b ∧ g b = g' a) :
    (items.filterMap f).map g = items.map g' := by
  induction items with
  | nil => rfl
  | cons a rest ih =>
      obtain ⟨b, hb, hg⟩ := h a List.mem_cons_self
      rw [List.filterMap_cons_some hb, List.map_cons, List.map_cons, hg,
        ih fun a' ha' => h a' (List.mem_cons_of_mem a ha')]

theorem FieldMapping.tree?_of_parse {mode : Mode} {mapping : FieldMapping} {type : TypeExpr}
    (h : TypeExpr.parse mapping.declaredType = .ok type) :
    mapping.tree? mode = some (.ofType mode mapping.name type) := by
  rw [FieldMapping.tree?, h]
  rfl

namespace Plan.Typed

variable {plan : Plan} {γ : Type}

/-- The fields of a class are those of its plan, as far as only their texts count. -/
theorem map_fields (h : plan.Typed) {g : MirrorField → γ} {g' : FieldMapping → γ}
    (hg : ∀ name text type, g (.ofType plan.mode name type) =
      g' (FieldMapping.typed plan.mode name text type)) :
    plan.tree.fields.map g = plan.fields.map g' := by
  apply map_filterMap_eq_map
  intro mapping hmapping
  obtain ⟨type, hparse, htyped⟩ := h mapping hmapping
  refine ⟨_, FieldMapping.tree?_of_parse hparse, ?_⟩
  rw [hg mapping.name mapping.declaredType type, htyped]

theorem fields_isEmpty (h : plan.Typed) : plan.tree.fields.isEmpty = plan.fields.isEmpty := by
  have hmap : plan.tree.fields.map (fun _ => ()) = plan.fields.map fun _ => () :=
    h.map_fields fun _ _ _ => rfl
  rw [← List.isEmpty_map, hmap, List.isEmpty_map]

theorem classLinesOf_eq (h : plan.Typed) :
    classLinesOf plan.record plan.mode plan.fields = plan.tree.lines := by
  have hdeclarations : plan.tree.fields.map
      (fun field => "    " ++ (field.name ++ ": " ++ field.hint.render)) =
        plan.fields.map fun field => "    " ++ field.declaration :=
    h.map_fields fun _ _ _ => rfl
  have harguments : plan.tree.fields.map
      (fun field => "            " ++ field.name ++ "=" ++ field.forward.render ++ ",") =
        plan.fields.map fun field => "            " ++ field.name ++ "=" ++ field.forward ++ "," :=
    h.map_fields fun _ _ _ => rfl
  have hstatements : plan.tree.fields.map (fun field => "        " ++ field.backward.render) =
      plan.fields.map fun field => "        " ++ field.backward :=
    h.map_fields fun _ _ _ => rfl
  rw [MirrorClass.lines, hdeclarations, harguments, hstatements, h.fields_isEmpty]
  rfl

end Plan.Typed

/-! ### The imports of plans -/

/-- The lines of the imports that classes and annotations can need. -/
def neededLines : List String :=
  neededImports.map Import.render

theorem importedPackage_render {i : Import} (h : i ∈ neededImports) :
    importedPackage i.render = .ok i.package := by
  have hall : ∀ i ∈ neededImports, (importedPackage i.render).toOption = some i.package := by
    decide
  cases hpackage : importedPackage i.render with
  | error e =>
      have hsome := hall i h
      rw [hpackage] at hsome
      cases hsome
  | ok package =>
      have hsome := hall i h
      rw [hpackage] at hsome
      exact congrArg Except.ok (Option.some.inj hsome)

theorem splitImports_render {imports : List Import} (h : ∀ i ∈ imports, i ∈ neededImports) :
    splitImports (imports.map Import.render) =
      .ok ((imports.filter Import.isLibrary).map Import.render,
        (imports.filter (!·.isLibrary)).map Import.render) := by
  induction imports with
  | nil => rfl
  | cons i rest ih =>
      have hrest := ih fun other hother => h other (List.mem_cons_of_mem i hother)
      have hpackage := importedPackage_render (h i List.mem_cons_self)
      simp only [List.map_cons, splitImports, hpackage, hrest, bind, Except.bind]
      by_cases hlibrary : i.isLibrary = true
      · have hmodule : isLibraryModule i.package = true := hlibrary
        simp [hlibrary, hmodule, pure, Except.pure]
      · have hmodule : isLibraryModule i.package = false := Bool.eq_false_iff.2 hlibrary
        simp [hlibrary, hmodule, pure, Except.pure]

theorem Conversion.mem_neededLines {mode : Mode} {type : TypeExpr} {line : String}
    (h : line ∈ importLines mode type) : line ∈ neededLines := by
  induction type with
  | primitive type =>
      have hall : ∀ line ∈ type.importLine?.toList, line ∈ neededLines := by
        cases type <;> decide
      exact hall line h
  | reference record => cases h
  | optional inner ih => exact ih h
  | list element ih => exact ih h
  | set element ih => exact ih h
  | map key value ihKey ihValue =>
      have hall : ∀ line ∈ mode.style.mappingImport.toList, line ∈ neededLines := by
        cases mode <;> decide
      rcases List.mem_append.1 h with h | h
      · exact hall line h
      · rcases List.mem_append.1 h with h | h
        · exact ihValue h
        · exact ihKey h

theorem Plan.Typed.mem_neededLines {plan : Plan} (h : plan.Typed) {line : String}
    (hline : line ∈ plan.fields.flatMap (·.imports)) : line ∈ neededLines := by
  obtain ⟨mapping, hmapping, hline⟩ := List.mem_flatMap.1 hline
  obtain ⟨type, -, htyped⟩ := h mapping hmapping
  rw [← htyped] at hline
  exact Conversion.mem_neededLines (mem_sortedDistinct.1 hline)

theorem neededLines_pairwise : neededLines.Pairwise (· < ·) := by
  decide

/-- The import lines of a module are those of the imports its plans need. -/
theorem sortedDistinct_imports {plans : List Plan} (h : ∀ plan ∈ plans, plan.Typed) :
    sortedDistinct (ModuleText.dataclassImport :: plans.flatMap (·.imports)) =
      (Module.needed plans).map Import.render := by
  rw [sortedDistinct_eq_filter neededLines_pairwise, neededLines, List.filter_map]
  · rfl
  · intro line hline
    rcases List.mem_cons.1 hline with rfl | hline
    · decide
    · obtain ⟨plan, hplan, hline⟩ := List.mem_flatMap.1 hline
      exact (h plan hplan).mem_neededLines (mem_sortedDistinct.1 hline)

theorem splitImports_plans {plans : List Plan} (h : ∀ plan ∈ plans, plan.Typed) :
    splitImports (sortedDistinct (ModuleText.dataclassImport :: plans.flatMap (·.imports))) =
      .ok (((Module.needed plans).filter Import.isLibrary).map Import.render,
        ((Module.needed plans).filter (!·.isLibrary)).map Import.render) := by
  rw [sortedDistinct_imports h]
  exact splitImports_render fun i hi => (List.mem_filter.1 hi).1

/-! ### The text of a module -/

theorem sortedDistinct_isEmpty (texts : List String) :
    (sortedDistinct texts).isEmpty = texts.isEmpty := by
  rw [Bool.eq_iff_iff, List.isEmpty_iff, List.isEmpty_iff, List.eq_nil_iff_forall_not_mem,
    List.eq_nil_iff_forall_not_mem]
  exact forall_congr' fun t => not_congr mem_sortedDistinct

theorem recordImport_eq (persistentModule : Option String) (plans : List Plan) :
    ModuleText.recordImport persistentModule plans =
      (Module.recordImports persistentModule plans).flatMap
        fun group => "" :: group.map Import.render := by
  cases persistentModule with
  | none => rfl
  | some name =>
      simp only [ModuleText.recordImport, Module.recordImports, sortedDistinct_isEmpty,
        List.isEmpty_map]
      split
      · rfl
      · rfl

/-- Joining texts that are joined from lines themselves joins all the lines. -/
theorem intercalate_flatten {separator : String} {paragraphs : List (List String)}
    (h : ∀ lines ∈ paragraphs, lines ≠ []) :
    separator.intercalate (paragraphs.map separator.intercalate) =
      separator.intercalate paragraphs.flatten := by
  induction paragraphs with
  | nil => rfl
  | cons lines rest ih =>
      have hlines := h lines List.mem_cons_self
      have hrest : ∀ other ∈ rest, other ≠ [] := fun other hother =>
        h other (List.mem_cons_of_mem lines hother)
      by_cases hnil : rest = []
      · subst hnil
        simp
      · have hflatten : rest.flatten ≠ [] := by
          intro hempty
          obtain ⟨other, hother⟩ := List.exists_mem_of_ne_nil rest hnil
          exact hrest other hother (List.flatten_eq_nil_iff.1 hempty other hother)
        rw [List.map_cons, String.intercalate_cons_of_ne_nil (by simpa using hnil), ih hrest,
          List.flatten_cons, String.intercalate_append_of_ne_nil hlines hflatten]

theorem Plan.Typed.classText_eq {plan : Plan} (h : plan.Typed) :
    plan.classText = "\n".intercalate plan.tree.lines := by
  rw [classText, classTextOf, h.classLinesOf_eq]

/-- The classes of a module can be joined with the lines before them at once. -/
theorem intercalate_classes {plans : List Plan} (h : ∀ plan ∈ plans, plan.Typed)
    (preamble : List String) :
    "\n".intercalate (preamble ++ plans.flatMap fun plan => ["", "", plan.classText]) =
      "\n".intercalate
        (preamble ++ (plans.map Plan.tree).flatMap fun c => "" :: "" :: c.lines) := by
  let paragraphs := preamble.map (fun line => [line]) ++
    plans.flatMap fun plan => [[""], [""], plan.tree.lines]
  have hnonempty : ∀ lines ∈ paragraphs, lines ≠ [] := by
    intro lines hmem
    rcases List.mem_append.1 hmem with hmem | hmem
    · obtain ⟨line, -, rfl⟩ := List.mem_map.1 hmem
      exact List.cons_ne_nil _ _
    · obtain ⟨plan, -, hmem⟩ := List.mem_flatMap.1 hmem
      simp only [List.mem_cons, List.not_mem_nil, or_false] at hmem
      rcases hmem with rfl | rfl | rfl <;> simp [MirrorClass.lines]
  have hclasses : (plans.flatMap fun plan => [[""], [""], plan.tree.lines]).map "\n".intercalate =
      plans.flatMap fun plan => ["", "", plan.classText] := by
    rw [List.map_flatMap]
    apply List.flatMap_congr
    intro plan hplan
    rw [(h plan hplan).classText_eq]
    simp
  have htexts : paragraphs.map "\n".intercalate =
      preamble ++ plans.flatMap fun plan => ["", "", plan.classText] := by
    rw [List.map_append, hclasses]
    simp [Function.comp_def]
  have hflatten : paragraphs.flatten =
      preamble ++ (plans.map Plan.tree).flatMap fun c => "" :: "" :: c.lines := by
    have hlines : (plans.flatMap fun plan => [[""], [""], plan.tree.lines]).flatten =
        plans.flatMap fun plan => "" :: "" :: plan.tree.lines := by
      rw [← List.flatMap_id', List.flatMap_assoc]
      simp
    simp [paragraphs, hlines, ← List.flatMap_def, List.flatMap_map]
  rw [← htexts, ← hflatten]
  exact intercalate_flatten hnonempty

theorem preamble_eq {persistentModule label : Option String} {plans : List Plan}
    (h : ∀ plan ∈ plans, plan.Typed) :
    ModuleText.preamble ⟨persistentModule, label⟩ plans =
      .ok (ModuleText.header label :: (Module.ofPlans persistentModule plans).imports.flatMap
        fun group => "" :: group.map Import.render) := by
  have hannotations : annotationsImport.render = "from __future__ import annotations" := by
    decide
  have hobservable : observableImport.render = ModuleText.observableImport := by
    decide
  simp only [ModuleText.preamble, splitImports_plans h, bind, Except.bind, pure, Except.pure,
    recordImport_eq, Module.ofPlans, List.isEmpty_map, List.flatMap_append]
  congr 1
  split <;> split <;> simp [hannotations, hobservable]

/-- The module of plans that are settled by types has the text of its tree. -/
theorem moduleText_eq {persistentModule label : Option String} {plans : List Plan}
    (h : ∀ plan ∈ plans, plan.Typed) :
    moduleText ⟨persistentModule, label⟩ plans =
      .ok ((Module.ofPlans persistentModule plans).render (ModuleText.header label)) := by
  simp only [moduleText, preamble_eq h, bind, Except.bind, intercalate_classes h]
  rfl

/-! ### The plans of a source -/

theorem Plan.typed_of_ofRecord {scope : Scope} {mode : Mode} {record : Record} {plan : Plan}
    (h : ofRecord scope mode record = .ok plan) : plan.Typed := by
  obtain ⟨fields, hfields, rfl⟩ := ofRecord_eq_ok_iff.1 h
  intro mapping hmapping
  obtain ⟨field, -, hfield⟩ := exists_of_forall₂ hfields hmapping
  obtain ⟨type, hparse, -, rfl⟩ := FieldMapping.ofField_eq_ok_iff.1 hfield
  exact ⟨type, hparse, rfl⟩

theorem Plan.typed_of_ofSource {options : PlanOptions} {source : String} {plans : List Plan}
    (h : ofSource options source = .ok plans) : ∀ plan ∈ plans, plan.Typed := by
  obtain ⟨schema, -, hplans⟩ := ofSource_eq_ok_iff.1 h
  obtain ⟨requests, -, hrequests⟩ := ofSchemaFault_eq_ok_iff.1 hplans
  intro plan hplan
  obtain ⟨request, -, hrecord⟩ := exists_of_forall₂ hrequests hplan
  exact typed_of_ofRecord hrecord

/-- Every source that has plans has a module, and the text of the module is that of its tree. -/
theorem moduleOfSource_of_plans {options : PlanOptions} (persistentModule : Option String)
    {source : String} {plans : List Plan} (h : Plan.ofSource options source = .ok plans) :
    moduleOfSource options persistentModule source =
      .ok ((Module.ofPlans persistentModule plans).render
        (ModuleText.header (some options.label))) := by
  simp [moduleOfSource, h, moduleText_eq (Plan.typed_of_ofSource h), Except.mapError]

theorem moduleOfSource_eq_ok_iff {options : PlanOptions} {persistentModule : Option String}
    {source text : String} :
    moduleOfSource options persistentModule source = .ok text ↔
      ∃ plans, Plan.ofSource options source = .ok plans ∧
        (Module.ofPlans persistentModule plans).render (ModuleText.header (some options.label)) =
          text := by
  cases hplans : Plan.ofSource options source with
  | error cause => simp [moduleOfSource, hplans]
  | ok plans => simp [moduleOfSource_of_plans persistentModule hplans]

end RecordMirror
