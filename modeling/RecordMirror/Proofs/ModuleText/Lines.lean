import RecordMirror.Build
import RecordMirror.Proofs.Code.Lines
import RecordMirror.Proofs.ModuleText.Legality
import RecordMirror.Proofs.Path
/-!
The lines of a module are lines.  What sources bring into a module are words and the texts of
conversions, and none of these breaks a line, so a module has as many lines as its tree.
-/

namespace RecordMirror

/-! ### Mappings -/

/-- What is known of the texts of a mapping: what they begin with, and that they are on one line. -/
structure FieldMapping.Plain (mapping : FieldMapping) : Prop where
  name_isWord : isWord mapping.name.toList = true
  declares : ∃ hint, mapping.declaration = mapping.name ++ ": " ++ hint
  stores : ∃ rest, mapping.backward.toList =
      (persistedObject ++ ".").toList ++ (mapping.name.toList ++ rest) ∧
    ∀ c ∈ rest.head?, isWordPart c = false
  declaration_oneLine : OneLine mapping.declaration
  forward_oneLine : OneLine mapping.forward
  backward_oneLine : OneLine mapping.backward

/-- What a statement stores into. -/
def Code.Statement.target : Code.Statement → Code.Expr
  | assign target _ => target
  | fill target _ _ => target
  | fillEach target _ _ _ _ => target

theorem Code.Statement.exists_target_append (store : Code.Statement) :
    ∃ rest, store.render.toList = store.target.render.toList ++ rest ∧
      ∀ c ∈ rest.head?, isWordPart c = false := by
  have hblank : isWordPart ' ' = false := by decide
  have hpoint : isWordPart '.' = false := by decide
  cases store with
  | assign target value =>
      refine ⟨' ' :: '=' :: ' ' :: value.render.toList, ?_, by simpa using hblank⟩
      simp [render, Statement.target]
  | fill target filling source =>
      refine ⟨'.' :: (filling.name ++ "(" ++ source.render ++ ")").toList, ?_,
        by simpa using hpoint⟩
      simp [render, Statement.target]
  | fillEach target filling value item source =>
      refine ⟨'.' :: (filling.name ++ "(" ++ value.render ++ " for " ++ item ++ " in " ++
        source.render ++ ")").toList, ?_, by simpa using hpoint⟩
      simp [render, Statement.target]

theorem Conversion.statement_target (type : TypeExpr) (field : String) :
    (statement type field).target = .member (.name persistedObject) field := by
  cases type with
  | list element | set element =>
      simp only [statement, fillItems]
      split <;> rfl
  | map key value =>
      simp only [statement]
      split <;> rfl
  | primitive | reference | optional => rfl

/-- The texts of a mapping that is settled by a type. -/
theorem FieldMapping.typed_plain (mode : Mode) {name : String} (text : String) {type : TypeExpr}
    (hname : isWord name.toList = true) (htype : type.Proper) :
    (typed mode name text type).Plain where
  name_isWord := hname
  declares := ⟨_, rfl⟩
  stores := by
    obtain ⟨rest, hrest, hend⟩ := (Conversion.statement type name).exists_target_append
    refine ⟨rest, ?_, hend⟩
    change (Conversion.statement type name).render.toList =
      (persistedObject ++ ".").toList ++ (name.toList ++ rest)
    rw [hrest, Conversion.statement_target]
    simp [Code.Expr.render]
  declaration_oneLine := by
    have hhint := (Conversion.hintOf_mirrorSide_wellFormed mode htype).oneLine
    exact oneLine_append.2 ⟨oneLine_append.2 ⟨oneLine_of_isWord hname, by decide⟩, hhint⟩
  forward_oneLine := by
    have hsource : (Code.Expr.member (.name persistedObject) name).WellFormed :=
      ⟨(by decide : isWord persistedObject.toList = true), rfl, hname⟩
    exact (Conversion.forward_wellFormed mode htype hsource rfl 0).oneLine
  backward_oneLine := (Conversion.statement_wellFormed htype hname).oneLine

theorem Plan.Declared.plain {plan : Plan} (h : plan.Declared) :
    ∀ mapping ∈ plan.fields, mapping.Plain := by
  intro mapping hmapping
  obtain ⟨type, hparse, htyped⟩ := h.typed mapping hmapping
  rw [← htyped]
  exact FieldMapping.typed_plain plan.mode mapping.declaredType (h.fields mapping hmapping).1
    (TypeExpr.proper_of_parse hparse)

/-! ### Classes -/

/-- The lines of a class are lines. -/
theorem Plan.oneLine_of_mem_classLines {plan : Plan} (hrecord : isWord plan.record.toList = true)
    (hfields : ∀ mapping ∈ plan.fields, mapping.Plain) :
    ∀ line ∈ classLinesOf plan.record plan.mode plan.fields, OneLine line := by
  have hname : OneLine plan.record := oneLine_of_isWord hrecord
  have hmirror : OneLine (plan.mode.mirrorName plan.record) :=
    oneLine_of_isWord (Conversion.mirrorName_isWord plan.mode hrecord)
  have hdecorators : ∀ line ∈ plan.mode.style.decorators, OneLine line := by
    cases plan.mode <;> decide
  have hdeclarations : ∀ mapping ∈ plan.fields, OneLine ("    " ++ mapping.declaration) :=
    fun mapping hmapping =>
      oneLine_append.2 ⟨by decide, (hfields mapping hmapping).declaration_oneLine⟩
  have harguments : ∀ mapping ∈ plan.fields,
      OneLine ("            " ++ mapping.name ++ "=" ++ mapping.forward ++ ",") := by
    intro mapping hmapping
    have hplain := hfields mapping hmapping
    simp only [oneLine_append, oneLine_of_isWord hplain.name_isWord, hplain.forward_oneLine]
    decide
  have hstatements : ∀ mapping ∈ plan.fields, OneLine ("        " ++ mapping.backward) :=
    fun mapping hmapping =>
      oneLine_append.2 ⟨by decide, (hfields mapping hmapping).backward_oneLine⟩
  have hspace : ∀ line ∈ if plan.fields.isEmpty then [] else [""], OneLine line := by
    split <;> decide
  have hcall : ∀ line ∈ if plan.fields.isEmpty then ["        return cls()"]
      else ["        return cls("] ++ plan.fields.map (fun mapping =>
        "            " ++ mapping.name ++ "=" ++ mapping.forward ++ ",") ++
        ["        )"], OneLine line := by
    split
    · decide
    · rw [List.forall_mem_append, List.forall_mem_append, List.forall_mem_map]
      exact ⟨⟨by decide, harguments⟩, by decide⟩
  have hheading : OneLine ("class " ++ plan.mode.mirrorName plan.record ++ ":") := by
    simp only [oneLine_append, hmirror]
    decide
  have hconstructor : OneLine ("    def from_persisted(cls, " ++ persistedObject ++ ": " ++
      plan.record ++ ") -> " ++ plan.mode.mirrorName plan.record ++ ":") := by
    simp only [oneLine_append, hname, hmirror]
    decide
  have hbuilder : OneLine ("    def build_persisted_object(self) -> " ++ plan.record ++ ":") := by
    simp only [oneLine_append, hname]
    decide
  have hfresh : OneLine ("        " ++ persistedObject ++ " = " ++ plan.record ++ "()") := by
    simp only [oneLine_append, hname]
    decide
  simp only [classLinesOf, List.forall_mem_append, List.forall_mem_map, List.forall_mem_cons,
    List.not_mem_nil, false_implies, implies_true, and_true]
  exact ⟨⟨⟨⟨⟨⟨⟨⟨hdecorators, hheading⟩, hdeclarations⟩, hspace⟩, by decide, hconstructor⟩, hcall⟩,
    by decide, hbuilder, hfresh⟩, hstatements⟩, by decide⟩

/-! ### Imports -/

theorem ModuleText.oneLine_header {label : Option String} (h : ∀ text ∈ label, OneLine text) :
    OneLine (header label) := by
  unfold header
  cases label with
  | none => exact oneLine_append.2 (by decide)
  | some text =>
      have hsource : OneLine (if text.isEmpty then "" else " from " ++ text) := by
        split
        · decide
        · exact oneLine_append.2 ⟨by decide, h text rfl⟩
      exact oneLine_append.2 ⟨oneLine_append.2 ⟨by decide, hsource⟩, by decide⟩

theorem Build.oneLine_of_isModuleName {name : String} (h : isModuleName name = true) :
    OneLine name := by
  rw [OneLine, Path.mem_splitOn (by decide : '\n' ≠ '.')]
  rintro ⟨piece, hpiece, hmem⟩
  have hpart := List.all_eq_true.1 h _ (List.mem_map_of_mem hpiece)
  rw [Bool.and_eq_true] at hpart
  have hchar := isIdentifierPart_of_isIdentifier hpart.1 (by rwa [String.toList_ofList])
  exact absurd hchar (by decide)

namespace Code

theorem Import.oneLine_render {i : Import} (hsource : OneLine i.source)
    (hnames : ∀ name ∈ i.names, OneLine name) : OneLine i.render := by
  have hseparator : OneLine ", " := by decide
  simp only [render, oneLine_append, hsource, oneLine_intercalate hseparator hnames]
  decide

theorem Module.oneLine_of_mem_imports {persistentModule : Option String} {plans : List Plan}
    (hmodule : ∀ name ∈ persistentModule, OneLine name)
    (hrecords : ∀ plan ∈ plans, OneLine plan.record) :
    ∀ i ∈ (ofPlans persistentModule plans).imports.flatten, OneLine i.render := by
  have hfixed : ∀ i ∈ annotationsImport :: observableImport :: neededImports,
      OneLine i.source ∧ ∀ name ∈ i.names, OneLine name := by
    decide
  have hnames : ∀ i ∈ (ofPlans persistentModule plans).imports.flatten,
      ∀ name ∈ i.names, OneLine name :=
    forall_imported (fun i hi => (hfixed i hi).2) hrecords
  intro i hi
  refine Import.oneLine_render ?_ (hnames i hi)
  rcases mem_imports hi with hi | ⟨name, hname, rfl⟩
  · exact (hfixed i hi).1
  · exact hmodule name hname

end Code

/-! ### Modules -/

theorem Code.Module.oneLine_of_mem_lines {plans : List Plan} {persistentModule : Option String}
    (hmodule : ∀ name ∈ persistentModule, Build.isModuleName name = true)
    (hplans : ∀ plan ∈ plans, plan.Declared) :
    ∀ line ∈ (ofPlans persistentModule plans).lines, OneLine line := by
  have hempty : OneLine "" := by decide
  have himports := oneLine_of_mem_imports
    (fun name hname => Build.oneLine_of_isModuleName (hmodule name hname))
    fun plan hplan => oneLine_of_isWord (hplans plan hplan).record_isWord
  intro line hline
  rcases List.mem_append.1 hline with hline | hline
  · obtain ⟨group, hgroup, hline⟩ := List.mem_flatMap.1 hline
    rcases List.mem_cons.1 hline with rfl | hline
    · exact hempty
    · obtain ⟨i, hi, rfl⟩ := List.mem_map.1 hline
      exact himports i (List.mem_flatten.2 ⟨group, hgroup, hi⟩)
  · obtain ⟨c, hc, hline⟩ := List.mem_flatMap.1 hline
    obtain ⟨plan, hplan, rfl⟩ := List.mem_map.1 hc
    have hdeclared := hplans plan hplan
    rw [← hdeclared.typed.classLinesOf_eq] at hline
    rcases List.mem_cons.1 hline with rfl | hline
    · exact hempty
    · rcases List.mem_cons.1 hline with rfl | hline
      · exact hempty
      · exact Plan.oneLine_of_mem_classLines hdeclared.record_isWord hdeclared.plain line hline

end RecordMirror
