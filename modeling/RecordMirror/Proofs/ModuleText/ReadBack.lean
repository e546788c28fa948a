import RecordMirror.Proofs.Mode
import RecordMirror.Proofs.ModuleText.Lines
import RecordMirror.Proofs.Token.Written
/-!
Reading a module back.  Each line of a module shows by its indentation and its beginning whether it
heads a class, belongs to a field, or is layout.  So the text of a module tells the record and the
mode of each class, and the names, annotations, expressions and statements of its fields.
-/

namespace RecordMirror

/-! ### What a module shows -/

/-- The parts of a class that have a line for each field. -/
inductive ClassPart
  | declarations
  | arguments
  | statements
deriving DecidableEq, Repr

/-- A line of a class that belongs to a field. -/
structure FieldLine where
  part : ClassPart
  field : String
  text : String
deriving DecidableEq, Repr

/-- A class as the lines of a module show it: its record, its mode, and the lines of its fields. -/
structure ShownClass where
  mode : Mode
  record : String
  lines : List FieldLine
deriving DecidableEq, Repr

namespace ShownClass

/-- The lines that a part of a class has for its fields. -/
def linesOf (c : ShownClass) (part : ClassPart) : List FieldLine :=
  c.lines.filter (·.part = part)

/-- The fields of a class: a name, a declaration, an expression and a statement for each, where the
parts of the class line up. -/
def fields (c : ShownClass) : List (String × String × String × String) :=
  ((c.linesOf .declarations).zip ((c.linesOf .arguments).zip (c.linesOf .statements))).map
    fun (declaration, argument, statement) =>
      (declaration.field, declaration.text, argument.text, statement.text)

end ShownClass

/-- What a line of a module shows, apart from layout. -/
inductive ShownLine
  | heading (mode : Mode) (record : String)
  | field (line : FieldLine)
deriving DecidableEq, Repr

namespace ShownLine

/-- The word that a text begins with. -/
def leadingWord (text : List Char) : String :=
  String.ofList (text.takeWhile isWordPart)

/-- A line without indentation heads a class, or is a decorator, an import, a comment or empty. -/
def ofHeading? (body : List Char) : Option ShownLine := do
  let name ← body.dropPrefix? "class ".toList
  let (mode, record) ← Mode.ofMirrorName? (leadingWord name)
  return heading mode record

/-- In a class, a word before a colon declares a field. -/
def ofMember? (body : List Char) : Option ShownLine :=
  match body.dropWhile isWordPart with
  | ':' :: _ => some (field ⟨.declarations, leadingWord body, String.ofList body⟩)
  | _ => none

/-- In a method, what begins with an attribute of the record stores into it. -/
def ofStatement? (body : List Char) : Option ShownLine := do
  let target ← body.dropPrefix? (persistedObject ++ ".").toList
  return field ⟨.statements, leadingWord target, String.ofList body⟩

/-- In a call, a word before an equals sign is the argument of a field, up to the comma. -/
def ofArgument? (body : List Char) : Option ShownLine :=
  match body.dropWhile isWordPart with
  | '=' :: value => some (field ⟨.arguments, leadingWord body, String.ofList value.dropLast⟩)
  | _ => none

/-- What is shown by a line with an indentation and what comes after it. -/
def ofIndented? (indentation : Nat) (body : List Char) : Option ShownLine :=
  if indentation = 0 then ofHeading? body
  else if indentation = 4 then ofMember? body
  else if indentation = 8 then ofStatement? body
  else if indentation = 12 then ofArgument? body
  else none

/-- What a line shows, by itself. -/
def ofLine? (line : List Char) : Option ShownLine :=
  ofIndented? (line.takeWhile (· == ' ')).length (line.dropWhile (· == ' '))

/-- Puts a line before what comes after it: the lines of fields up to the next heading, and the
classes from there on. -/
def before : ShownLine → List FieldLine × List ShownClass → List FieldLine × List ShownClass
  | heading mode record, (lines, classes) => ([], ⟨mode, record, lines⟩ :: classes)
  | field line, (lines, classes) => (line :: lines, classes)

end ShownLine

/-- The classes that a text shows, each from its heading on. -/
def shownClasses (text : String) : List ShownClass :=
  (((text.toList.splitOn '\n').filterMap ShownLine.ofLine?).foldr ShownLine.before ([], [])).2

/-- What is shown of a plan: its record, its mode, and a line for each field in each part, in
order. -/
def Plan.shown (plan : Plan) : ShownClass where
  mode := plan.mode
  record := plan.record
  lines :=
    plan.fields.map (fun field => ⟨.declarations, field.name, field.declaration⟩) ++
    plan.fields.map (fun field => ⟨.arguments, field.name, field.forward⟩) ++
    plan.fields.map fun field => ⟨.statements, field.name, field.backward⟩

/-- What a class writes of a field: its name, declaration, expression and statement. -/
def FieldMapping.written (mapping : FieldMapping) : String × String × String × String :=
  (mapping.name, mapping.declaration, mapping.forward, mapping.backward)

/-- What a module writes of a plan: its record, its mode and its fields. -/
def Plan.written (plan : Plan) : String × Mode × List (String × String × String × String) :=
  (plan.record, plan.mode, plan.fields.map FieldMapping.written)

namespace Plan

theorem linesOf_shown (plan : Plan) :
    plan.shown.linesOf .declarations =
        plan.fields.map (fun field => ⟨.declarations, field.name, field.declaration⟩) ∧
      plan.shown.linesOf .arguments =
        plan.fields.map (fun field => ⟨.arguments, field.name, field.forward⟩) ∧
      plan.shown.linesOf .statements =
        plan.fields.map (fun field => ⟨.statements, field.name, field.backward⟩) := by
  simp [ShownClass.linesOf, shown, List.filter_map, Function.comp_def]

theorem fields_shown (plan : Plan) : plan.shown.fields = plan.fields.map FieldMapping.written := by
  obtain ⟨hdeclarations, harguments, hstatements⟩ := plan.linesOf_shown
  rw [ShownClass.fields, hdeclarations, harguments, hstatements, List.zip_map', List.zip_map',
    List.map_map]
  rfl

end Plan

/-! ### Lines -/

namespace ShownLine

theorem ofLine?_comment (rest : List Char) :
    ofLine? ("# Generated by mirrorgen".toList ++ rest) = none := rfl

theorem ofLine?_import (rest : List Char) : ofLine? ("from ".toList ++ rest) = none := rfl

theorem ofLine?_constructor (rest : List Char) :
    ofLine? ("    def from_persisted(cls, ".toList ++ rest) = none := rfl

theorem ofLine?_builder (rest : List Char) :
    ofLine? ("    def build_persisted_object(self) -> ".toList ++ rest) = none := rfl

theorem ofLine?_freshRecord (rest : List Char) :
    ofLine? (("        " ++ persistedObject ++ " = ").toList ++ rest) = none := rfl

theorem ofLine?_indented (indentation : Nat) {body : List Char} (h : ∀ c ∈ body.head?, c ≠ ' ') :
    ofLine? (List.replicate indentation ' ' ++ body) = ofIndented? indentation body := by
  have hblanks : ∀ c ∈ List.replicate indentation ' ', (c == ' ') = true := by
    simp
  have hbody : ∀ c ∈ body.head?, (c == ' ') = false := by
    simpa using h
  rw [ofLine?, takeWhile_stretch hblanks hbody, dropWhile_stretch hblanks hbody,
    List.length_replicate]

theorem leadingWord_append {word : String} (hword : isWord word.toList = true) {rest : List Char}
    (hrest : ∀ c ∈ rest.head?, isWordPart c = false) :
    leadingWord (word.toList ++ rest) = word := by
  rw [leadingWord, takeWhile_stretch (fun c hc => isWordPart_of_mem hword hc) hrest,
    String.ofList_toList]

theorem head?_word_ne_blank {word : String} (hword : isWord word.toList = true)
    (rest : List Char) : ∀ c ∈ (word.toList ++ rest).head?, c ≠ ' ' := by
  rintro c hc rfl
  cases hlist : word.toList with
  | nil =>
      rw [hlist] at hword
      cases hword
  | cons first others =>
      rw [hlist, List.cons_append, List.head?_cons, Option.mem_some_iff] at hc
      have hpart : isWordPart first = true :=
        isWordPart_of_mem hword (by rw [hlist]; exact List.mem_cons_self)
      rw [hc] at hpart
      exact absurd hpart (by decide)

theorem ofLine?_heading (mode : Mode) {record : String} (h : isWord record.toList = true) :
    ofLine? ("class " ++ mode.mirrorName record ++ ":").toList = some (heading mode record) := by
  have hline : ("class " ++ mode.mirrorName record ++ ":").toList =
      List.replicate 0 ' ' ++ ("class ".toList ++ ((mode.mirrorName record).toList ++ [':'])) := by
    simp
  have hend : ∀ c ∈ [':'].head?, isWordPart c = false := by
    simpa using by decide
  have hname : leadingWord ((mode.mirrorName record).toList ++ [':']) = mode.mirrorName record :=
    leadingWord_append (Conversion.mirrorName_isWord mode h) hend
  rw [hline, ofLine?_indented 0 (by simp)]
  change ofHeading? _ = _
  rw [ofHeading?, List.dropPrefix?_append_of_beq _ (beq_self_eq_true _), Option.bind_eq_bind,
    Option.bind_some, hname, Mode.ofMirrorName?_mirrorName]
  rfl

theorem ofLine?_declaration {mapping : FieldMapping} (h : mapping.Plain) :
    ofLine? ("    " ++ mapping.declaration).toList =
      some (field ⟨.declarations, mapping.name, mapping.declaration⟩) := by
  obtain ⟨hint, hdeclaration⟩ := h.declares
  have hbody : mapping.declaration.toList = mapping.name.toList ++ ':' :: ' ' :: hint.toList := by
    simp [hdeclaration]
  have hend : ∀ c ∈ (':' :: ' ' :: hint.toList).head?, isWordPart c = false := by
    simpa using by decide
  have hline : ("    " ++ mapping.declaration).toList =
      List.replicate 4 ' ' ++ (mapping.name.toList ++ ':' :: ' ' :: hint.toList) := by
    rw [String.toList_append, hbody]
    rfl
  rw [hline, ofLine?_indented 4 (head?_word_ne_blank h.name_isWord _)]
  change ofMember? _ = _
  rw [ofMember?, dropWhile_stretch (fun c hc => isWordPart_of_mem h.name_isWord hc) hend,
    leadingWord_append h.name_isWord hend, ← hbody, String.ofList_toList]
  rfl

theorem ofLine?_argument {mapping : FieldMapping} (h : mapping.Plain) :
    ofLine? ("            " ++ mapping.name ++ "=" ++ mapping.forward ++ ",").toList =
      some (field ⟨.arguments, mapping.name, mapping.forward⟩) := by
  let value := mapping.forward.toList ++ [',']
  have hend : ∀ c ∈ ('=' :: value).head?, isWordPart c = false := by
    simpa using by decide
  have hline : ("            " ++ mapping.name ++ "=" ++ mapping.forward ++ ",").toList =
      List.replicate 12 ' ' ++ (mapping.name.toList ++ '=' :: value) := by
    simp [value]
  rw [hline, ofLine?_indented 12 (head?_word_ne_blank h.name_isWord _)]
  change ofArgument? _ = _
  rw [ofArgument?, dropWhile_stretch (fun c hc => isWordPart_of_mem h.name_isWord hc) hend,
    leadingWord_append h.name_isWord hend]
  change some (field ⟨_, _, String.ofList (mapping.forward.toList ++ [',']).dropLast⟩) = _
  rw [List.dropLast_concat, String.ofList_toList]

theorem ofLine?_statement {mapping : FieldMapping} (h : mapping.Plain) :
    ofLine? ("        " ++ mapping.backward).toList =
      some (field ⟨.statements, mapping.name, mapping.backward⟩) := by
  obtain ⟨rest, hbackward, hend⟩ := h.stores
  have hline : ("        " ++ mapping.backward).toList =
      List.replicate 8 ' ' ++ mapping.backward.toList := by
    simp
  have hhead : ∀ c ∈ mapping.backward.toList.head?, c ≠ ' ' := by
    rw [hbackward]
    simpa using by decide
  rw [hline, ofLine?_indented 8 hhead]
  change ofStatement? _ = _
  have htarget : mapping.backward.toList.dropPrefix? (persistedObject ++ ".").toList =
      some (mapping.name.toList ++ rest) := by
    rw [hbackward]
    exact List.dropPrefix?_append_of_beq _ (beq_self_eq_true _)
  rw [ofStatement?, htarget, Option.bind_eq_bind, Option.bind_some,
    leadingWord_append h.name_isWord hend, String.ofList_toList]
  rfl

/-- The lines that some mappings have in a part of a class. -/
theorem filterMap_fields {mappings : List FieldMapping} {write : FieldMapping → String}
    {line : FieldMapping → FieldLine}
    (h : ∀ mapping ∈ mappings, ofLine? (write mapping).toList = some (field (line mapping))) :
    ((mappings.map write).map String.toList).filterMap ofLine? = (mappings.map line).map field := by
  rw [List.map_map, List.map_map, List.filterMap_map, ← List.filterMap_eq_map]
  exact List.filterMap_congr h

/-- The lines of a class show its heading and the lines of its fields, and nothing else. -/
theorem filterMap_classLines {plan : Plan} (hrecord : isWord plan.record.toList = true)
    (hfields : ∀ mapping ∈ plan.fields, mapping.Plain) :
    ((Plan.classLinesOf plan.record plan.mode plan.fields).map String.toList).filterMap ofLine? =
      heading plan.mode plan.record :: plan.shown.lines.map field := by
  have hdecorators : (plan.mode.style.decorators.map String.toList).filterMap ofLine? = [] := by
    cases plan.mode <;> rfl
  have hconstructor : ofLine? ("    def from_persisted(cls, " ++ persistedObject ++ ": " ++
      plan.record ++ ") -> " ++ plan.mode.mirrorName plan.record ++ ":").toList = none := by
    simp only [String.append_assoc]
    rw [String.toList_append, ofLine?_constructor]
  have hbuilder : ofLine? ("    def build_persisted_object(self) -> " ++ plan.record ++
      ":").toList = none := by
    rw [String.append_assoc, String.toList_append, ofLine?_builder]
  have hfresh : ofLine? ("        " ++ persistedObject ++ " = " ++ plan.record ++ "()").toList =
      none := by
    rw [String.append_assoc, String.toList_append, ofLine?_freshRecord]
  have hmember : ofLine? "    @classmethod".toList = none := rfl
  have hblank : ofLine? "".toList = none := rfl
  have hreturn : ofLine? ("        return " ++ persistedObject).toList = none := rfl
  have hdeclarations := filterMap_fields fun mapping hmapping =>
    ofLine?_declaration (hfields mapping hmapping)
  have harguments := filterMap_fields fun mapping hmapping =>
    ofLine?_argument (hfields mapping hmapping)
  have hstatements := filterMap_fields fun mapping hmapping =>
    ofLine?_statement (hfields mapping hmapping)
  have hspace : ((if plan.fields.isEmpty then [] else [""]).map String.toList).filterMap ofLine? =
      [] := by
    split <;> rfl
  -- Without fields the constructor has its call on one line.
  have hcall : ((if plan.fields.isEmpty then ["        return cls()"]
      else ["        return cls("] ++ plan.fields.map (fun mapping =>
        "            " ++ mapping.name ++ "=" ++ mapping.forward ++ ",") ++
        ["        )"]).map String.toList).filterMap ofLine? =
      (plan.fields.map fun mapping =>
        ⟨.arguments, mapping.name, mapping.forward⟩).map field := by
    split
    · rename_i hempty
      rw [List.isEmpty_iff.1 hempty]
      rfl
    · rw [List.map_append, List.map_append, List.filterMap_append, List.filterMap_append,
        harguments]
      exact List.append_nil _
  simp only [Plan.classLinesOf, List.map_append, List.filterMap_append, List.map_cons, List.map_nil,
    List.filterMap_cons, List.filterMap_nil, hdecorators, ofLine?_heading plan.mode hrecord,
    hdeclarations, hspace, hmember, hconstructor, hcall, hblank, hbuilder, hfresh, hstatements,
    hreturn]
  simp only [Plan.shown, List.map_append, List.nil_append, List.append_nil, List.cons_append]

/-! ### Classes -/

theorem foldr_before_fields (lines : List FieldLine)
    (after : List FieldLine × List ShownClass) :
    (lines.map field).foldr before after = (lines ++ after.1, after.2) := by
  induction lines with
  | nil => rfl
  | cons line rest ih =>
      rw [List.map_cons, List.foldr_cons, ih]
      rfl

theorem foldr_before_classes (classes : List ShownClass) :
    (classes.flatMap fun c => heading c.mode c.record :: c.lines.map field).foldr before ([], []) =
      ([], classes) := by
  induction classes with
  | nil => rfl
  | cons c rest ih =>
      rw [List.flatMap_cons, List.foldr_append, ih, List.foldr_cons, foldr_before_fields]
      simp [before]

end ShownLine

/-! ### Imports -/

theorem ShownLine.ofLine?_header (label : Option String) :
    ofLine? (ModuleText.header label).toList = none := by
  unfold ModuleText.header
  simp only [String.append_assoc]
  rw [String.toList_append, ofLine?_comment]

theorem ShownLine.ofLine?_render (i : Code.Import) : ofLine? i.render.toList = none := by
  rw [Code.Import.render]
  simp only [String.append_assoc]
  rw [String.toList_append, ofLine?_import]

/-! ### Modules -/

namespace Code.Module

variable {plans : List Plan}

/-- The lines of a module show its classes, and nothing else. -/
theorem filterMap_lines (persistentModule : Option String)
    (hplans : ∀ plan ∈ plans, plan.Declared) :
    ((ofPlans persistentModule plans).lines.map String.toList).filterMap ShownLine.ofLine? =
      (plans.map Plan.shown).flatMap fun c =>
        ShownLine.heading c.mode c.record :: c.lines.map ShownLine.field := by
  have hempty : ShownLine.ofLine? "".toList = none := rfl
  have himports : (((ofPlans persistentModule plans).imports.flatMap fun group =>
      "" :: group.map Import.render).map String.toList).filterMap ShownLine.ofLine? = [] := by
    rw [List.filterMap_eq_nil_iff, List.forall_mem_map]
    intro line hline
    obtain ⟨group, -, hline⟩ := List.mem_flatMap.1 hline
    rcases List.mem_cons.1 hline with rfl | hline
    · exact hempty
    · obtain ⟨i, -, rfl⟩ := List.mem_map.1 hline
      exact ShownLine.ofLine?_render i
  rw [lines, List.map_append, List.filterMap_append, himports, List.nil_append, List.map_flatMap,
    List.filterMap_flatMap, List.flatMap_map]
  change (plans.map Plan.tree).flatMap _ = _
  rw [List.flatMap_map]
  apply List.flatMap_congr
  intro plan hplan
  have hdeclared := hplans plan hplan
  rw [← hdeclared.typed.classLinesOf_eq, List.map_cons, List.map_cons,
    List.filterMap_cons_none hempty, List.filterMap_cons_none hempty,
    ShownLine.filterMap_classLines hdeclared.record_isWord hdeclared.plain]
  rfl

/-- The text of a module shows its plans. -/
theorem shownClasses_render {persistentModule label : Option String}
    (hmodule : ∀ name ∈ persistentModule, Build.isModuleName name = true)
    (hlabel : ∀ text ∈ label, OneLine text) (hplans : ∀ plan ∈ plans, plan.Declared) :
    shownClasses ((ofPlans persistentModule plans).render (ModuleText.header label)) =
      plans.map Plan.shown := by
  have hlines : ∀ line ∈ ModuleText.header label :: (ofPlans persistentModule plans).lines,
      OneLine line :=
    List.forall_mem_cons.2 ⟨ModuleText.oneLine_header hlabel, oneLine_of_mem_lines hmodule hplans⟩
  have hend : [[]].filterMap ShownLine.ofLine? = [] := rfl
  rw [shownClasses, render, splitOn_lines (List.cons_ne_nil _ _) hlines, List.filterMap_append,
    hend, List.append_nil, List.map_cons,
    List.filterMap_cons_none (ShownLine.ofLine?_header label),
    filterMap_lines persistentModule hplans, ShownLine.foldr_before_classes]

end Code.Module

/-- A module shows its plans exactly.  The classes of the text are the plans in order, each with its
record and its mode, and each part of a class has the fields of the plan in order, each once.  So
plans whose module has the same text differ in nothing that is written of them. -/
theorem module_shows_plans {options : PlanOptions} {source : String} {plans : List Plan}
    {persistentModule label : Option String} (hplans : Plan.ofSource options source = .ok plans)
    (hmodule : ∀ name ∈ persistentModule, Build.isModuleName name = true)
    (hlabel : ∀ text ∈ label, OneLine text) :
    ∃ text, moduleText ⟨persistentModule, label⟩ plans = .ok text ∧
      shownClasses text = plans.map Plan.shown ∧
      (∀ plan ∈ plans, plan.shown.fields = plan.fields.map FieldMapping.written ∧
        (plan.fields.map (·.name)).Nodup ∧
        ∀ part, (plan.shown.linesOf part).map (·.field) = plan.fields.map (·.name)) ∧
      ∀ options' source' plans', Plan.ofSource options' source' = .ok plans' →
        moduleText ⟨persistentModule, label⟩ plans' = .ok text →
        plans'.map Plan.written = plans.map Plan.written := by
  have hnames := Plan.field_names_nodup_of_ofSource hplans
  have hshown : ∀ {options source plans}, Plan.ofSource options source = .ok plans →
      ∃ text, moduleText ⟨persistentModule, label⟩ plans = .ok text ∧
        shownClasses text = plans.map Plan.shown := by
    intro options source plans hplans
    have hdeclared := (Plan.declared_of_ofSource hplans).1
    exact ⟨_, moduleText_eq fun plan hplan => (hdeclared plan hplan).typed,
      Code.Module.shownClasses_render hmodule hlabel hdeclared⟩
  obtain ⟨text, htext, hclasses⟩ := hshown hplans
  refine ⟨text, htext, hclasses, fun plan hplan => ⟨plan.fields_shown, hnames plan hplan, ?_⟩, ?_⟩
  · intro part
    obtain ⟨hdeclarations, harguments, hstatements⟩ := plan.linesOf_shown
    cases part <;> simp [hdeclarations, harguments, hstatements]
  · intro options' source' plans' hplans' htext'
    obtain ⟨_, htext'', hclasses'⟩ := hshown hplans'
    obtain rfl := Except.ok.inj (htext'.symm.trans htext'')
    have hread : ∀ plans : List Plan, plans.map Plan.written = (plans.map Plan.shown).map
        fun c => (c.record, c.mode, c.fields) := by
      intro plans
      rw [List.map_map]
      refine List.map_congr_left fun plan _ => ?_
      rw [Function.comp_apply, plan.fields_shown]
      rfl
    rw [hread, hread, ← hclasses, ← hclasses']

/-- A record with fields of all kinds in both modes, and one without fields. -/
theorem module_shows_plans_pens :
    let source := "@mirror @mirror(observable) record Pen \x7b @persisted box: Box? " ++
      "@persisted marks: Map<String, List<Box>> \x7d @mirror(observable) record Box \x7b \x7d"
    let options : ModuleOptions := ⟨some "office.models", some "pens.mirror"⟩
    Build.isModuleName "office.models" = true ∧ OneLine "pens.mirror" ∧
      ∃ plans text, Plan.ofSource {} source = .ok plans ∧ moduleText options plans = .ok text ∧
        shownClasses text = plans.map Plan.shown ∧
        plans.map (fun plan => (plan.mirror, plan.fields.map (·.name))) =
          [("ReadonlyPen", ["box", "marks"]), ("ObservablePen", ["box", "marks"]),
            ("ObservableBox", [])] := by
  intro source options
  have hmodule : Build.isModuleName "office.models" = true := by decide
  have hlabel : OneLine "pens.mirror" := by decide
  have hmirrors : (Plan.ofSource {} source).map
      (List.map fun plan => (plan.mirror, plan.fields.map (·.name))) =
        .ok [("ReadonlyPen", ["box", "marks"]), ("ObservablePen", ["box", "marks"]),
          ("ObservableBox", [])] := by
    decide +kernel
  obtain ⟨plans, hplans, hfields⟩ := map_eq_ok.1 hmirrors
  have hmodules : ∀ name ∈ options.persistentModule, Build.isModuleName name = true := by
    simpa [options] using hmodule
  have hlabels : ∀ text ∈ options.label, OneLine text := by
    simpa [options] using hlabel
  obtain ⟨text, htext, hclasses, -⟩ := module_shows_plans hplans hmodules hlabels
  exact ⟨hmodule, hlabel, plans, text, hplans, htext, hclasses, hfields⟩

end RecordMirror
