import RecordMirror.Proofs.Code.LegalName
/-!
Which names in a generated module can be written there.  The words of schemas are more than the
identifiers of the generated code, and only declared names are kept from being reserved words, so
some of the names that a schema brings in can be neither.
-/

namespace RecordMirror

open Code Conversion

/-- The names that a plan brings into a module are legal.  No other names can be reserved words than
those of keys, and the name of a mirror that is referred to begins with a prefix. -/
structure Plan.NamesLegal (plan : Plan) : Prop where
  record : isIdentifier plan.record = true
  fields : ∀ mapping ∈ plan.fields, isIdentifier mapping.name = true
  references : ∀ mapping ∈ plan.fields, ∀ type, TypeExpr.parse mapping.declaredType = .ok type →
    ∀ record ∈ type.references, ∀ c ∈ record.toList, isIdentifierPart c = true
  keys : ∀ mapping ∈ plan.fields, ∀ type, TypeExpr.parse mapping.declaredType = .ok type →
    ∀ record ∈ type.keyRecords, LegalName record

theorem Plan.tree_field_names_legal_iff {plan : Plan} :
    (∀ field ∈ plan.tree.fields, ∀ name ∈ field.names, LegalName name) ↔
      ∀ mapping ∈ plan.fields, ∀ type, TypeExpr.parse mapping.declaredType = .ok type →
        LegalName mapping.name ∧
          (∀ record ∈ type.references, ∀ c ∈ record.toList, isIdentifierPart c = true) ∧
          ∀ record ∈ type.keyRecords, LegalName record := by
  have hnames : ∀ name type, type.Proper →
      ((∀ n ∈ (MirrorField.ofType plan.mode name type).names, LegalName n) ↔ LegalName name ∧
        (∀ record ∈ type.references, ∀ c ∈ record.toList, isIdentifierPart c = true) ∧
        ∀ record ∈ type.keyRecords, LegalName record) := by
    intro name type hproper
    rw [ofType_names_iff holdsOfLocals_legalName legalName_hintText hproper]
    simp only [legalName_mirrorName_iff]
  constructor
  · intro h mapping hmapping type hparse
    have hfield := h _ (Plan.mem_tree_fields.2 ⟨mapping, hmapping, type, hparse, rfl⟩)
    exact (hnames _ type (TypeExpr.proper_of_parse hparse)).1 hfield
  · intro h field hfield
    obtain ⟨mapping, hmapping, type, hparse, rfl⟩ := Plan.mem_tree_fields.1 hfield
    exact (hnames _ type (TypeExpr.proper_of_parse hparse)).2 (h mapping hmapping type hparse)

theorem Plan.Declared.tree_names_legal_iff {plan : Plan} (h : plan.Declared) :
    (∀ name ∈ plan.tree.names, LegalName name) ↔ plan.NamesLegal := by
  have hname : plan.tree.name = plan.mode.mirrorName plan.record := rfl
  have hrecord : plan.tree.record = plan.record := rfl
  rw [MirrorClass.names, List.forall_mem_cons, List.forall_mem_cons, List.forall_mem_flatMap,
    tree_field_names_legal_iff, hname, hrecord, legalName_mirrorName_iff]
  constructor
  · rintro ⟨-, hlegal, hfields⟩
    refine ⟨hlegal.identifier, ?_, ?_, ?_⟩
    · intro mapping hmapping
      obtain ⟨type, hparse, -⟩ := h.typed mapping hmapping
      exact (hfields mapping hmapping type hparse).1.identifier
    · exact fun mapping hmapping type hparse => (hfields mapping hmapping type hparse).2.1
    · exact fun mapping hmapping type hparse => (hfields mapping hmapping type hparse).2.2
  · rintro ⟨hidentifier, hfields, hreferences, hkeys⟩
    refine ⟨fun c hc => isIdentifierPart_of_isIdentifier hidentifier hc,
      ⟨hidentifier, h.record_free.not_reserved⟩, ?_⟩
    intro mapping hmapping type hparse
    exact ⟨⟨hfields mapping hmapping, (h.fields mapping hmapping).2.not_reserved⟩,
      hreferences mapping hmapping type hparse, hkeys mapping hmapping type hparse⟩

theorem legalName_fixed : ∀ i ∈ annotationsImport :: observableImport :: neededImports,
    ∀ name ∈ i.names, LegalName name := by
  decide

/-- The names in the module of some plans are legal exactly if those are that the plans bring in. -/
theorem Module.names_legal_iff {persistentModule : Option String} {plans : List Plan}
    (h : ∀ plan ∈ plans, plan.Declared) :
    (∀ name ∈ (Module.ofPlans persistentModule plans).names, LegalName name) ↔
      ∀ plan ∈ plans, plan.NamesLegal := by
  have hclasses : (∀ c ∈ plans.map Plan.tree, ∀ name ∈ c.names, LegalName name) ↔
      ∀ plan ∈ plans, plan.NamesLegal := by
    rw [List.forall_mem_map]
    exact forall₂_congr fun plan hplan => (h plan hplan).tree_names_legal_iff
  rw [Module.names, List.forall_mem_append, List.forall_mem_flatMap, List.forall_mem_flatMap]
  constructor
  · rintro ⟨-, hnames⟩
    exact hclasses.1 hnames
  · intro hlegal
    refine ⟨Module.forall_imported legalName_fixed ?_, hclasses.2 hlegal⟩
    intro plan hplan
    exact ⟨(hlegal plan hplan).record, (h plan hplan).record_free.not_reserved⟩

/-- Every source that compiles has plans whose module has the text of a tree.  No record, field or
mirror in it has a reserved word for a name, and all names in it are legal exactly if records and
fields are named by identifiers, records that are referred to by what can go on an identifier, and
keys by legal names. -/
theorem moduleOfSource_names_legal_iff {options : PlanOptions} {persistentModule : Option String}
    {source text : String} (h : moduleOfSource options persistentModule source = .ok text) :
    ∃ plans, Plan.ofSource options source = .ok plans ∧
      (Module.ofPlans persistentModule plans).render (ModuleText.header (some options.label)) =
        text ∧
      (∀ plan ∈ plans, plan.record ∉ reservedWords ∧
        plan.mode.mirrorName plan.record ∉ reservedWords ∧
        ∀ mapping ∈ plan.fields, mapping.name ∉ reservedWords) ∧
      ((∀ name ∈ (Module.ofPlans persistentModule plans).names, LegalName name) ↔
        ∀ plan ∈ plans, plan.NamesLegal) := by
  obtain ⟨plans, hplans, htext⟩ := moduleOfSource_eq_ok_iff.1 h
  have hdeclared := (Plan.declared_of_ofSource hplans).1
  refine ⟨plans, hplans, htext, ?_, Module.names_legal_iff hdeclared⟩
  intro plan hplan
  refine ⟨(hdeclared plan hplan).record_free.not_reserved, mirrorName_not_reserved _ _, ?_⟩
  intro mapping hmapping
  exact ((hdeclared plan hplan).fields mapping hmapping).2.not_reserved

/-- A source with a reference, a container of them, and a record for a key. -/
def peopleSource : String :=
  "@mirror record Person \x7b @persisted friends: Map<City, List<Person?>> \x7d" ++
    " record City \x7b \x7d"

theorem moduleOfSource_names_legal_iff_people :
    ∃ text plans, moduleOfSource {} (some "models") peopleSource = .ok text ∧
      Plan.ofSource {} peopleSource = .ok plans ∧
      (∀ name ∈ (Module.ofPlans (some "models") plans).names, LegalName name) ∧
      ∀ plan ∈ plans, plan.NamesLegal := by
  have hlegal : (Plan.ofSource {} peopleSource).toOption.any fun plans =>
      decide (∀ name ∈ (Module.ofPlans (some "models") plans).names, LegalName name) := by
    decide +kernel
  cases hplans : Plan.ofSource {} peopleSource with
  | error e =>
      rw [hplans] at hlegal
      cases hlegal
  | ok plans =>
      have hmodule := moduleOfSource_of_plans (some "models") hplans
      obtain ⟨plans', hplans', -, -, hiff⟩ := moduleOfSource_names_legal_iff hmodule
      obtain rfl : plans = plans' := Except.ok.inj (hplans.symm.trans hplans')
      rw [hplans] at hlegal
      have hnames := of_decide_eq_true hlegal
      exact ⟨_, plans, hmodule, rfl, hnames, hiff.1 hnames⟩

/-- A numeral that words hold and identifiers do not is kept in the name of a record, and a reserved
word is kept as the name of a key.  Both sources compile. -/
theorem compiles_illegal_names :
    ((moduleOfSource {} none "@mirror record A² \x7b @persisted x: Int \x7d").isOk = true ∧
      ∃ plans, Plan.ofSource {} "@mirror record A² \x7b @persisted x: Int \x7d" = .ok plans ∧
        "A²" ∈ (Module.ofPlans none plans).names ∧ ¬ LegalName "A²") ∧
    ((moduleOfSource {} none "@mirror record A \x7b @persisted x: Map<class, Int> \x7d").isOk =
        true ∧
      ∃ plans,
        Plan.ofSource {} "@mirror record A \x7b @persisted x: Map<class, Int> \x7d" = .ok plans ∧
          "class" ∈ (Module.ofPlans none plans).names ∧ ¬ LegalName "class") := by
  have hnumeral : Plan.ofSource {} "@mirror record A² \x7b @persisted x: Int \x7d" =
      .ok [⟨"A²", "ReadonlyA²", .readonly, [⟨"x", "Int", .primitive, "x: int",
        "persisted_object.x", "persisted_object.x = self.x", []⟩]⟩] := by
    decide +kernel
  have hreserved : Plan.ofSource {} "@mirror record A \x7b @persisted x: Map<class, Int> \x7d" =
      .ok [⟨"A", "ReadonlyA", .readonly, [⟨"x", "Map<class, Int>", .map,
        "x: immutabledict[class, int]", "immutabledict(persisted_object.x)",
        "persisted_object.x.update(self.x)",
        ["from immutabledict import immutabledict"]⟩]⟩] := by
    decide +kernel
  refine ⟨⟨?_, _, hnumeral, ?_, ?_⟩, ⟨?_, _, hreserved, ?_, ?_⟩⟩
  · rw [moduleOfSource_of_plans none hnumeral]
    rfl
  · decide +kernel
  · decide +kernel
  · rw [moduleOfSource_of_plans none hreserved]
    rfl
  · decide +kernel
  · decide +kernel

end RecordMirror
