import RecordMirror.Proofs.Plan.Order
import RecordMirror.Proofs.Plan.References
/-!
Strict references.  They are a filter: a schema is planned in the same way, if every reference of a
planned field leads to a record that is planned in the same mode, and is refused otherwise.
References to enumerations are refused with and without them.
-/

namespace RecordMirror

/-- A type refers to a record in value position: at any depth, but not as the key of a map. -/
inductive TypeExpr.RefersTo : TypeExpr → String → Prop
  | reference (record : String) : RefersTo (.reference record) record
  | optional {inner : TypeExpr} {record : String} :
      RefersTo inner record → RefersTo (.optional inner) record
  | list {element : TypeExpr} {record : String} :
      RefersTo element record → RefersTo (.list element) record
  | set {element : TypeExpr} {record : String} :
      RefersTo element record → RefersTo (.set element) record
  | value {key value : TypeExpr} {record : String} :
      RefersTo value record → RefersTo (.map key value) record

theorem TypeExpr.mem_references_iff {type : TypeExpr} {record : String} :
    record ∈ type.references ↔ type.RefersTo record := by
  constructor
  · intro h
    induction type with
    | primitive p => cases h
    | optional inner ih => exact .optional (ih h)
    | list element ih => exact .list (ih h)
    | set element ih => exact .set (ih h)
    | map key value _ ih => exact .value (ih h)
    | reference name =>
        cases List.mem_singleton.1 h
        exact .reference record
  · intro h
    induction h with
    | reference name => exact List.mem_singleton_self name
    | optional _ ih => exact ih
    | list _ ih => exact ih
    | set _ ih => exact ih
    | value _ ih => exact ih

namespace Schema

/-- A mirror of a record in a mode is requested. -/
def Requests (schema : Schema) (default : Mode) (record : Record) (mode : Mode) : Prop :=
  record ∈ schema.records ∧ .ok mode ∈ Plan.named default record.mirrors

/-- What the mirrored fields of a record refer to is mirrored in a mode, wherever it is declared. -/
def MirrorsReferences (schema : Schema) (default : Mode) (record : Record) (mode : Mode) : Prop :=
  ∀ field ∈ record.persistedFields, ∀ type, TypeExpr.parse field.declaredType = .ok type →
    ∀ name, type.RefersTo name → ∃ other, schema.Requests default other mode ∧ other.name = name

/-- A name is that of an enumeration. -/
def IsEnum (schema : Schema) (name : String) : Prop :=
  ∃ enum ∈ schema.enums, enum.name = name

/-- The mirrored fields of a record denote types that refer to no enumeration. -/
def MirrorsTypes (schema : Schema) (record : Record) : Prop :=
  ∀ field ∈ record.persistedFields, ∃ type, TypeExpr.parse field.declaredType = .ok type ∧
    ∀ name, type.RefersTo name → ¬ schema.IsEnum name

end Schema

namespace Plan

variable {default : Mode} {schema : Schema} {requests : List (Record × Mode)} {mode : Mode}
  {field : Field} {mapping : FieldMapping}

theorem mem_scopeOf_enums {strict : Bool} {name : String} :
    name ∈ (scopeOf strict schema.enums requests).enums ↔ schema.IsEnum name := by
  simp [scopeOf, Schema.IsEnum]

/-- The mirror that a reference asks for is told by its name, which says record and mode. -/
theorem mirrorName_mem_iff (hresolved : Resolved default schema.records requests) {name : String} :
    (mode.mirrorName name ∈ requests.map fun request => request.2.mirrorName request.1.name) ↔
      ∃ record, schema.Requests default record mode ∧ record.name = name := by
  constructor
  · intro h
    obtain ⟨⟨record, mode'⟩, hrequest, heq⟩ := List.mem_map.1 h
    obtain ⟨rfl, hname⟩ := Mode.mirrorName_injective heq
    exact ⟨record, hresolved.mem_iff.1 hrequest, hname⟩
  · rintro ⟨record, hrequest, rfl⟩
    exact List.mem_map.2 ⟨(record, mode), hresolved.mem_iff.2 hrequest, rfl⟩

/-! ### Scopes -/

theorem refusal?_lax_iff {type : TypeExpr} :
    (scopeOf false schema.enums requests).refusal? mode type = none ↔
      ∀ name, type.RefersTo name → ¬ schema.IsEnum name := by
  simp only [Scope.refusal?_eq_none_iff, mem_scopeOf_enums, TypeExpr.mem_references_iff]
  -- Such a scope asks for no mirrors.
  exact and_iff_left nofun

theorem refusal?_strict_iff (hresolved : Resolved default schema.records requests)
    {type : TypeExpr} :
    (scopeOf true schema.enums requests).refusal? mode type = none ↔
      (∀ name, type.RefersTo name → ¬ schema.IsEnum name) ∧
        ∀ name, type.RefersTo name →
          ∃ record, schema.Requests default record mode ∧ record.name = name := by
  simp only [Scope.refusal?_eq_none_iff, mem_scopeOf_enums, TypeExpr.mem_references_iff]
  refine and_congr_right fun _ => ?_
  simp only [scopeOf, if_pos, Option.some.injEq, forall_eq', mirrorName_mem_iff hresolved]

/-- Of the references of a type to enumerations, the leftmost is told, before any other fault. -/
theorem refusal?_of_enum {strict : Bool} {type : TypeExpr} {name : String}
    (hname : type.RefersTo name) (henum : schema.IsEnum name) :
    ∃ before name after, type.references = before ++ name :: after ∧ schema.IsEnum name ∧
      (∀ other ∈ before, ¬ schema.IsEnum other) ∧
      (scopeOf strict schema.enums requests).refusal? mode type = some (.enumeration name) := by
  let scope := scopeOf strict schema.enums requests
  have hmem : ∀ {name}, scope.enums.contains name = true ↔ schema.IsEnum name := by
    intro name
    rw [List.contains_iff_mem, mem_scopeOf_enums]
  cases hfind : type.references.find? (scope.enums.contains ·) with
  | none =>
      have hnone := List.find?_eq_none.1 hfind name (TypeExpr.mem_references_iff.2 hname)
      exact absurd (hmem.2 henum) hnone
  | some first =>
      obtain ⟨hfirst, before, after, hsplit, hbefore⟩ := List.find?_eq_some_iff_append.1 hfind
      refine ⟨before, first, after, hsplit, hmem.1 hfirst, ?_, ?_⟩
      · intro other hother hother'
        have hnot := hbefore other hother
        rw [hmem.2 hother'] at hnot
        cases hnot
      · simp only [Scope.refusal?]
        rw [hfind]

/-! ### Plans -/

theorem ofField_strict_iff (hresolved : Resolved default schema.records requests) :
    FieldMapping.ofField (scopeOf true schema.enums requests) mode field = .ok mapping ↔
      (∀ type, TypeExpr.parse field.declaredType = .ok type → ∀ name, type.RefersTo name →
        ∃ record, schema.Requests default record mode ∧ record.name = name) ∧
      FieldMapping.ofField (scopeOf false schema.enums requests) mode field = .ok mapping := by
  simp only [FieldMapping.ofField_eq_ok_iff, refusal?_lax_iff, refusal?_strict_iff hresolved]
  constructor
  · rintro ⟨type, hparse, ⟨henums, hmirrors⟩, rfl⟩
    refine ⟨?_, type, hparse, henums, rfl⟩
    intro type' hparse'
    cases hparse.symm.trans hparse'
    exact hmirrors
  · rintro ⟨hmirrors, type, hparse, henums, rfl⟩
    exact ⟨type, hparse, ⟨henums, hmirrors type hparse⟩, rfl⟩

theorem isPlanOf_strict_iff (hresolved : Resolved default schema.records requests)
    {request : Record × Mode} {plan : Plan} :
    IsPlanOf (scopeOf true schema.enums requests) request plan ↔
      schema.MirrorsReferences default request.1 request.2 ∧
        IsPlanOf (scopeOf false schema.enums requests) request plan := by
  simp only [← ofRecord_eq_ok_iff_isPlanOf, ofRecord_eq_ok_iff, ofField_strict_iff hresolved,
    List.forall₂_and_left, and_assoc, exists_and_left]
  rfl

theorem plansOf_strict_iff (hresolved : Resolved default schema.records requests)
    {plans : List Plan} :
    List.Forall₂ (IsPlanOf (scopeOf true schema.enums requests)) requests plans ↔
      List.Forall₂ (IsPlanOf (scopeOf false schema.enums requests)) requests plans ∧
        ∀ record mode, schema.Requests default record mode →
          schema.MirrorsReferences default record mode := by
  constructor
  · intro h
    obtain ⟨hmirrored, hplans⟩ :=
      (List.forall₂_and_left requests plans).1 (h.imp fun _ _ => (isPlanOf_strict_iff hresolved).1)
    exact ⟨hplans, fun record mode hrequest =>
      hmirrored (record, mode) (hresolved.mem_iff.2 hrequest)⟩
  · rintro ⟨hplans, hmirrored⟩
    have hrequested : ∀ request ∈ requests,
        schema.MirrorsReferences default request.1 request.2 :=
      fun request hrequest => hmirrored _ _ (hresolved.mem_iff.1 hrequest)
    exact ((List.forall₂_and_left requests plans).2 ⟨hrequested, hplans⟩).imp
      fun _ _ => (isPlanOf_strict_iff hresolved).2

theorem exists_isPlanOf_lax_iff {request : Record × Mode} :
    (∃ plan, IsPlanOf (scopeOf false schema.enums requests) request plan) ↔
      schema.MirrorsTypes request.1 := by
  have hfield : ∀ field, (∃ mapping, FieldMapping.ofField (scopeOf false schema.enums requests)
        request.2 field = .ok mapping) ↔
      ∃ type, TypeExpr.parse field.declaredType = .ok type ∧
        ∀ name, type.RefersTo name → ¬ schema.IsEnum name := by
    intro field
    simp only [FieldMapping.ofField_eq_ok_iff, refusal?_lax_iff]
    constructor
    · rintro ⟨mapping, type, hparse, henums, -⟩
      exact ⟨type, hparse, henums⟩
    · rintro ⟨type, hparse, henums⟩
      exact ⟨_, type, hparse, henums, rfl⟩
  rw [Schema.MirrorsTypes, ← forall₂_congr fun field _ => hfield field, ← exists_forall₂_iff]
  simp only [← ofRecord_eq_ok_iff_isPlanOf, ofRecord_eq_ok_iff]
  constructor
  · rintro ⟨plan, fields, hfields, -⟩
    exact ⟨fields, hfields⟩
  · rintro ⟨fields, hfields⟩
    exact ⟨_, fields, hfields, rfl⟩

/-! ### Schemas -/

theorem ofSchema_strict_iff (label : String) (plans : List Plan) :
    ofSchema ⟨default, true, label⟩ schema = .ok plans ↔
      ofSchema ⟨default, false, label⟩ schema = .ok plans ∧
        ∀ record mode, schema.Requests default record mode →
          schema.MirrorsReferences default record mode := by
  simp only [ofSchema_eq_ok_iff]
  constructor
  · rintro ⟨requests, hresolved, hplans⟩
    obtain ⟨hplans, hmirrored⟩ := (plansOf_strict_iff hresolved).1 hplans
    exact ⟨⟨requests, hresolved, hplans⟩, hmirrored⟩
  · rintro ⟨⟨requests, hresolved, hplans⟩, hmirrored⟩
    exact ⟨requests, hresolved, (plansOf_strict_iff hresolved).2 ⟨hplans, hmirrored⟩⟩

theorem ofSchema_lax_iff (label : String) :
    (∃ plans, ofSchema ⟨default, false, label⟩ schema = .ok plans) ↔
      (∃ requests, Resolved default schema.records requests) ∧
        ∀ record mode, schema.Requests default record mode → schema.MirrorsTypes record := by
  simp only [ofSchema_eq_ok_iff]
  constructor
  · rintro ⟨plans, requests, hresolved, hplans⟩
    refine ⟨⟨requests, hresolved⟩, fun record mode hrequest => ?_⟩
    have hplanned := exists_forall₂_iff.1 ⟨plans, hplans⟩ _ (hresolved.mem_iff.2 hrequest)
    exact exists_isPlanOf_lax_iff.1 hplanned
  · rintro ⟨⟨requests, hresolved⟩, htypes⟩
    have hplanned : ∀ request ∈ requests,
        ∃ plan, IsPlanOf (scopeOf false schema.enums requests) request plan := by
      rintro ⟨record, mode⟩ hrequest
      exact exists_isPlanOf_lax_iff.2 (htypes record mode (hresolved.mem_iff.1 hrequest))
    obtain ⟨plans, hplans⟩ := exists_forall₂_iff.2 hplanned
    exact ⟨plans, requests, hresolved, hplans⟩

theorem field_fault_of_enum {options : PlanOptions} {error : PlanError} {type : TypeExpr}
    {name : String} (h : ofSchemaFault options schema = .error (.field error))
    (hparse : TypeExpr.parse error.field.declaredType = .ok type) (hname : type.RefersTo name)
    (henum : schema.IsEnum name) :
    ∃ before first after, type.references = before ++ first :: after ∧ schema.IsEnum first ∧
      (∀ other ∈ before, ¬ schema.IsEnum other) ∧ error.fault = .enumeration first := by
  cases ofSchemaFault_eq_error_iff_first.1 h with
  | request _ _ hfault =>
      obtain ⟨-, -, -, hfault⟩ := hfault
      cases hfault
  | field _ hscope _ _ _ _ hfault =>
      subst hscope
      obtain ⟨before, first, after, hsplit, hfirst, hbefore, hrefusal⟩ :=
        refusal?_of_enum hname henum
      rw [FieldMapping.ofField_of_refusal hparse hrefusal] at hfault
      exact ⟨before, first, after, hsplit, hfirst, hbefore, (Except.error.inj hfault).symm⟩

/-- Strict references are a filter.  With them, a schema has the plans it has without them, if all
that its mirrored fields refer to is mirrored in the same mode, and none otherwise.  Without them,
it has plans exactly if its requests are resolved and its mirrored fields denote types that refer to
no enumeration, whatever the keys of maps are.  If the field that is refused refers to an
enumeration, the leftmost one is told. -/
theorem strict_references_filter (default : Mode) (label : String) (schema : Schema) :
    (∀ plans, ofSchema ⟨default, true, label⟩ schema = .ok plans ↔
      ofSchema ⟨default, false, label⟩ schema = .ok plans ∧
        ∀ record mode, schema.Requests default record mode →
          schema.MirrorsReferences default record mode) ∧
    ((∃ plans, ofSchema ⟨default, false, label⟩ schema = .ok plans) ↔
      (∃ requests, Resolved default schema.records requests) ∧
        ∀ record mode, schema.Requests default record mode → schema.MirrorsTypes record) ∧
    ∀ strict error type name,
      ofSchema ⟨default, strict, label⟩ schema = .error ⟨label, .field error⟩ →
      TypeExpr.parse error.field.declaredType = .ok type → type.RefersTo name →
      schema.IsEnum name →
        ∃ before first after, type.references = before ++ first :: after ∧ schema.IsEnum first ∧
          (∀ other ∈ before, ¬ schema.IsEnum other) ∧ error.fault = .enumeration first := by
  refine ⟨ofSchema_strict_iff label, ofSchema_lax_iff label, ?_⟩
  intro strict error type name h hparse hname henum
  obtain ⟨fault, hfault, heq⟩ := mapError_eq_error.1 h
  cases heq
  exact field_fault_of_enum hfault hparse hname henum

/-- Two records that refer to each other, past the key of a map; and a field that refers to an
enumeration which, with strict references, would have no mirror either. -/
theorem strict_references_filter_pens :
    let color : Enumeration := ⟨"Color", ["red"]⟩
    let pens : Schema := ⟨[⟨"Pen", [⟨"box", "Box?", true⟩], [⟨none, 1⟩]⟩,
      ⟨"Box", [⟨"pens", "Map<Color, List<Pen>>", true⟩], [⟨some "readonly", 2⟩]⟩], [color]⟩
    let inks : Schema :=
      ⟨[⟨"Ink", [⟨"shades", "Map<Color, List<Color>>", true⟩], [⟨none, 1⟩]⟩], [color]⟩
    (∃ plans, ofSchema ⟨.readonly, true, "pens"⟩ pens = .ok plans ∧
      ofSchema ⟨.readonly, false, "pens"⟩ pens = .ok plans ∧
      ∀ record mode, pens.Requests .readonly record mode →
        pens.MirrorsReferences .readonly record mode) ∧
    ∃ error type, ofSchema ⟨.readonly, true, "inks"⟩ inks = .error ⟨"inks", .field error⟩ ∧
      TypeExpr.parse error.field.declaredType = .ok type ∧ type.RefersTo "Color" ∧
      inks.IsEnum "Color" ∧
      ∃ before first after, type.references = before ++ first :: after ∧ inks.IsEnum first ∧
        (∀ other ∈ before, ¬ inks.IsEnum other) ∧ error.fault = .enumeration first := by
  intro color pens inks
  have hmirrors : (ofSchema ⟨.readonly, true, "pens"⟩ pens).map (List.map Plan.mirror) =
      .ok ["ReadonlyPen", "ReadonlyBox"] := by decide +kernel
  have hrefused : ofSchema ⟨.readonly, true, "inks"⟩ inks = .error ⟨"inks", .field
      ⟨"Ink", ⟨"shades", "Map<Color, List<Color>>", true⟩, .enumeration "Color"⟩⟩ := by
    decide +kernel
  have hparse : TypeExpr.parse "Map<Color, List<Color>>" =
      .ok (.map (.reference "Color") (.list (.reference "Color"))) := by decide +kernel
  have hname : (TypeExpr.map (.reference "Color") (.list (.reference "Color"))).RefersTo "Color" :=
    .value (.list (.reference "Color"))
  have henum : inks.IsEnum "Color" := ⟨color, List.mem_cons_self, rfl⟩
  obtain ⟨plans, hplans, -⟩ := map_eq_ok.1 hmirrors
  have hfilter := (strict_references_filter .readonly "pens" pens).1 plans
  refine ⟨⟨plans, hplans, hfilter.1 hplans⟩, _, _, hrefused, hparse, hname, henum, ?_⟩
  exact (strict_references_filter .readonly "inks" inks).2.2 true _ _ _ hrefused hparse hname henum

end Plan

end RecordMirror
