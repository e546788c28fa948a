import RecordMirror.Proofs.Plan.Requests
/-!
What is planned, and what stops it first.  The plans of a schema are those of its requests, in order
and each by itself.  A schema without plans has a fault, and of its faults the reported one is the
first: those among its requests come before those of its fields.
-/

namespace RecordMirror.Plan

/-- A plan of a request: it is of the record and in the mode that are requested, and its fields are
the persisted fields of the record, in order and each mapped by itself. -/
structure IsPlanOf (scope : Scope) (request : Record × Mode) (plan : Plan) : Prop where
  record : plan.record = request.1.name
  mode : plan.mode = request.2
  mirror : plan.mirror = request.2.mirrorName request.1.name
  fields : List.Forall₂ (fun field mapping => mapping.name = field.name ∧
      mapping.declaredType = field.declaredType ∧
      FieldMapping.ofField scope request.2 field = .ok mapping)
    request.1.persistedFields plan.fields

/-- The first fault of a schema.  It is the first one among the requests of its first record that
has one; or, if all requests are resolved, it is that of the first persisted field that cannot be
mapped, for the first request with such a field. -/
inductive FirstFault (options : PlanOptions) (schema : Schema) : CompileFault → Prop
  | request {before after : List Record} {record : Record} {requests : List (Record × Mode)}
      {fault : CompileFault} :
      schema.records = before ++ record :: after →
      Resolved options.defaultMode before requests →
      FirstRequestFault options.defaultMode record fault → FirstFault options schema fault
  | field {requests before after : List (Record × Mode)} {record : Record} {mode : Mode}
      {scope : Scope} {earlier later : List Field} {field : Field} {fault : FieldFault} :
      Resolved options.defaultMode schema.records requests →
      scope = scopeOf options.strictReferences schema.enums requests →
      requests = before ++ (record, mode) :: after →
      (∀ request ∈ before, ∃ plan, IsPlanOf scope request plan) →
      record.persistedFields = earlier ++ field :: later →
      (∀ other ∈ earlier, ∃ mapping, FieldMapping.ofField scope mode other = .ok mapping) →
      FieldMapping.ofField scope mode field = .error fault →
      FirstFault options schema (.field ⟨record.name, field, fault⟩)

variable {options : PlanOptions} {schema : Schema} {plans : List Plan}

theorem ofRecord_eq_ok_iff_isPlanOf {scope : Scope} {request : Record × Mode} {plan : Plan} :
    ofRecord scope request.2 request.1 = .ok plan ↔ IsPlanOf scope request plan := by
  rw [ofRecord_eq_ok_iff]
  constructor
  · rintro ⟨fields, hfields, rfl⟩
    refine ⟨rfl, rfl, rfl, hfields.imp fun field mapping hmapping => ?_⟩
    obtain ⟨type, -, -, rfl⟩ := FieldMapping.ofField_eq_ok_iff.1 hmapping
    exact ⟨rfl, rfl, hmapping⟩
  · rintro ⟨hrecord, hmode, hmirror, hfields⟩
    obtain ⟨record, mirror, mode, fields⟩ := plan
    cases hrecord
    cases hmode
    cases hmirror
    exact ⟨fields, hfields.imp fun _ _ hmapping => hmapping.2.2, rfl⟩

theorem ofSchema_eq_ok_iff : ofSchema options schema = .ok plans ↔
    ∃ requests, Resolved options.defaultMode schema.records requests ∧
      List.Forall₂ (IsPlanOf (scopeOf options.strictReferences schema.enums requests))
        requests plans := by
  simp only [ofSchema, mapError_eq_ok, ofSchemaFault_eq_ok_iff, ofRecord_eq_ok_iff_isPlanOf]

theorem ofSchemaFault_eq_error_iff_first {fault : CompileFault} :
    ofSchemaFault options schema = .error fault ↔ FirstFault options schema fault := by
  simp only [ofSchemaFault_eq_error_iff, ofRecord_eq_ok_iff_isPlanOf, ofRecord_eq_error_iff]
  constructor
  · rintro (⟨before, record, after, requests, hsplit, hbefore, hfault⟩ |
      ⟨before, request, after, error, hresolved, hbefore, herror, rfl⟩)
    · exact .request hsplit hbefore hfault
    · obtain ⟨earlier, field, later, fault, hfields, hearlier, hfault, rfl⟩ := herror
      exact .field hresolved rfl rfl hbefore hfields hearlier hfault
  · intro h
    cases h with
    | request hsplit hbefore hfault => exact Or.inl ⟨_, _, _, _, hsplit, hbefore, hfault⟩
    | field hresolved hscope hsplit hbefore hfields hearlier hfault =>
        subst hscope hsplit
        exact Or.inr ⟨_, _, _, _, hresolved, hbefore,
          ⟨_, _, _, _, hfields, hearlier, hfault, rfl⟩, rfl⟩

/-- Mirrors of different records, or of one record in different modes, have different names. -/
theorem mirrors_nodup (h : ofSchema options schema = .ok plans)
    (hnames : (schema.records.map Record.name).Nodup) : (plans.map Plan.mirror).Nodup := by
  obtain ⟨requests, hresolved, hplans⟩ := ofSchema_eq_ok_iff.1 h
  have hmirrors : requests.map (fun request => request.2.mirrorName request.1.name) =
      plans.map Plan.mirror :=
    map_eq_map_of_forall₂ hplans fun _ _ hplan => hplan.mirror.symm
  have hnodup := (hresolved.keys_nodup hnames).map
    (f := fun key => key.2.mirrorName key.1) fun key key' heq => by
      obtain ⟨hmode, hrecord⟩ := Mode.mirrorName_injective heq
      exact Prod.ext hrecord hmode
  rwa [List.map_map, Function.comp_def, hmirrors] at hnodup

/-- A schema has plans exactly if its requests are resolved and each has a plan; these are its
plans, in order, and no two are of mirrors of one name if its records have names of their own.  It
is refused exactly with its first fault. -/
theorem planned_in_order (options : PlanOptions) (schema : Schema) :
    (∀ plans, ofSchema options schema = .ok plans ↔
      ∃ requests, Resolved options.defaultMode schema.records requests ∧
        List.Forall₂ (IsPlanOf (scopeOf options.strictReferences schema.enums requests))
          requests plans) ∧
    (∀ plans, ofSchema options schema = .ok plans → (schema.records.map Record.name).Nodup →
      (plans.map Plan.mirror).Nodup) ∧
    ∀ error, ofSchema options schema = .error error ↔
      error.label = options.label ∧ FirstFault options schema error.fault := by
  refine ⟨fun plans => ofSchema_eq_ok_iff, fun plans => mirrors_nodup, ?_⟩
  rintro ⟨label, fault⟩
  rw [ofSchema, mapError_eq_error]
  simp only [CompileError.mk.injEq, ← ofSchemaFault_eq_error_iff_first]
  constructor
  · rintro ⟨fault', hfault, hlabel, rfl⟩
    exact ⟨hlabel.symm, hfault⟩
  · rintro ⟨hlabel, hfault⟩
    exact ⟨fault, hfault, hlabel.symm, rfl⟩

/-- A record that is mirrored in both modes beside another one; and a record with a field of no type
before one that is mirrored twice in a mode, which is told first. -/
theorem planned_in_order_pens :
    let pens : Schema := ⟨[⟨"Pen", [⟨"ink", "String", true⟩], [⟨none, 1⟩, ⟨some "observable", 2⟩]⟩,
      ⟨"Box", [⟨"pens", "List<Pen>", true⟩], [⟨some "'readonly'", 5⟩]⟩], []⟩
    let twice : Schema := ⟨[⟨"Pen", [⟨"ink", "List<", true⟩], [⟨none, 1⟩]⟩,
      ⟨"Box", [], [⟨none, 5⟩, ⟨some "'readonly'", 6⟩]⟩], []⟩
    (∃ plans, ofSchema {} pens = .ok plans ∧ (pens.records.map Record.name).Nodup ∧
      (plans.map Plan.mirror).Nodup) ∧
    FirstFault {} twice (.mirroredTwice 6 "Box" .readonly) := by
  intro pens twice
  have hmirrors : (ofSchema {} pens).map (List.map Plan.mirror) =
      .ok ["ReadonlyPen", "ObservablePen", "ReadonlyBox"] := by decide +kernel
  have htwice : ofSchema {} twice = .error ⟨"<string>", .mirroredTwice 6 "Box" .readonly⟩ := by
    decide +kernel
  have hnames : (pens.records.map Record.name).Nodup := by decide
  obtain ⟨plans, hplans, -⟩ := map_eq_ok.1 hmirrors
  exact ⟨⟨plans, hplans, hnames, (planned_in_order {} pens).2.1 plans hplans hnames⟩,
    (((planned_in_order {} twice).2.2 _).1 htwice).2⟩

end RecordMirror.Plan
