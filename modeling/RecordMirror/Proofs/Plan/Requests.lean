import Mathlib.Data.List.Nodup
import RecordMirror.Plan
import RecordMirror.Proofs.Conversion.Trees
import RecordMirror.Proofs.Schema.Faults
/-!
What plans are made of, and what stops them.  A mapping is settled by the type of its field, a plan
by its request, and the plans of a schema are those of its requests in order.  Where something is at
fault, the first fault decides.
-/

namespace RecordMirror

open Conversion

/-! ### Fields -/

namespace FieldMapping

variable {scope : Scope} {mode : Mode} {field : Field} {type : TypeExpr} {mapping : FieldMapping}

/-- The mapping of a field of a name whose type is read from a text. -/
def typed (mode : Mode) (name text : String) (type : TypeExpr) : FieldMapping where
  name := name
  declaredType := text
  shape := type.shape
  declaration := name ++ ": " ++ (hintOf (mirrorSide mode) type).render
  forward := (Conversion.forward mode type (.member (.name persistedObject) name) 0).render
  backward := (statement type name).render
  imports := Conversion.imports mode type

theorem ofType_of_proper (mode : Mode) (field : Field) (h : type.Proper) :
    ofType mode field type = .ok (typed mode field.name field.declaredType type) := by
  simp only [ofType, typeHint_of_proper mode h]
  rfl

theorem ofField_of_refusal {fault : FieldFault}
    (hparse : TypeExpr.parse field.declaredType = .ok type)
    (hrefusal : scope.refusal? mode type = some fault) :
    ofField scope mode field = .error fault := by
  simp only [ofField, hparse, hrefusal]

theorem ofField_of_allowed (hparse : TypeExpr.parse field.declaredType = .ok type)
    (hallowed : scope.refusal? mode type = none) :
    ofField scope mode field = .ok (typed mode field.name field.declaredType type) := by
  simp only [ofField, hparse, hallowed]
  rw [ofType_of_proper mode field (TypeExpr.proper_of_parse hparse)]
  rfl

/-- A field is mapped if its type can be read and is in scope, and the type settles the mapping. -/
theorem ofField_eq_ok_iff :
    ofField scope mode field = .ok mapping ↔
      ∃ type, TypeExpr.parse field.declaredType = .ok type ∧ scope.refusal? mode type = none ∧
        typed mode field.name field.declaredType type = mapping := by
  constructor
  · intro h
    cases hparse : TypeExpr.parse field.declaredType with
    | error cause =>
        simp only [ofField, hparse] at h
        cases h
    | ok type =>
        cases hrefusal : scope.refusal? mode type with
        | some fault =>
            rw [ofField_of_refusal hparse hrefusal] at h
            cases h
        | none =>
            rw [ofField_of_allowed hparse hrefusal] at h
            exact ⟨type, rfl, hrefusal, Except.ok.inj h⟩
  · rintro ⟨type, hparse, hallowed, rfl⟩
    exact ofField_of_allowed hparse hallowed

/-- A field is refused for the text of its type or for what the type refers to, and for nothing
else: keys that cannot be annotated are not in the types that texts denote. -/
theorem ofField_eq_error {fault : FieldFault} (h : ofField scope mode field = .error fault) :
    (∃ cause, TypeExpr.parse field.declaredType = .error cause ∧ fault = .unreadableType cause) ∨
      ∃ type, TypeExpr.parse field.declaredType = .ok type ∧
        scope.refusal? mode type = some fault := by
  cases hparse : TypeExpr.parse field.declaredType with
  | error cause =>
      simp only [ofField, hparse] at h
      exact Or.inl ⟨cause, rfl, (Except.error.inj h).symm⟩
  | ok type =>
      cases hrefusal : scope.refusal? mode type with
      | some fault' =>
          rw [ofField_of_refusal hparse hrefusal] at h
          cases h
          exact Or.inr ⟨type, rfl, hrefusal⟩
      | none =>
          rw [ofField_of_allowed hparse hrefusal] at h
          cases h

end FieldMapping

/-! ### Mirror names -/

namespace Mode

theorem mirrorName_injective {mode mode' : Mode} {record record' : String}
    (h : mode.mirrorName record = mode'.mirrorName record') :
    mode = mode' ∧ record = record' := by
  rw [mirrorName, mirrorName, ← String.toList_inj, String.toList_append,
    String.toList_append] at h
  have hmode : mode = mode' := by
    have hfirst := congrArg List.head? h
    cases mode with
    | readonly =>
        cases mode' with
        | readonly => rfl
        | observable => exact absurd hfirst (by simp [style])
    | observable =>
        cases mode' with
        | readonly => exact absurd hfirst (by simp [style])
        | observable => rfl
  subst hmode
  exact ⟨rfl, String.toList_inj.1 (List.append_cancel_left h)⟩

end Mode

/-! ### Requests -/

namespace Plan

variable {default mode : Mode} {fault : CompileFault} {records : List Record}

/-- What each of some requests names. -/
def named (default : Mode) (requests : List MirrorRequest) : List (Except UnknownMode Mode) :=
  requests.map fun request => Mode.resolve request.mode default

@[simp] theorem named_cons (request : MirrorRequest) (requests : List MirrorRequest) :
    named default (request :: requests) =
      Mode.resolve request.mode default :: named default requests := rfl

/-- What is wrong with a request where some modes are taken: its mode is unknown, or is one of
them. -/
inductive RequestFault (default : Mode) (record : String) (taken : List Mode)
    (request : MirrorRequest) : CompileFault → Prop
  | unknownMode {cause : UnknownMode} : Mode.resolve request.mode default = .error cause →
      RequestFault default record taken request (.unknownMode request.line record cause)
  | mirroredTwice {mode : Mode} : Mode.resolve request.mode default = .ok mode → mode ∈ taken →
      RequestFault default record taken request (.mirroredTwice request.line record mode)

section

variable {record : String} {taken seen modes : List Mode} {request : MirrorRequest}
  {requests : List MirrorRequest}

theorem RequestFault.congr (h : RequestFault default record taken request fault)
    (hmem : ∀ mode ∈ taken, mode ∈ seen) : RequestFault default record seen request fault := by
  cases h with
  | unknownMode hresolve => exact .unknownMode hresolve
  | mirroredTwice hresolve htaken => exact .mirroredTwice hresolve (hmem _ htaken)

/-- A request that is resolved can only be at fault for naming a mode that is taken. -/
theorem RequestFault.mem_taken (h : RequestFault default record taken request fault)
    (hmode : Mode.resolve request.mode default = .ok mode) : mode ∈ taken := by
  cases h with
  | unknownMode hresolve =>
      rw [hmode] at hresolve
      cases hresolve
  | mirroredTwice hresolve htaken =>
      rw [hmode] at hresolve
      cases hresolve
      exact htaken

theorem requestFault_or_new (default : Mode) (record : String) (seen : List Mode)
    (request : MirrorRequest) : (∃ fault, RequestFault default record seen request fault) ∨
      ∃ mode, Mode.resolve request.mode default = .ok mode ∧ mode ∉ seen := by
  cases hresolve : Mode.resolve request.mode default with
  | error cause => exact Or.inl ⟨_, .unknownMode hresolve⟩
  | ok mode =>
      by_cases hseen : mode ∈ seen
      · exact Or.inl ⟨_, .mirroredTwice hresolve hseen⟩
      · exact Or.inr ⟨mode, rfl, hseen⟩

theorem requestedModes_of_fault (h : RequestFault default record seen request fault) :
    requestedModes default record seen (request :: requests) = .error fault := by
  cases h with
  | unknownMode hresolve => simp only [requestedModes, hresolve]
  | mirroredTwice hresolve hseen => simp only [requestedModes, hresolve, if_pos hseen]

theorem requestedModes_of_new (hresolve : Mode.resolve request.mode default = .ok mode)
    (hnew : mode ∉ seen) :
    requestedModes default record seen (request :: requests) =
      (requestedModes default record (mode :: seen) requests).map (mode :: ·) := by
  simp only [requestedModes, hresolve, if_neg hnew]
  cases requestedModes default record (mode :: seen) requests <;> rfl

/-- The requests of a record are resolved if they name modes that are different, none of which was
seen before. -/
theorem requestedModes_eq_ok_iff :
    requestedModes default record seen requests = .ok modes ↔
      named default requests = modes.map .ok ∧ modes.Nodup ∧ ∀ mode ∈ modes, mode ∉ seen := by
  induction requests generalizing seen modes with
  | nil => cases modes <;> simp [requestedModes, named]
  | cons request rest ih =>
      rcases requestFault_or_new default record seen request with
        ⟨fault, hfault⟩ | ⟨mode, hmode, hnew⟩
      · rw [requestedModes_of_fault hfault]
        refine iff_of_false nofun ?_
        rintro ⟨hnamed, -, hunseen⟩
        cases modes with
        | nil => cases hnamed
        | cons mode modes =>
            have hmode : Mode.resolve request.mode default = .ok mode := (List.cons.inj hnamed).1
            exact hunseen mode List.mem_cons_self (hfault.mem_taken hmode)
      · rw [requestedModes_of_new hmode hnew, map_eq_ok]
        simp only [ih, named_cons, hmode]
        constructor
        · rintro ⟨others, ⟨hnamed, hdistinct, hunseen⟩, rfl⟩
          have hfresh : mode ∉ others := fun hmem => hunseen mode hmem List.mem_cons_self
          refine ⟨by rw [hnamed, List.map_cons], List.nodup_cons.2 ⟨hfresh, hdistinct⟩, ?_⟩
          refine List.forall_mem_cons.2 ⟨hnew, fun other hother hseen => ?_⟩
          exact hunseen other hother (List.mem_cons_of_mem mode hseen)
        · rintro ⟨hnamed, hdistinct, hunseen⟩
          cases modes with
          | nil => cases hnamed
          | cons mode' others =>
              obtain ⟨hhead, hrest⟩ := List.cons.inj hnamed
              cases hhead
              rw [List.nodup_cons] at hdistinct
              refine ⟨others, ⟨hrest, hdistinct.2, fun other hother hmem => ?_⟩, rfl⟩
              rcases List.mem_cons.1 hmem with rfl | hseen
              · exact hdistinct.1 hother
              · exact hunseen other (List.mem_cons_of_mem mode hother) hseen

/-- A request at fault after requests that are resolved decides, whatever comes after it. -/
theorem requestedModes_of_first {before after : List MirrorRequest}
    (hbefore : requestedModes default record seen before = .ok modes)
    (hfault : RequestFault default record (modes ++ seen) request fault) :
    requestedModes default record seen (before ++ request :: after) = .error fault := by
  induction before generalizing seen modes with
  | nil =>
      cases hbefore
      exact requestedModes_of_fault hfault
  | cons first before ih =>
      rcases requestFault_or_new default record seen first with
        ⟨other, hother⟩ | ⟨mode, hmode, hnew⟩
      · rw [requestedModes_of_fault hother] at hbefore
        cases hbefore
      · rw [requestedModes_of_new hmode hnew, map_eq_ok] at hbefore
        obtain ⟨modes, hmodes, rfl⟩ := hbefore
        rw [List.cons_append, requestedModes_of_new hmode hnew, map_eq_error]
        -- The modes that are taken are the same, in another order.
        refine ih hmodes (hfault.congr ?_)
        simp only [List.mem_append, List.mem_cons, List.cons_append]
        tauto

/-- Of the requests of a record, the first one with a fault decides. -/
theorem requestedModes_eq_error_iff :
    requestedModes default record seen requests = .error fault ↔
      ∃ before request after modes, requests = before ++ request :: after ∧
        requestedModes default record seen before = .ok modes ∧
        RequestFault default record (modes ++ seen) request fault := by
  constructor
  · intro h
    induction requests generalizing seen with
    | nil => cases h
    | cons request rest ih =>
        rcases requestFault_or_new default record seen request with
          ⟨other, hother⟩ | ⟨mode, hmode, hnew⟩
        · rw [requestedModes_of_fault hother] at h
          cases h
          exact ⟨[], request, rest, [], rfl, rfl, hother⟩
        · rw [requestedModes_of_new hmode hnew, map_eq_error] at h
          obtain ⟨before, request', after, modes, rfl, hbefore, hfault⟩ := ih h
          refine ⟨request :: before, request', after, mode :: modes, rfl, ?_, hfault.congr ?_⟩
          · rw [requestedModes_of_new hmode hnew, map_eq_ok]
            exact ⟨modes, hbefore, rfl⟩
          · simp only [List.mem_append, List.mem_cons, List.cons_append]
            tauto
  · rintro ⟨before, request, after, modes, rfl, hbefore, hfault⟩
    exact requestedModes_of_first hbefore hfault

end

/-- What some records request, in order: each request names a mode, and no two requests of a record
name the same one. -/
structure Resolved (default : Mode) (records : List Record) (requests : List (Record × Mode)) :
    Prop where
  in_order : (records.flatMap fun record => (named default record.mirrors).map (record, ·)) =
    requests.map fun request => (request.1, .ok request.2)
  distinct : ∀ record ∈ records, (named default record.mirrors).Nodup

theorem resolved_nil_iff {requests : List (Record × Mode)} :
    Resolved default [] requests ↔ requests = [] := by
  constructor
  · rintro ⟨hnamed, -⟩
    rwa [List.flatMap_nil, eq_comm, List.map_eq_nil_iff] at hnamed
  · rintro rfl
    exact ⟨rfl, by simp⟩

theorem resolved_cons_iff {record : Record} {requests : List (Record × Mode)} :
    Resolved default (record :: records) requests ↔
      ∃ (modes : List Mode) (others : List (Record × Mode)),
        named default record.mirrors = modes.map .ok ∧ modes.Nodup ∧
        Resolved default records others ∧ modes.map (record, ·) ++ others = requests := by
  constructor
  · rintro ⟨hnamed, hdistinct⟩
    rw [List.flatMap_cons, eq_comm, List.map_eq_append_iff] at hnamed
    obtain ⟨own, others, rfl, hown, hothers⟩ := hnamed
    have hrecord : ∀ request ∈ own, request.1 = record := by
      intro request hrequest
      have hmem : (request.1, .ok request.2) ∈ (named default record.mirrors).map (record, ·) := by
        rw [← hown]
        exact List.mem_map_of_mem hrequest
      obtain ⟨mode, -, heq⟩ := List.mem_map.1 hmem
      exact (Prod.mk.inj heq).1.symm
    have hmodes : named default record.mirrors = (own.map Prod.snd).map .ok := by
      have hsnd := congrArg (List.map Prod.snd) hown
      simpa [Function.comp_def] using hsnd.symm
    refine ⟨own.map Prod.snd, others, hmodes, ?_, ⟨hothers.symm, ?_⟩, ?_⟩
    · have hnodup := hdistinct record List.mem_cons_self
      rw [hmodes] at hnodup
      exact hnodup.of_map
    · exact fun other hother => hdistinct other (List.mem_cons_of_mem record hother)
    · rw [List.map_map, List.append_left_inj]
      calc own.map ((record, ·) ∘ Prod.snd) = own.map id := by
            refine List.map_congr_left fun request hrequest => ?_
            exact Prod.ext (hrecord request hrequest).symm rfl
        _ = own := own.map_id
  · rintro ⟨modes, others, hmodes, hnodup, ⟨hnamed, hdistinct⟩, rfl⟩
    constructor
    · rw [List.flatMap_cons, hnamed, hmodes, List.map_append, List.map_map, List.map_map]
      rfl
    · refine List.forall_mem_cons.2 ⟨?_, hdistinct⟩
      rw [hmodes]
      exact hnodup.map fun _ _ => Except.ok.inj

theorem requested_eq_ok_iff {requests : List (Record × Mode)} :
    requested default records = .ok requests ↔ Resolved default records requests := by
  induction records generalizing requests with
  | nil =>
      rw [resolved_nil_iff, requested, Except.ok.injEq]
      exact eq_comm
  | cons record rest ih =>
      rw [resolved_cons_iff]
      simp only [requested, bind_eq_ok, requestedModes_eq_ok_iff, ih]
      constructor
      · rintro ⟨modes, ⟨hnamed, hdistinct, -⟩, others, hothers, h⟩
        exact ⟨modes, others, hnamed, hdistinct, hothers, Except.ok.inj h⟩
      · rintro ⟨modes, others, hnamed, hdistinct, hothers, rfl⟩
        exact ⟨modes, ⟨hnamed, hdistinct, by simp⟩, others, hothers, rfl⟩

/-- What is wrong with the requests of a record: the first fault among them. -/
inductive FirstRequestFault (default : Mode) (record : Record) : CompileFault → Prop
  | at {earlier later : List MirrorRequest} {request : MirrorRequest} {modes : List Mode}
      {fault : CompileFault} :
      record.mirrors = earlier ++ request :: later → named default earlier = modes.map .ok →
      modes.Nodup → RequestFault default record.name modes request fault →
      FirstRequestFault default record fault

theorem requestedModes_eq_error_iff_first {record : Record} :
    requestedModes default record.name [] record.mirrors = .error fault ↔
      FirstRequestFault default record fault := by
  simp only [requestedModes_eq_error_iff, requestedModes_eq_ok_iff, List.append_nil]
  constructor
  · rintro ⟨earlier, request, later, modes, hsplit, ⟨hnamed, hdistinct, -⟩, hfault⟩
    exact .at hsplit hnamed hdistinct hfault
  · rintro ⟨hsplit, hnamed, hdistinct, hfault⟩
    exact ⟨_, _, _, _, hsplit, ⟨hnamed, hdistinct, by simp⟩, hfault⟩

/-- Of the records, the first one with a fault among its requests decides. -/
theorem requested_eq_error_iff :
    requested default records = .error fault ↔
      ∃ before record after requests, records = before ++ record :: after ∧
        Resolved default before requests ∧ FirstRequestFault default record fault := by
  induction records with
  | nil =>
      refine iff_of_false nofun ?_
      rintro ⟨before, record, after, requests, hsplit, -⟩
      exact absurd hsplit.symm (List.append_ne_nil_of_right_ne_nil before (List.cons_ne_nil _ _))
  | cons record rest ih =>
      rw [requested, bind_eq_error, requestedModes_eq_error_iff_first]
      constructor
      · rintro (hfault | ⟨modes, hmodes, h⟩)
        · exact ⟨[], record, rest, [], rfl, resolved_nil_iff.2 rfl, hfault⟩
        rcases bind_eq_error.1 h with h | ⟨others, -, h⟩
        · obtain ⟨before, other, after, requests, rfl, hbefore, hfault⟩ := ih.1 h
          obtain ⟨hnamed, hdistinct, -⟩ := requestedModes_eq_ok_iff.1 hmodes
          have hresolved := resolved_cons_iff.2 ⟨modes, requests, hnamed, hdistinct, hbefore, rfl⟩
          exact ⟨record :: before, other, after, _, rfl, hresolved, hfault⟩
        · cases h
      · rintro ⟨before, other, after, requests, hsplit, hbefore, hfault⟩
        cases before with
        | nil =>
            obtain ⟨rfl, rfl⟩ := List.cons.inj hsplit
            exact Or.inl hfault
        | cons first before =>
            obtain ⟨rfl, rfl⟩ := List.cons.inj hsplit
            obtain ⟨modes, others, hnamed, hdistinct, hothers, -⟩ := resolved_cons_iff.1 hbefore
            have hrest := ih.2 ⟨before, other, after, others, rfl, hothers, hfault⟩
            refine Or.inr ⟨modes, requestedModes_eq_ok_iff.2 ⟨hnamed, hdistinct, by simp⟩, ?_⟩
            exact bind_eq_error.2 (Or.inl hrest)

/-- What is requested is a record, in a mode that one of its requests names. -/
theorem Resolved.mem_iff {requests : List (Record × Mode)} {record : Record}
    (h : Resolved default records requests) :
    (record, mode) ∈ requests ↔ record ∈ records ∧ .ok mode ∈ named default record.mirrors := by
  have hmem : (record, Except.ok mode) ∈ (records.flatMap fun record =>
      (named default record.mirrors).map (record, ·)) ↔ (record, mode) ∈ requests := by
    rw [h.in_order]
    simp
  rw [← hmem]
  simp

theorem Resolved.mem_records {requests : List (Record × Mode)} {request : Record × Mode}
    (h : Resolved default records requests) (hrequest : request ∈ requests) :
    request.1 ∈ records :=
  (h.mem_iff.1 hrequest).1

/-- Two requests differ in the mode or in the name of the record, if records do not share names. -/
theorem Resolved.keys_nodup {requests : List (Record × Mode)}
    (h : Resolved default records requests) (hnames : (records.map Record.name).Nodup) :
    (requests.map fun request => (request.1.name, request.2)).Nodup := by
  induction records generalizing requests with
  | nil =>
      rw [resolved_nil_iff.1 h]
      exact List.nodup_nil
  | cons record rest ih =>
      obtain ⟨modes, others, -, hmodes, hothers, rfl⟩ := resolved_cons_iff.1 h
      rw [List.map_cons, List.nodup_cons] at hnames
      rw [List.map_append, List.nodup_append]
      refine ⟨?_, ih hothers hnames.2, ?_⟩
      · rw [List.map_map]
        refine hmodes.map ?_
        intro mode mode' heq
        exact (Prod.mk.inj heq).2
      · intro key hkey key' hkey' heq
        obtain ⟨request, hrequest, rfl⟩ := List.mem_map.1 hkey
        obtain ⟨mode, -, rfl⟩ := List.mem_map.1 hrequest
        obtain ⟨other, hother, rfl⟩ := List.mem_map.1 hkey'
        have hname : record.name = other.1.name := (Prod.mk.inj heq).1
        exact hnames.1 (hname ▸ List.mem_map_of_mem (hothers.mem_records hother))

/-! ### Plans -/

variable {scope : Scope}

/-- The plan of a record is settled by the mappings of its persisted fields. -/
theorem ofRecord_eq_ok_iff {record : Record} {plan : Plan} :
    ofRecord scope mode record = .ok plan ↔
      ∃ fields, List.Forall₂ (fun field mapping =>
          FieldMapping.ofField scope mode field = .ok mapping) record.persistedFields fields ∧
        ⟨record.name, mode.mirrorName record.name, mode, fields⟩ = plan := by
  simp only [ofRecord, bind_eq_ok, mapM_eq_ok, mapError_eq_ok]
  refine exists_congr fun fields => and_congr_right fun _ => ?_
  exact iff_of_eq (Except.ok.injEq _ _)

/-- A record has no plan for the first of its persisted fields that cannot be mapped. -/
theorem ofRecord_eq_error_iff {record : Record} {error : PlanError} :
    ofRecord scope mode record = .error error ↔
      ∃ before field after fault, record.persistedFields = before ++ field :: after ∧
        (∀ other ∈ before, ∃ mapping, FieldMapping.ofField scope mode other = .ok mapping) ∧
        FieldMapping.ofField scope mode field = .error fault ∧
        ⟨record.name, field, fault⟩ = error := by
  have hfields : ofRecord scope mode record = .error error ↔
      (record.persistedFields.mapM fun field => (FieldMapping.ofField scope mode field).mapError
        (PlanError.mk record.name field)) = .error error := by
    rw [ofRecord, bind_eq_error]
    exact ⟨fun h => h.resolve_right nofun, Or.inl⟩
  simp only [hfields, mapM_eq_error_iff, mapError_eq_ok, mapError_eq_error]
  constructor
  · rintro ⟨before, field, after, hsplit, hbefore, fault, hfault, rfl⟩
    exact ⟨before, field, after, fault, hsplit, hbefore, hfault, rfl⟩
  · rintro ⟨before, field, after, fault, hsplit, hbefore, hfault, rfl⟩
    exact ⟨before, field, after, hsplit, hbefore, fault, hfault, rfl⟩

/-- The plans of a schema are those of its requests, in order. -/
theorem ofSchemaFault_eq_ok_iff {options : PlanOptions} {schema : Schema} {plans : List Plan} :
    ofSchemaFault options schema = .ok plans ↔
      ∃ requests, Resolved options.defaultMode schema.records requests ∧
        List.Forall₂ (fun request plan => ofRecord
            (scopeOf options.strictReferences schema.enums requests) request.2 request.1 = .ok plan)
          requests plans := by
  simp only [ofSchemaFault, bind_eq_ok, requested_eq_ok_iff, mapM_eq_ok, mapError_eq_ok]

/-- A schema has no plans for the first fault among its requests, or, if they have none, for the
first of them that has no plan. -/
theorem ofSchemaFault_eq_error_iff {options : PlanOptions} {schema : Schema} :
    ofSchemaFault options schema = .error fault ↔
      (∃ before record after requests, schema.records = before ++ record :: after ∧
          Resolved options.defaultMode before requests ∧
          FirstRequestFault options.defaultMode record fault) ∨
        ∃ before request after error,
          Resolved options.defaultMode schema.records (before ++ request :: after) ∧
          let scope := scopeOf options.strictReferences schema.enums (before ++ request :: after)
          (∀ other ∈ before, ∃ plan, ofRecord scope other.2 other.1 = .ok plan) ∧
            ofRecord scope request.2 request.1 = .error error ∧ .field error = fault := by
  simp only [ofSchemaFault, bind_eq_error, requested_eq_error_iff, requested_eq_ok_iff,
    mapM_eq_error_iff, mapError_eq_ok, mapError_eq_error]
  refine or_congr_right ⟨?_, ?_⟩
  · rintro ⟨requests, hresolved, before, request, after, rfl, hbefore, error, herror, rfl⟩
    exact ⟨before, request, after, error, hresolved, hbefore, herror, rfl⟩
  · rintro ⟨before, request, after, error, hresolved, hbefore, herror, rfl⟩
    exact ⟨_, hresolved, before, request, after, rfl, hbefore, error, herror, rfl⟩

theorem ofSource_eq_ok_iff {options : PlanOptions} {source : String} {plans : List Plan} :
    ofSource options source = .ok plans ↔
      ∃ schema, Schema.parse source = .ok schema ∧ ofSchemaFault options schema = .ok plans := by
  unfold ofSource
  cases hparse : Schema.parse source with
  | error cause => simp
  | ok schema => simp [ofSchema, mapError_eq_ok]

/-- Every error of a source has its label. -/
theorem ofSource_eq_error {options : PlanOptions} {source : String} {error : CompileError}
    (h : ofSource options source = .error error) :
    (∃ cause, Schema.parse source = .error cause ∧ error = ⟨options.label, .source cause⟩) ∨
      ∃ schema fault, Schema.parse source = .ok schema ∧
        ofSchemaFault options schema = .error fault ∧ error = ⟨options.label, fault⟩ := by
  unfold ofSource at h
  split at h
  · rename_i cause hparse
    cases h
    exact Or.inl ⟨cause, hparse, rfl⟩
  · rename_i schema hparse
    obtain ⟨fault, hfault, rfl⟩ := mapError_eq_error.1 h
    exact Or.inr ⟨schema, fault, hparse, hfault, rfl⟩

end Plan

end RecordMirror
