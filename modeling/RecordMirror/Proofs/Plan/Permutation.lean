import RecordMirror.Proofs.Plan.Names
/-!
The order of declarations.  What a plan may refer to is told by names, and these are the same
wherever their declarations stand.  So the plans of a schema come in blocks, one for each record,
and the block of a record moves with it.
-/

namespace RecordMirror

/-! ### Scopes -/

/-- Scopes that hold the same names, in whatever order. -/
structure Scope.SameNames (scope scope' : Scope) : Prop where
  mirrors : Option.Rel List.Perm scope.mirrors scope'.mirrors
  enums : scope.enums.Perm scope'.enums

theorem contains_eq_of_perm {names names' : List String} (h : names.Perm names') (name : String) :
    names.contains name = names'.contains name := by
  rw [Bool.eq_iff_iff, List.contains_iff_mem, List.contains_iff_mem, h.mem_iff]

namespace Scope.SameNames

variable {scope scope' : Scope} (h : scope.SameNames scope') (mode : Mode)

include h

/-- A scope is only asked whether it holds a name. -/
theorem refusal?_eq (type : TypeExpr) : scope.refusal? mode type = scope'.refusal? mode type := by
  obtain ⟨mirrors, enums⟩ := scope
  obtain ⟨mirrors', enums'⟩ := scope'
  have henums := contains_eq_of_perm h.enums
  have hmirrors : Option.Rel List.Perm mirrors mirrors' := h.mirrors
  cases hmirrors with
  | none => simp only [refusal?, henums]
  | some hperm => simp only [refusal?, henums, contains_eq_of_perm hperm]

theorem ofField_eq (field : Field) :
    FieldMapping.ofField scope mode field = FieldMapping.ofField scope' mode field := by
  simp only [FieldMapping.ofField, h.refusal?_eq]

theorem ofRecord_eq (record : Record) :
    Plan.ofRecord scope mode record = Plan.ofRecord scope' mode record := by
  simp only [Plan.ofRecord, h.ofField_eq]

end Scope.SameNames

namespace Plan

variable {default : Mode} {records records' : List Record}
  {requests requests' : List (Record × Mode)}

theorem scopeOf_sameNames (strict : Bool) {enums enums' : List Enumeration}
    (henums : enums.Perm enums') (hrequests : requests.Perm requests') :
    (scopeOf strict enums requests).SameNames (scopeOf strict enums' requests') where
  mirrors := by
    cases strict with
    | false => exact .none
    | true => exact .some (hrequests.map _)
  enums := henums.map _

/-! ### Requests -/

/-- The modes that the requests of a record name, in order. -/
def modesOf (default : Mode) (record : Record) : List Mode :=
  (named default record.mirrors).filterMap Except.toOption

/-- The requests of a record, in order. -/
def requestsOf (default : Mode) (record : Record) : List (Record × Mode) :=
  (modesOf default record).map (record, ·)

theorem modesOf_eq {record : Record} {modes : List Mode}
    (h : named default record.mirrors = modes.map .ok) : modesOf default record = modes := by
  rw [modesOf, h, List.filterMap_map]
  exact List.filterMap_some

/-- What is requested is requested record by record. -/
theorem resolved_iff_requestsOf :
    Resolved default records requests ↔
      (∀ record ∈ records, named default record.mirrors = (modesOf default record).map .ok ∧
        (modesOf default record).Nodup) ∧
      requests = records.flatMap (requestsOf default) := by
  induction records generalizing requests with
  | nil => simp [resolved_nil_iff]
  | cons record rest ih =>
      rw [resolved_cons_iff, List.forall_mem_cons, List.flatMap_cons]
      constructor
      · rintro ⟨modes, others, hnamed, hdistinct, hothers, rfl⟩
        obtain ⟨hrest, rfl⟩ := ih.1 hothers
        have hmodes := modesOf_eq hnamed
        subst hmodes
        exact ⟨⟨⟨hnamed, hdistinct⟩, hrest⟩, rfl⟩
      · rintro ⟨⟨⟨hnamed, hdistinct⟩, hrest⟩, rfl⟩
        exact ⟨_, _, hnamed, hdistinct, ih.2 ⟨hrest, rfl⟩, rfl⟩

theorem Resolved.perm (h : Resolved default records requests) (hrecords : records.Perm records') :
    Resolved default records' (records'.flatMap (requestsOf default)) ∧
      requests.Perm (records'.flatMap (requestsOf default)) := by
  obtain ⟨hnamed, rfl⟩ := resolved_iff_requestsOf.1 h
  constructor
  · apply resolved_iff_requestsOf.2
    exact ⟨fun record hrecord => hnamed record (hrecords.mem_iff.2 hrecord), rfl⟩
  · exact hrecords.flatMap_right _

/-! ### Plans -/

/-- The plans of some requests, as far as there are any. -/
def plansIn (scope : Scope) (requests : List (Record × Mode)) : List Plan :=
  requests.filterMap fun request => (ofRecord scope request.2 request.1).toOption

theorem plansIn_flatMap (scope : Scope) (requestsOf : Record → List (Record × Mode)) :
    plansIn scope (records.flatMap requestsOf) =
      records.flatMap fun record => plansIn scope (requestsOf record) :=
  List.filterMap_flatMap

theorem plansIn_cons {scope : Scope} {request : Record × Mode} {plan : Plan}
    (h : ofRecord scope request.2 request.1 = .ok plan) :
    plansIn scope (request :: requests) = plan :: plansIn scope requests :=
  List.filterMap_cons_some (by rw [h, Except.toOption])

/-- The plans of requests that all have one are these. -/
theorem forall₂_ofRecord_iff {scope : Scope} {plans : List Plan} :
    List.Forall₂ (fun request plan => ofRecord scope request.2 request.1 = .ok plan)
        requests plans ↔
      (∀ request ∈ requests, ∃ plan, ofRecord scope request.2 request.1 = .ok plan) ∧
        plans = plansIn scope requests := by
  induction requests generalizing plans with
  | nil => simp [plansIn]
  | cons request rest ih =>
      rw [List.forall₂_cons_left_iff, List.forall_mem_cons]
      constructor
      · rintro ⟨plan, others, hplan, hothers, rfl⟩
        obtain ⟨hrest, rfl⟩ := ih.1 hothers
        exact ⟨⟨⟨plan, hplan⟩, hrest⟩, (plansIn_cons hplan).symm⟩
      · rintro ⟨⟨⟨plan, hplan⟩, hrest⟩, rfl⟩
        exact ⟨plan, plansIn scope rest, hplan, ih.2 ⟨hrest, rfl⟩, plansIn_cons hplan⟩

/-- The plans of a record are one for each of its requests, in order. -/
theorem keys_plansIn_requestsOf {scope : Scope} {record : Record}
    (hnamed : named default record.mirrors = (modesOf default record).map .ok)
    (hplanned : ∀ request ∈ requestsOf default record,
      ∃ plan, ofRecord scope request.2 request.1 = .ok plan) :
    (plansIn scope (requestsOf default record)).map (fun plan => (plan.record, .ok plan.mode)) =
      (named default record.mirrors).map (record.name, ·) := by
  have hplans := forall₂_ofRecord_iff.2 ⟨hplanned, rfl⟩
  calc (plansIn scope (requestsOf default record)).map (fun plan => (plan.record, .ok plan.mode)) =
      (requestsOf default record).map
        (fun request => (request.1.name, (.ok request.2 : Except UnknownMode Mode))) := by
        refine (map_eq_map_of_forall₂ hplans fun request plan hplan => ?_).symm
        obtain ⟨hrecord, hmode⟩ := Prod.mk.inj (key_of_ofRecord hplan)
        rw [hrecord, hmode]
    _ = (named default record.mirrors).map (record.name, ·) := by
        rw [hnamed, requestsOf, List.map_map, List.map_map]
        rfl

/-- A schema whose declarations are reordered has the plans it had.  There is a block of plans for
each record, with one plan for each of its requests in order, and the blocks follow the records. -/
theorem ofSchema_perm {options : PlanOptions} {schema schema' : Schema} {plans : List Plan}
    (hrecords : schema.records.Perm schema'.records) (henums : schema.enums.Perm schema'.enums)
    (h : ofSchema options schema = .ok plans) :
    ∃ block : Record → List Plan,
      (∀ record ∈ schema.records,
        (block record).map (fun plan => (plan.record, .ok plan.mode)) =
          (named options.defaultMode record.mirrors).map (record.name, ·)) ∧
      plans = schema.records.flatMap block ∧
      ofSchema options schema' = .ok (schema'.records.flatMap block) := by
  obtain ⟨requests, hresolved, hplans⟩ := ofSchemaFault_eq_ok_iff.1 (mapError_eq_ok.1 h)
  obtain ⟨hplanned, rfl⟩ := forall₂_ofRecord_iff.1 hplans
  obtain ⟨hresolved', hperm⟩ := hresolved.perm hrecords
  obtain ⟨hnamed, rfl⟩ := resolved_iff_requestsOf.1 hresolved
  let scope := scopeOf options.strictReferences schema.enums
    (schema.records.flatMap (requestsOf options.defaultMode))
  refine ⟨fun record => plansIn scope (requestsOf options.defaultMode record), ?_, ?_, ?_⟩
  · intro record hrecord
    apply keys_plansIn_requestsOf (hnamed record hrecord).1
    intro request hrequest
    exact hplanned request (List.mem_flatMap.2 ⟨record, hrecord, hrequest⟩)
  · exact plansIn_flatMap scope _
  · have hscope := scopeOf_sameNames options.strictReferences henums hperm
    apply mapError_eq_ok.2
    apply ofSchemaFault_eq_ok_iff.2
    refine ⟨_, hresolved', ?_⟩
    rw [← plansIn_flatMap]
    simp only [← hscope.ofRecord_eq]
    apply forall₂_ofRecord_iff.2
    exact ⟨fun request hrequest => hplanned request (hperm.mem_iff.2 hrequest), rfl⟩

end Plan

end RecordMirror
