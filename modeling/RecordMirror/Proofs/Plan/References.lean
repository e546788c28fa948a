import RecordMirror.Proofs.Plan.Names
/-!
References of planned fields.  Where references have to be resolved, the record that a field refers
to is planned in the mode of the field, whether it is declared before or after.
-/

namespace RecordMirror

/-- A scope allows a type if no reference of the type names an enumeration and each one has its
mirror, where mirrors are asked for. -/
theorem Scope.refusal?_eq_none_iff {scope : Scope} {mode : Mode} {type : TypeExpr} :
    scope.refusal? mode type = none ↔ (∀ record ∈ type.references, record ∉ scope.enums) ∧
      ∀ mirrors, scope.mirrors = some mirrors →
        ∀ record ∈ type.references, mode.mirrorName record ∈ mirrors := by
  unfold refusal?
  have henums : type.references.find? (scope.enums.contains ·) = none ↔
      ∀ record ∈ type.references, record ∉ scope.enums := by
    simp [List.find?_eq_none]
  cases hfind : type.references.find? (scope.enums.contains ·) with
  | some name =>
      refine iff_of_false nofun ?_
      rintro ⟨hnone, -⟩
      rw [henums.2 hnone] at hfind
      cases hfind
  | none =>
      have hfree := henums.1 hfind
      cases hmirrors : scope.mirrors with
      | none => exact iff_of_true rfl ⟨hfree, nofun⟩
      | some mirrors =>
          simp only [Option.map_eq_none_iff, List.find?_eq_none, Bool.not_eq_true',
            Bool.not_eq_false, List.contains_iff_mem, Option.some.injEq, forall_eq']
          exact ⟨fun h => ⟨hfree, h⟩, And.right⟩

namespace Plan

theorem references_allowed {scope : Scope} {mode : Mode} {record : Record} {plan : Plan}
    (h : ofRecord scope mode record = .ok plan) {mapping : FieldMapping}
    (hmapping : mapping ∈ plan.fields) {type : TypeExpr}
    (hparse : TypeExpr.parse mapping.declaredType = .ok type) :
    scope.refusal? mode type = none := by
  obtain ⟨fields, hfields, rfl⟩ := ofRecord_eq_ok_iff.1 h
  obtain ⟨field, -, hfield⟩ := exists_of_forall₂ hfields hmapping
  obtain ⟨type', hparse', hallowed, rfl⟩ := FieldMapping.ofField_eq_ok_iff.1 hfield
  obtain rfl : type' = type := Except.ok.inj (hparse'.symm.trans hparse)
  exact hallowed

/-- Where references are strict, what a planned field refers to is planned in the same mode. -/
theorem references_planned {options : PlanOptions} {source : String} {plans : List Plan}
    (h : ofSource options source = .ok plans) (hstrict : options.strictReferences = true)
    {plan : Plan} (hplan : plan ∈ plans) {mapping : FieldMapping}
    (hmapping : mapping ∈ plan.fields) {type : TypeExpr}
    (hparse : TypeExpr.parse mapping.declaredType = .ok type) {name : String}
    (hname : name ∈ type.references) :
    ∃ other ∈ plans, other.mode.mirrorName other.record = plan.mode.mirrorName name := by
  obtain ⟨schema, -, hplans⟩ := ofSource_eq_ok_iff.1 h
  obtain ⟨requests, -, hrequests⟩ := ofSchemaFault_eq_ok_iff.1 hplans
  obtain ⟨request, -, hrecord⟩ := exists_of_forall₂ hrequests hplan
  have hmode : request.2 = plan.mode := (Prod.mk.inj (key_of_ofRecord hrecord)).2
  have hallowed := references_allowed hrecord hmapping hparse
  rw [Scope.refusal?_eq_none_iff] at hallowed
  have hmirrors := hallowed.2 _ (if_pos hstrict) name hname
  have hsame : requests.map (fun request => request.2.mirrorName request.1.name) =
      plans.map fun plan => plan.mode.mirrorName plan.record := by
    apply map_eq_map_of_forall₂ hrequests
    intro request plan hrecord
    obtain ⟨hname, hmode⟩ := Prod.mk.inj (key_of_ofRecord hrecord)
    rw [hname, hmode]
  rw [hmode] at hmirrors
  exact List.mem_map.1 (hsame ▸ hmirrors)

end Plan

end RecordMirror
