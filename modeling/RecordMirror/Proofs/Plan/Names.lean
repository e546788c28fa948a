import RecordMirror.Proofs.Code.Module
import RecordMirror.Proofs.Schema.Names
/-!
What is known of the names in the plans of a source.
-/

namespace RecordMirror

namespace Plan

/-- What is known of a plan: the names of its record and of its fields are free words, and its
mappings are settled by types. -/
structure Declared (plan : Plan) : Prop where
  record_isWord : isWord plan.record.toList = true
  record_free : Schema.FreeTypeName plan.record
  fields : ∀ mapping ∈ plan.fields,
    isWord mapping.name.toList = true ∧ Schema.FreeFieldName mapping.name
  typed : plan.Typed

variable {scope : Scope} {mode : Mode} {record : Record} {plan : Plan}

theorem declared_of_ofRecord (hrecord : record.Declared)
    (h : ofRecord scope mode record = .ok plan) : plan.Declared := by
  have htyped := typed_of_ofRecord h
  obtain ⟨fields, hfields, rfl⟩ := ofRecord_eq_ok_iff.1 h
  refine ⟨hrecord.name_isWord, hrecord.name_free, ?_, htyped⟩
  intro mapping hmapping
  obtain ⟨field, hfield, hmapped⟩ := exists_of_forall₂ hfields hmapping
  obtain ⟨type, -, -, rfl⟩ := FieldMapping.ofField_eq_ok_iff.1 hmapped
  have hdeclared := hrecord.fields field (List.mem_of_mem_filter hfield)
  exact ⟨hdeclared.name_isWord, hdeclared.name_free⟩

theorem key_of_ofRecord (h : ofRecord scope mode record = .ok plan) :
    (record.name, mode) = (plan.record, plan.mode) := by
  obtain ⟨fields, -, rfl⟩ := ofRecord_eq_ok_iff.1 h
  rfl

/-- The plans of a source differ in the record or in the mode. -/
theorem declared_of_ofSource {options : PlanOptions} {source : String} {plans : List Plan}
    (h : ofSource options source = .ok plans) :
    (∀ plan ∈ plans, plan.Declared) ∧
      (plans.map fun plan => (plan.record, plan.mode)).Nodup := by
  obtain ⟨schema, hparse, hplans⟩ := ofSource_eq_ok_iff.1 h
  obtain ⟨requests, hresolved, hrequests⟩ := ofSchemaFault_eq_ok_iff.1 hplans
  obtain ⟨hdeclared, hnames⟩ := Schema.parse_declared hparse
  constructor
  · intro plan hplan
    obtain ⟨request, hrequest, hrecord⟩ := exists_of_forall₂ hrequests hplan
    exact declared_of_ofRecord (hdeclared _ (hresolved.mem_records hrequest)) hrecord
  · rw [← map_eq_map_of_forall₂ hrequests fun _ _ hrecord => key_of_ofRecord hrecord]
    exact hresolved.keys_nodup hnames

theorem field_names_of_ofRecord (h : ofRecord scope mode record = .ok plan) :
    plan.fields.map (·.name) = record.persistedFields.map (·.name) := by
  obtain ⟨fields, hfields, rfl⟩ := ofRecord_eq_ok_iff.1 h
  refine (map_eq_map_of_forall₂ hfields fun field mapping hmapping => ?_).symm
  obtain ⟨type, -, -, rfl⟩ := FieldMapping.ofField_eq_ok_iff.1 hmapping
  rfl

/-- The fields of a plan of a source have names of their own. -/
theorem field_names_nodup_of_ofSource {options : PlanOptions} {source : String}
    {plans : List Plan} (h : ofSource options source = .ok plans) :
    ∀ plan ∈ plans, (plan.fields.map (·.name)).Nodup := by
  obtain ⟨schema, hparse, hplans⟩ := ofSource_eq_ok_iff.1 h
  obtain ⟨requests, hresolved, hrequests⟩ := ofSchemaFault_eq_ok_iff.1 hplans
  intro plan hplan
  obtain ⟨request, hrequest, hrecord⟩ := exists_of_forall₂ hrequests hplan
  have hnodup := Schema.parse_field_names_nodup hparse (hresolved.mem_records hrequest)
  rw [field_names_of_ofRecord hrecord]
  exact hnodup.sublist (List.filter_sublist.map _)

end Plan

end RecordMirror
