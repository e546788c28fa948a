import RecordMirror.ModuleText
import RecordMirror.Proofs.Plan.Requests
/-!
What is not mirrored.  Planning looks at the records with requests, at their persisted fields, and
at the names of enumerations.  All else can be taken from a schema, and neither its plans nor its
first fault change.
-/

namespace RecordMirror

/-- A record without the fields that are not persisted. -/
def Record.mirroredPart (record : Record) : Record :=
  { record with fields := record.persistedFields }

/-- What is mirrored of a schema: the persisted fields of the records with requests.  Of
enumerations only the names are left. -/
def Schema.mirroredPart (schema : Schema) : Schema where
  records := (schema.records.filter (!·.mirrors.isEmpty)).map Record.mirroredPart
  enums := schema.enums.map fun enum => ⟨enum.name, []⟩

theorem Record.persistedFields_mirroredPart (record : Record) :
    record.mirroredPart.persistedFields = record.persistedFields := by
  simp only [mirroredPart, persistedFields, List.filter_filter, Bool.and_self]

namespace Plan

variable (default : Mode) (options : PlanOptions)

/-! ### Requests -/

/-- A record without requests requests nothing and cannot be at fault. -/
theorem requested_cons_of_nil {record : Record} (h : record.mirrors = []) (records : List Record) :
    requested default (record :: records) = requested default records := by
  rw [requested, h]
  change requested default records >>= pure = _
  exact bind_pure _

theorem requested_filter (records : List Record) :
    requested default (records.filter (!·.mirrors.isEmpty)) = requested default records := by
  induction records with
  | nil => rfl
  | cons record rest ih =>
      by_cases hmirrors : record.mirrors = []
      · rw [List.filter_cons_of_neg (by simp [hmirrors]), requested_cons_of_nil default hmirrors,
          ih]
      · rw [List.filter_cons_of_pos (by simp [hmirrors]), requested, requested, ih]

theorem requested_map_mirroredPart (records : List Record) :
    requested default (records.map Record.mirroredPart) =
      (requested default records).map
        (List.map fun request => (request.1.mirroredPart, request.2)) := by
  induction records with
  | nil => rfl
  | cons record rest ih =>
      rw [List.map_cons, requested, requested, ih]
      change (requestedModes default record.name [] record.mirrors >>= _) = _
      cases requestedModes default record.name [] record.mirrors with
      | error fault => rfl
      | ok modes =>
          cases requested default rest with
          | error fault => rfl
          | ok others => simp [bind, Except.bind, pure, Except.pure, Except.map, Function.comp_def]

/-! ### Plans -/

theorem ofRecord_mirroredPart (scope : Scope) (mode : Mode) (record : Record) :
    ofRecord scope mode record.mirroredPart = ofRecord scope mode record := by
  rw [ofRecord, ofRecord, record.persistedFields_mirroredPart]
  rfl

theorem scopeOf_mirroredPart (strict : Bool) (schema : Schema) (requests : List (Record × Mode)) :
    scopeOf strict schema.mirroredPart.enums
        (requests.map fun request => (request.1.mirroredPart, request.2)) =
      scopeOf strict schema.enums requests := by
  simp only [scopeOf, Schema.mirroredPart, List.map_map]
  rfl

theorem ofSchemaFault_mirroredPart (schema : Schema) :
    ofSchemaFault options schema.mirroredPart = ofSchemaFault options schema := by
  have hrequested : requested options.defaultMode schema.mirroredPart.records =
      (requested options.defaultMode schema.records).map
        (List.map fun request => (request.1.mirroredPart, request.2)) := by
    rw [Schema.mirroredPart, requested_map_mirroredPart, requested_filter]
  rw [ofSchemaFault, ofSchemaFault, hrequested]
  cases requested options.defaultMode schema.records with
  | error fault => rfl
  | ok requests =>
      change List.mapM _ (requests.map fun request => (request.1.mirroredPart, request.2)) =
        List.mapM _ requests
      rw [scopeOf_mirroredPart, List.mapM_map]
      congr 1
      funext request
      exact congrArg (Except.mapError CompileFault.field) (ofRecord_mirroredPart _ _ _)

theorem ofSchema_mirroredPart (schema : Schema) :
    ofSchema options schema.mirroredPart = ofSchema options schema := by
  rw [ofSchema, ofSchema, ofSchemaFault_mirroredPart]

theorem ofSource_of_parse {source : String} {schema : Schema}
    (h : Schema.parse source = .ok schema) : ofSource options source = ofSchema options schema := by
  simp only [ofSource, h]

/-- What is not mirrored has no influence.  A schema and what is mirrored of it have the same plans,
or are refused with the same fault, which settles message and causes.  So two sources with the same
mirrored part have the same plans and the same module, or are refused for the same. -/
theorem unmirrored_irrelevant (options : PlanOptions) :
    (∀ schema, ofSchema options schema.mirroredPart = ofSchema options schema) ∧
    ∀ (persistentModule : Option String) (source source' : String) (schema schema' : Schema),
      Schema.parse source = .ok schema → Schema.parse source' = .ok schema' →
      schema.mirroredPart = schema'.mirroredPart →
        ofSource options source = ofSource options source' ∧
        moduleOfSource options persistentModule source =
          moduleOfSource options persistentModule source' := by
  refine ⟨ofSchema_mirroredPart options, ?_⟩
  intro persistentModule source source' schema schema' hparse hparse' hpart
  have hplans : ofSource options source = ofSource options source' :=
    calc ofSource options source = ofSchema options schema := ofSource_of_parse options hparse
      _ = ofSchema options schema.mirroredPart := (ofSchema_mirroredPart options schema).symm
      _ = ofSchema options schema'.mirroredPart := by rw [hpart]
      _ = ofSchema options schema' := ofSchema_mirroredPart options schema'
      _ = ofSource options source' := (ofSource_of_parse options hparse').symm
  refine ⟨hplans, ?_⟩
  rw [moduleOfSource, moduleOfSource, hplans]

/-- A source with a record that is not mirrored, a field of no type that is not persisted, and an
enumeration with a value, where references are strict; and what is left of it. -/
theorem unmirrored_irrelevant_pens :
    let options : PlanOptions := ⟨.observable, true, "pens"⟩
    let source := "@mirror record Pen \x7b @persisted next: Pen? cap: List<,> \x7d" ++
      " record Box \x7b @persisted pens: List<Pen> \x7d enum Color \x7b red \x7d"
    let source' := "@mirror record Pen \x7b @persisted next: Pen? \x7d enum Color \x7b \x7d"
    ∃ schema schema', Schema.parse source = .ok schema ∧ Schema.parse source' = .ok schema' ∧
      schema.mirroredPart = schema'.mirroredPart ∧ schema ≠ schema' ∧
      moduleOfSource options (some "models") source =
        moduleOfSource options (some "models") source' := by
  intro options source source'
  have hparse : Schema.parse source = .ok
      ⟨[⟨"Pen", [⟨"next", "Pen?", true⟩, ⟨"cap", "List<, >", false⟩], [⟨none, 1⟩]⟩,
        ⟨"Box", [⟨"pens", "List<Pen>", true⟩], []⟩], [⟨"Color", ["red"]⟩]⟩ := by decide +kernel
  have hparse' : Schema.parse source' = .ok
      ⟨[⟨"Pen", [⟨"next", "Pen?", true⟩], [⟨none, 1⟩]⟩], [⟨"Color", []⟩]⟩ := by decide +kernel
  refine ⟨_, _, hparse, hparse', by decide, by decide, ?_⟩
  exact ((unmirrored_irrelevant options).2 _ _ _ _ _ hparse hparse' (by decide)).2

end Plan

end RecordMirror
