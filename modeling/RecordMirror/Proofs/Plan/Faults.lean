import RecordMirror.Proofs.Code.Module
import RecordMirror.Proofs.Schema.Names
/-!
Every way in which compiling a source can fail.  The faults of a source are known, each has a chain
of causes of one of nine forms, and a source that has none of them has a module.
-/

namespace RecordMirror

/-! ### Chains of causes -/

/-- The classes of the errors that a compile error can be caused by. -/
inductive ErrorClass
  | scan
  | schema
  | notARecord
  | mode
  | field
  | typeText
  | mapType
  | enumeration
  | reference
  | mapKey
deriving DecidableEq, Repr

/-- The class of the error a source is refused with. -/
def SourceError.errorClass : SourceError → ErrorClass
  | unscannable _ => .scan
  | malformed cause => if cause.isNotARecord then .notARecord else .schema

/-- The classes of an error in the text of a type and of its causes, outermost first. -/
def TypeTextError.chain : TypeTextError → List ErrorClass
  | unscannable _ _ => [.typeText, .scan]
  | empty _ => [.typeText]
  | malformed _ fault _ => if fault.isMapFault then [.mapType] else [.typeText]

/-- The classes of the error a field is refused with and of its causes. -/
def FieldFault.chain : FieldFault → List ErrorClass
  | unreadableType cause => cause.chain
  | enumeration _ => [.enumeration]
  | unresolved _ _ => [.reference]
  | key _ => [.mapKey]

/-- The classes of the causes of a compile error with a fault, outermost first. -/
def CompileFault.chain : CompileFault → List ErrorClass
  | source cause => [cause.errorClass]
  | unknownMode _ _ _ => [.mode]
  | mirroredTwice _ _ _ => []
  | field cause => .field :: cause.fault.chain

/-- The chains of causes that compile errors have. -/
def causeChains : List (List ErrorClass) :=
  [[], [.scan], [.schema], [.notARecord], [.mode], [.field, .typeText], [.field, .mapType],
    [.field, .enumeration], [.field, .reference]]

/-! ### What stops a source -/

/-- What stops the mapping of a field in a mode: its type text, which is scanned but denotes no
type, or a reference to an enumeration, or one to a record without a mirror. -/
inductive StopsField (strict : Bool) (enums : List Enumeration) (mode : Mode) (field : Field) :
    FieldFault → Prop
  | unreadable {stream : TokenStream} {t : Token} (fault : TypeFault) :
      Token.scan field.declaredType = .ok stream → t ∈ stream.toList →
      StopsField strict enums mode field
        (.unreadableType (.malformed field.declaredType fault t.position.column))
  | enumeration {type : TypeExpr} {enum : Enumeration} :
      TypeExpr.parse field.declaredType = .ok type → enum ∈ enums →
      enum.name ∈ type.references → StopsField strict enums mode field (.enumeration enum.name)
  | unresolved {type : TypeExpr} {record : String} :
      strict = true → TypeExpr.parse field.declaredType = .ok type → record ∈ type.references →
      StopsField strict enums mode field (.unresolved record (mode.mirrorName record))

/-- What stops the planning of a schema. -/
inductive StopsSchema (options : PlanOptions) (schema : Schema) : CompileFault → Prop
  | unknownMode {record : Record} {request : MirrorRequest} {cause : UnknownMode} :
      record ∈ schema.records → request ∈ record.mirrors →
      Mode.resolve request.mode options.defaultMode = .error cause →
      StopsSchema options schema (.unknownMode request.line record.name cause)
  | mirroredTwice {record : Record} {earlier request : MirrorRequest}
      {before after : List MirrorRequest} {mode : Mode} :
      record ∈ schema.records → record.mirrors = before ++ request :: after →
      earlier ∈ before → Mode.resolve earlier.mode options.defaultMode = .ok mode →
      Mode.resolve request.mode options.defaultMode = .ok mode →
      StopsSchema options schema (.mirroredTwice request.line record.name mode)
  | field {record : Record} {mode : Mode} {field : Field} {fault : FieldFault} :
      record ∈ schema.records → field ∈ record.persistedFields →
      StopsField options.strictReferences schema.enums mode field fault →
      StopsSchema options schema (.field ⟨record.name, field, fault⟩)

/-- What stops the compilation of a source.  A fault in its tokens is reported at one of them. -/
inductive StopsSource (options : PlanOptions) (source : String) : CompileFault → Prop
  | unscannable {cause : ScanError} : Token.scan source = .error cause →
      StopsSource options source (.source (.unscannable cause))
  | malformed {stream : TokenStream} {cause : SchemaError} {t : Token} :
      Token.scan source = .ok stream → t ∈ stream.toList → cause.ReportedAt t →
      StopsSource options source (.source (.malformed cause))
  | unplanned {schema : Schema} {fault : CompileFault} : Schema.parse source = .ok schema →
      StopsSchema options schema fault → StopsSource options source fault

/-! ### The chains of what stops a source -/

variable {options : PlanOptions} {source : String} {fault : CompileFault}

theorem StopsField.chain_mem {strict : Bool} {enums : List Enumeration} {mode : Mode}
    {field : Field} {fault : FieldFault} (h : StopsField strict enums mode field fault) :
    fault.chain ∈ [[.typeText], [.mapType], [.enumeration], [.reference]] := by
  rcases h with ⟨fault, -, -⟩ | ⟨-, -, -⟩ | ⟨-, -, -⟩
  · simp only [FieldFault.chain, TypeTextError.chain]
    split <;> simp
  · simp [FieldFault.chain]
  · simp [FieldFault.chain]

theorem StopsSchema.chain_mem {schema : Schema} (h : StopsSchema options schema fault) :
    fault.chain ∈ causeChains := by
  rcases h with ⟨-, -, -⟩ | ⟨-, -, -, -, -⟩ | ⟨-, -, hfield⟩
  · simp [CompileFault.chain, causeChains]
  · simp [CompileFault.chain, causeChains]
  · have hchain := hfield.chain_mem
    simp only [List.mem_cons, List.not_mem_nil, or_false] at hchain
    rcases hchain with hchain | hchain | hchain | hchain <;>
      simp [CompileFault.chain, causeChains, hchain]

theorem StopsSource.chain_mem (h : StopsSource options source fault) :
    fault.chain ∈ causeChains := by
  rcases h with hscan | ⟨hscan, ht, hreported⟩ | ⟨hparse, hschema⟩
  · simp [CompileFault.chain, SourceError.errorClass, causeChains]
  · simp only [CompileFault.chain, SourceError.errorClass]
    split <;> simp [causeChains]
  · exact hschema.chain_mem

/-- Only a record that is mirrored twice in one mode is an error without a cause. -/
theorem CompileFault.chain_eq_nil_iff :
    fault.chain = [] ↔ ∃ line record mode, fault = .mirroredTwice line record mode := by
  cases fault with
  | mirroredTwice line record mode => simp [chain]
  | source cause => simp [chain]
  | unknownMode line record cause => simp [chain]
  | field cause => simp [chain]

/-! ### Nothing else stops a source -/

theorem Scope.refusal?_stops {strict : Bool} {enums : List Enumeration}
    {requests : List (Record × Mode)} {mode : Mode} {field : Field} {type : TypeExpr}
    {fault : FieldFault} (hparse : TypeExpr.parse field.declaredType = .ok type)
    (h : (Plan.scopeOf strict enums requests).refusal? mode type = some fault) :
    StopsField strict enums mode field fault := by
  unfold Scope.refusal? at h
  split at h
  · rename_i name hfind
    cases h
    have hname := List.find?_some hfind
    obtain ⟨enum, henum, rfl⟩ := List.mem_map.1 (List.contains_iff_mem.1 hname)
    exact .enumeration hparse henum (List.mem_of_find?_eq_some hfind)
  · split at h
    · cases h
    · rename_i mirrors hmirrors
      obtain ⟨record, hfind, rfl⟩ := Option.map_eq_some_iff.1 h
      refine .unresolved ?_ hparse (List.mem_of_find?_eq_some hfind)
      by_contra hstrict
      simp [Plan.scopeOf, hstrict] at hmirrors

theorem TypeExpr.tokens_of_parse_empty {text text' : String} {stream : TokenStream}
    (hscan : Token.scan text = .ok stream) (h : parse text = .error (.empty text')) :
    stream.tokens = [] := by
  unfold parse at h
  rw [hscan] at h
  simp only at h
  split at h
  · exact List.isEmpty_iff.1 (by assumption)
  · split at h <;> cases h

theorem FieldMapping.ofField_stops {strict : Bool} {enums : List Enumeration}
    {requests : List (Record × Mode)} {mode : Mode} {field : Field} {fault : FieldFault}
    (hdeclared : field.Declared)
    (h : ofField (Plan.scopeOf strict enums requests) mode field = .error fault) :
    StopsField strict enums mode field fault := by
  rcases ofField_eq_error h with ⟨cause, hparse, rfl⟩ | ⟨type, hparse, hrefusal⟩
  · obtain ⟨stream, hscan, hnonempty⟩ := hdeclared.type_scans
    rcases (TypeExpr.parse_error hparse).2 stream hscan with rfl | ⟨fault, t, ht, rfl⟩
    · exact absurd (TypeExpr.tokens_of_parse_empty hscan hparse) hnonempty
    · exact .unreadable fault hscan ht
  · exact Scope.refusal?_stops hparse hrefusal

namespace Plan

theorem FirstRequestFault.stops {schema : Schema} {record : Record}
    (hrecord : record ∈ schema.records)
    (h : FirstRequestFault options.defaultMode record fault) :
    StopsSchema options schema fault := by
  obtain @⟨before, _, _, _, _, hsplit, hnamed, -, hfault⟩ := h
  cases hfault with
  | unknownMode hresolve => exact .unknownMode hrecord (by simp [hsplit]) hresolve
  | @mirroredTwice mode hresolve hmode =>
      have hearlier : .ok mode ∈ named options.defaultMode before := by
        rw [hnamed]
        exact List.mem_map_of_mem hmode
      obtain ⟨earlier, hmem, hresolved⟩ := List.mem_map.1 hearlier
      exact .mirroredTwice hrecord hsplit hmem hresolved hresolve

theorem ofSchemaFault_stops {schema : Schema}
    (hdeclared : ∀ record ∈ schema.records, record.Declared)
    (h : ofSchemaFault options schema = .error fault) : StopsSchema options schema fault := by
  rcases ofSchemaFault_eq_error_iff.1 h with ⟨before, record, after, requests, hsplit, -, hfault⟩ |
    ⟨before, request, after, error, hresolved, -, herror, rfl⟩
  · exact hfault.stops (by simp [hsplit])
  · obtain ⟨earlier, field, later, fault, hfields, -, hfault, rfl⟩ := ofRecord_eq_error_iff.1 herror
    have hrequest : request ∈ before ++ request :: after := by simp
    have hrecord := hresolved.mem_records hrequest
    have hfield : field ∈ request.1.persistedFields := by simp [hfields]
    have hpersisted : field ∈ request.1.fields := List.mem_of_mem_filter hfield
    have hstops := FieldMapping.ofField_stops ((hdeclared _ hrecord).fields field hpersisted) hfault
    exact .field hrecord hfield hstops

theorem ofSource_stops {error : CompileError} (h : ofSource options source = .error error) :
    error.label = options.label ∧ StopsSource options source error.fault := by
  rcases ofSource_eq_error h with ⟨cause, hparse, rfl⟩ | ⟨schema, fault, hparse, hfault, rfl⟩
  · refine ⟨rfl, ?_⟩
    rcases Schema.parse_error hparse with ⟨cause, hscan, rfl⟩ | ⟨stream, e, hscan, rfl, t, ht, hat⟩
    · exact .unscannable hscan
    · exact .malformed hscan ht hat
  · exact ⟨rfl, .unplanned hparse (ofSchemaFault_stops (Schema.parse_declared hparse).1 hfault)⟩

end Plan

/-- Compiling a source has one of two outcomes.  The source has plans and a module; or planning and
compiling it end with the same error, which has the label before its message, a known fault, and a
chain of causes that is of one of the known forms and is empty only for a record mirrored twice. -/
theorem compiling_ends (options : PlanOptions) (persistentModule : Option String)
    (source : String) :
    (∃ plans text, Plan.ofSource options source = .ok plans ∧
        moduleOfSource options persistentModule source = .ok text) ∨
      ∃ fault, StopsSource options source fault ∧
        Plan.ofSource options source = .error ⟨options.label, fault⟩ ∧
        moduleOfSource options persistentModule source =
          .error (.compile ⟨options.label, fault⟩) ∧
        (options.label ++ ": ").toList <+:
          (CompileError.message ⟨options.label, fault⟩).toList ∧
        fault.chain ∈ causeChains ∧
        (fault.chain = [] ↔ ∃ line record mode, fault = .mirroredTwice line record mode) := by
  cases hplans : Plan.ofSource options source with
  | ok plans => exact Or.inl ⟨plans, _, rfl, moduleOfSource_eq_ok_iff.2 ⟨plans, hplans, rfl⟩⟩
  | error error =>
      obtain ⟨label, fault⟩ := error
      obtain ⟨rfl, hstops⟩ := Plan.ofSource_stops hplans
      refine Or.inr ⟨fault, hstops, rfl, ?_, ?_, hstops.chain_mem, CompileFault.chain_eq_nil_iff⟩
      · simp only [moduleOfSource, hplans]
      · have hmessage : (CompileError.message ⟨options.label, fault⟩).toList =
            (options.label ++ ": ").toList ++ fault.message.toList := String.toList_append
        rw [hmessage]
        exact List.prefix_append _ _

end RecordMirror
