import RecordMirror.Mapping
import RecordMirror.Schema.Reader
/-!
Plans: for every requested mirror of a schema, the mappings of the record's persisted fields.
Records are planned independently of each other and in order.
-/

namespace RecordMirror

/-- The plan of one mirror. -/
structure Plan where
  record : String
  mirror : String
  mode : Mode
  fields : List FieldMapping := []
deriving DecidableEq, Repr, Inhabited

/-- The import lines that the fields of a plan need, each once and ordered. -/
def Plan.imports (plan : Plan) : List String :=
  sortedDistinct (plan.fields.flatMap (·.imports))

/-- A field of a record that cannot be mapped. -/
structure PlanError where
  record : String
  field : Field
  fault : FieldFault
deriving DecidableEq, Repr

/-- The wording of the error: the record and the field, then what is wrong. -/
def PlanError.message (e : PlanError) : String :=
  "Record " ++ quoted e.record ++ ", field " ++ quoted e.field.name ++ " (" ++
    e.field.declaredType ++ "): " ++ e.fault.message

/-- The plan of a mirror of a record.  The first field that cannot be mapped decides. -/
def Plan.ofRecord (scope : Scope) (mode : Mode) (record : Record) : Except PlanError Plan := do
  let fields ← record.persistedFields.mapM fun field =>
    (FieldMapping.ofField scope mode field).mapError (⟨record.name, field, ·⟩)
  return ⟨record.name, mode.mirrorName record.name, mode, fields⟩

/-- How a schema is planned. -/
structure PlanOptions where
  /-- The mode of requests that name none. -/
  defaultMode : Mode := .readonly
  /-- Whether a reference needs a mirror of the same mode in the schema. -/
  strictReferences : Bool := false
  /-- What messages call the source. -/
  label : String := "<string>"
deriving DecidableEq, Repr, Inhabited

/-- Why a source has no plans. -/
inductive CompileFault
  | source (cause : SourceError)
  | unknownMode (line : Int) (record : String) (cause : UnknownMode)
  | mirroredTwice (line : Int) (record : String) (mode : Mode)
  | field (cause : PlanError)
deriving DecidableEq, Repr

/-- The wording of a fault. -/
def CompileFault.message : CompileFault → String
  | source cause => cause.message
  | unknownMode line record cause => s!"Line {line}: record {quoted record}: {cause.message}"
  | mirroredTwice line record mode =>
    s!"Line {line}: record {quoted record} is mirrored twice in {quoted mode.name} mode"
  | field cause => cause.message

/-- A fault in a labelled source. -/
structure CompileError where
  label : String
  fault : CompileFault
deriving DecidableEq, Repr

/-- The wording of the error: the label, then the fault. -/
def CompileError.message (e : CompileError) : String :=
  e.label ++ ": " ++ e.fault.message

namespace Plan

/-- The modes that the requests of one record name, in order.  Each may be named once. -/
def requestedModes (default : Mode) (record : String) (seen : List Mode) :
    List MirrorRequest → Except CompileFault (List Mode)
  | [] => .ok []
  | request :: rest =>
    match Mode.resolve request.mode default with
    | .error cause => .error (.unknownMode request.line record cause)
    | .ok mode =>
      if mode ∈ seen then .error (.mirroredTwice request.line record mode)
      else do
        let modes ← requestedModes default record (mode :: seen) rest
        return mode :: modes

/-- The mirrors that a list of records requests, in order. -/
def requested (default : Mode) : List Record → Except CompileFault (List (Record × Mode))
  | [] => .ok []
  | record :: rest => do
    let modes ← requestedModes default record.name [] record.mirrors
    let others ← requested default rest
    return modes.map (record, ·) ++ others

/-- What the mappings of a schema may refer to, given the mirrors it requests. -/
def scopeOf (strict : Bool) (enums : List Enumeration) (requests : List (Record × Mode)) : Scope :=
  ⟨if strict then some (requests.map fun (record, mode) => mode.mirrorName record.name) else none,
    enums.map (·.name)⟩

/-- The plans of the mirrors a schema requests.  All requests are resolved before the first
field is mapped. -/
def ofSchemaFault (options : PlanOptions) (schema : Schema) : Except CompileFault (List Plan) := do
  let requests ← requested options.defaultMode schema.records
  let scope := scopeOf options.strictReferences schema.enums requests
  requests.mapM fun (record, mode) => (ofRecord scope mode record).mapError .field

/-- The plans of a schema, its faults labelled. -/
def ofSchema (options : PlanOptions) (schema : Schema) : Except CompileError (List Plan) :=
  (ofSchemaFault options schema).mapError (⟨options.label, ·⟩)

/-- The plans of a source. -/
def ofSource (options : PlanOptions) (source : String) : Except CompileError (List Plan) :=
  match Schema.parse source with
  | .error cause => .error ⟨options.label, .source cause⟩
  | .ok schema => ofSchema options schema

end Plan

end RecordMirror
