import RecordMirror.Proofs.Plan.Faults
import RecordMirror.Proofs.Schema.Relocation
/-!
Planning sources that stand elsewhere.  A plan holds no place and depends on none, and of a fault
only the reported line and column do.  So two sources of the same lexemes have the same plans, or
are refused with faults that are the same once their places are forgotten.
-/

namespace RecordMirror

variable (r : Relocation)

/-- The error, reported at the new place.  What cannot be scanned has no tokens that could move. -/
def SourceError.relocate : SourceError → SourceError
  | unscannable cause => unscannable cause
  | malformed cause => malformed (cause.relocate r)

/-- The fault, reported at the new place or line. -/
def CompileFault.relocate : CompileFault → CompileFault
  | source cause => source (cause.relocate r)
  | unknownMode line record cause => unknownMode (r.line line) record cause
  | mirroredTwice line record mode => mirroredTwice (r.line line) record mode
  | field cause => field cause

/-- The error, reported at the new place or line. -/
def CompileError.relocate (e : CompileError) : CompileError :=
  ⟨e.label, e.fault.relocate r⟩

/-! ### What does not move -/

theorem SchemaFault.message_relocate (fault : SchemaFault) :
    (fault.relocate r).message = fault.message := by
  cases fault <;> rfl

theorem SchemaError.isNotARecord_relocate (e : SchemaError) :
    (e.relocate r).isNotARecord = e.isNotARecord := by
  obtain ⟨fault, position⟩ := e
  cases fault <;> rfl

theorem SourceError.errorClass_relocate (e : SourceError) :
    (e.relocate r).errorClass = e.errorClass := by
  cases e with
  | unscannable cause => rfl
  | malformed cause => simp only [relocate, errorClass, SchemaError.isNotARecord_relocate]

theorem CompileFault.chain_relocate (fault : CompileFault) :
    (fault.relocate r).chain = fault.chain := by
  cases fault with
  | source cause => simp only [relocate, chain, SourceError.errorClass_relocate]
  | unknownMode line record cause => rfl
  | mirroredTwice line record mode => rfl
  | field cause => rfl

/-! ### Planning -/

namespace Plan

variable (default : Mode) (options : PlanOptions)

theorem requestedModes_relocate (record : String) (seen : List Mode)
    (requests : List MirrorRequest) :
    requestedModes default record seen (requests.map (MirrorRequest.relocate r)) =
      (requestedModes default record seen requests).mapError (CompileFault.relocate r) := by
  induction requests generalizing seen with
  | nil => rfl
  | cons request rest ih =>
      simp only [List.map_cons, requestedModes, MirrorRequest.relocate]
      cases Mode.resolve request.mode default with
      | error cause => rfl
      | ok mode =>
          by_cases hseen : mode ∈ seen
          · simp only [if_pos hseen]
            rfl
          · simp only [if_neg hseen, ih]
            cases requestedModes default record (mode :: seen) rest <;> rfl

theorem requested_relocate (records : List Record) :
    requested default (records.map (Record.relocate r)) =
      ((requested default records).map
        (List.map fun request => (request.1.relocate r, request.2))).mapError
          (CompileFault.relocate r) := by
  induction records with
  | nil => rfl
  | cons record rest ih =>
      simp only [List.map_cons, requested, Record.relocate, requestedModes_relocate]
      cases requestedModes default record.name [] record.mirrors with
      | error fault => rfl
      | ok modes =>
          change (requested default (rest.map (Record.relocate r)) >>= _) = _
          rw [ih]
          cases requested default rest with
          | error fault => rfl
          | ok others =>
              simp [bind, Except.bind, pure, Except.pure, Except.map, Except.mapError,
                Record.relocate]

theorem ofSchemaFault_relocate (schema : Schema) :
    ofSchemaFault options (schema.relocate r) =
      (ofSchemaFault options schema).mapError (CompileFault.relocate r) := by
  simp only [ofSchemaFault, Schema.relocate, requested_relocate]
  cases requested options.defaultMode schema.records with
  | error fault => rfl
  | ok requests =>
      -- A scope holds names only, and these do not move.
      have hscope : scopeOf options.strictReferences schema.enums
            (requests.map fun request => (request.1.relocate r, request.2)) =
          scopeOf options.strictReferences schema.enums requests := by
        simp [scopeOf, Record.relocate, Function.comp_def]
      change (List.mapM _ (requests.map fun request => (request.1.relocate r, request.2))) =
        Except.mapError _ (List.mapM _ requests)
      rw [hscope, List.mapM_map, mapError_mapM]
      congr 1
      funext request
      change (ofRecord _ request.2 request.1).mapError _ = Except.mapError _ (Except.mapError _ _)
      cases ofRecord (scopeOf options.strictReferences schema.enums requests) request.2
        request.1 <;> rfl

/-- Planning a source only asks for its lexemes, up to the places it reports. -/
theorem ofSource_eq_of_lexemes {source source' : String} {stream stream' : TokenStream}
    (hscan : Token.scan source = .ok stream) (hscan' : Token.scan source' = .ok stream')
    (h : stream.lexemes = stream'.lexemes) :
    (ofSource options source).mapError (CompileError.relocate .toStart) =
      (ofSource options source').mapError (CompileError.relocate .toStart) := by
  have hforget : ∀ {source : String} {stream : TokenStream}, Token.scan source = .ok stream →
      (ofSource options source).mapError (CompileError.relocate .toStart) =
        match Schema.ofTokens (stream.relocate .toStart) with
        | .error cause => .error ⟨options.label, .source (.malformed cause)⟩
        | .ok schema => ofSchema options schema := by
    intro source stream hscan
    simp only [ofSource, Schema.parse, hscan, Schema.ofTokens_relocate]
    cases Schema.ofTokens stream with
    | error cause => rfl
    | ok schema =>
        simp only [Except.map, Except.mapError, ofSchema, ofSchemaFault_relocate]
        cases ofSchemaFault options schema <;> rfl
  rw [hforget hscan, hforget hscan', TokenStream.relocate_toStart_eq h]

end Plan

end RecordMirror
