import RecordMirror.Proofs.Schema.Reading
import RecordMirror.Proofs.Token.Relocation
/-!
Reading schemas that stand elsewhere.  No reader decides anything by the place of a token, so
reading tokens that have been moved gives what reading them where they were gives, with the lines of
its requests, or the place of its error, moved in the same way.
-/

namespace RecordMirror

variable (r : Relocation)

/-- The request, its line moved. -/
def MirrorRequest.relocate (request : MirrorRequest) : MirrorRequest :=
  { request with line := r.line request.line }

/-- The record, the lines of its requests moved. -/
def Record.relocate (record : Record) : Record :=
  { record with mirrors := record.mirrors.map (MirrorRequest.relocate r) }

/-- The declaration, the lines of its requests moved. -/
def Declaration.relocate : Declaration → Declaration
  | record declared => record (declared.relocate r)
  | enum declared => enum declared

/-- The schema, the lines of its requests moved. -/
def Schema.relocate (schema : Schema) : Schema :=
  { schema with records := schema.records.map (Record.relocate r) }

/-- The fault, the place of the token it holds moved. -/
def SchemaFault.relocate : SchemaFault → SchemaFault
  | notARecord found => notARecord (found.relocate r)
  | fault => fault

/-- The error, reported at the new place. -/
def SchemaError.relocate (e : SchemaError) : SchemaError :=
  ⟨e.fault.relocate r, r.place e.position⟩

/-- The outcome of a reader, moved: the value that is read, the tokens left, or the error. -/
def relocateOutcome {α : Type} (move : α → α) :
    Except SchemaError (α × List Token) → Except SchemaError (α × List Token)
  | .error e => .error (e.relocate r)
  | .ok (value, left) => .ok (move value, left.map (Token.relocate r))

section

variable {r} {α β : Type} {move : α → α}

@[simp] theorem relocateOutcome_error {e : SchemaError} :
    relocateOutcome r move (.error e) = .error (e.relocate r) := rfl

@[simp] theorem relocateOutcome_ok {value : α} {left : List Token} :
    relocateOutcome r move (.ok (value, left)) =
      .ok (move value, left.map (Token.relocate r)) := rfl

/-- Readers one after the other are moved one after the other. -/
theorem relocateOutcome_bind {moveResult : β → β} {outcome : Except SchemaError (α × List Token)}
    {next next' : α × List Token → Except SchemaError (β × List Token)}
    (h : ∀ value left, next' (move value, left.map (Token.relocate r)) =
      relocateOutcome r moveResult (next (value, left))) :
    (relocateOutcome r move outcome >>= next') =
      relocateOutcome r moveResult (outcome >>= next) := by
  rcases outcome with e | ⟨value, left⟩
  · rfl
  · exact h value left

/-- What is made of a value that is read is moved with the value. -/
theorem relocateOutcome_map {moveResult : β → β} {outcome : Except SchemaError (α × List Token)}
    {f f' : α → β} (h : ∀ value, f' (move value) = moveResult (f value)) :
    ((relocateOutcome r move outcome).map fun read => (f' read.1, read.2)) =
      relocateOutcome r moveResult (outcome.map fun read => (f read.1, read.2)) := by
  rcases outcome with e | ⟨value, left⟩
  · rfl
  · simp [Except.map, h]

end

namespace Schema

variable (stop : Position) (kinds : List TokenKind) (tokens : List Token)

theorem currentToken_relocate : currentToken (r.place stop) (tokens.map (Token.relocate r)) =
    (currentToken stop tokens).relocate r := by
  cases tokens <;> rfl

theorem unexpected_relocate : unexpected (r.place stop) (tokens.map (Token.relocate r)) kinds =
    (unexpected stop tokens kinds).relocate r := by
  simp only [unexpected, currentToken_relocate]
  rfl

theorem expect_relocate : expect (r.place stop) kinds (tokens.map (Token.relocate r)) =
    relocateOutcome r (Token.relocate r) (expect stop kinds tokens) := by
  cases tokens with
  | nil => exact congrArg Except.error (unexpected_relocate r stop kinds [])
  | cons t rest =>
      simp only [expect, List.map_cons]
      by_cases hkind : t.kind ∈ kinds
      · have hmoved : (t.relocate r).kind ∈ kinds := hkind
        rw [if_pos hmoved, if_pos hkind, relocateOutcome_ok]
      · have hmoved : (t.relocate r).kind ∉ kinds := hkind
        rw [if_neg hmoved, if_neg hkind]
        exact congrArg Except.error (unexpected_relocate r stop kinds (t :: rest))

/-! ### Declared types -/

theorem readGroup_relocate (depth : Nat) :
    readGroup (r.place stop) depth (tokens.map (Token.relocate r)) =
      relocateOutcome r (List.map (Token.relocate r)) (readGroup stop depth tokens) := by
  induction tokens generalizing depth with
  | nil => cases depth <;> rfl
  | cons t rest ih =>
      have more : ∀ depth,
          ((readGroup (r.place stop) depth (rest.map (Token.relocate r))).map fun read =>
            (t.relocate r :: read.1, read.2)) =
          relocateOutcome r (List.map (Token.relocate r))
            ((readGroup stop depth rest).map fun read => (t :: read.1, read.2)) := by
        intro depth
        rw [ih]
        exact relocateOutcome_map fun _ => rfl
      obtain ⟨kind, text, position⟩ := t
      cases kind
      case rightAngle =>
        cases depth with
        | zero => rfl
        | succ depth => exact more depth
      case leftAngle => exact more (depth + 1)
      case identifier => exact more depth
      case comma => exact more depth
      case question => exact more depth
      all_goals rfl

theorem readOptionalGroup_relocate :
    readOptionalGroup (r.place stop) (tokens.map (Token.relocate r)) =
      relocateOutcome r (List.map (Token.relocate r)) (readOptionalGroup stop tokens) := by
  cases tokens with
  | nil => rfl
  | cons t rest =>
      simp only [List.map_cons, readOptionalGroup]
      by_cases hopening : t.kind = .leftAngle
      · have hmoved : (t.relocate r).kind = .leftAngle := hopening
        rw [if_pos hmoved, if_pos hopening, readGroup_relocate]
        exact relocateOutcome_map fun _ => rfl
      · have hmoved : ¬ (t.relocate r).kind = .leftAngle := hopening
        rw [if_neg hmoved, if_neg hopening]
        rfl

theorem readTypeTokens_relocate :
    readTypeTokens (r.place stop) (tokens.map (Token.relocate r)) =
      relocateOutcome r (List.map (Token.relocate r)) (readTypeTokens stop tokens) := by
  have hmarks : isMark ∘ Token.relocate r = isMark := rfl
  unfold readTypeTokens
  rw [expect_relocate]
  refine relocateOutcome_bind fun name rest => ?_
  simp only
  rw [readOptionalGroup_relocate]
  refine relocateOutcome_bind fun group rest => ?_
  simp [pure, Except.pure, List.takeWhile_map, List.dropWhile_map, hmarks]

theorem typeText_relocate : typeText (tokens.map (Token.relocate r)) = typeText tokens := by
  rw [typeText, List.map_map]
  rfl

/-! ### Fields -/

theorem readPersisted_relocate (persisted : Bool) :
    readPersisted (r.place stop) persisted (tokens.map (Token.relocate r)) =
      relocateOutcome r id (readPersisted stop persisted tokens) := by
  fun_induction readPersisted stop persisted tokens with
  | case1 persisted sign place position rest ih => exact ih
  | case2 persisted sign place name position rest hname =>
      simp only [List.map_cons, Token.relocate, readPersisted, if_neg hname]
      rfl
  | case3 persisted sign place rest hrest =>
      have hfault := unexpected_relocate r stop [.identifier] rest
      cases rest with
      | nil => exact congrArg Except.error hfault
      | cons t more =>
          obtain ⟨kind, text, position⟩ := t
          cases kind
          case identifier => exact absurd rfl (hrest text position more)
          all_goals exact congrArg Except.error hfault
  | case4 persisted tokens _ hsign =>
      cases tokens with
      | nil => rfl
      | cons t more =>
          obtain ⟨kind, text, position⟩ := t
          cases kind
          case atSign => exact absurd rfl (hsign text position more)
          all_goals rfl

theorem readFieldName_relocate :
    readFieldName (r.place stop) (tokens.map (Token.relocate r)) =
      relocateOutcome r id (readFieldName stop tokens) := by
  simp only [readFieldName, currentToken_relocate, Token.relocate_kind, Token.relocate_text]
  split
  · rfl
  split
  · rfl
  split
  · rfl
  · simp

theorem readField_relocate :
    readField (r.place stop) (tokens.map (Token.relocate r)) =
      relocateOutcome r id (readField stop tokens) := by
  unfold readField
  rw [readPersisted_relocate]
  refine relocateOutcome_bind fun persisted rest => ?_
  simp only
  rw [readFieldName_relocate]
  refine relocateOutcome_bind fun name rest => ?_
  simp only
  rw [expect_relocate]
  refine relocateOutcome_bind fun colon rest => ?_
  simp only
  rw [readTypeTokens_relocate]
  refine relocateOutcome_bind fun type rest => ?_
  simp only [typeText_relocate]
  rfl

theorem readFields_relocate (record : String) (seen : List String) :
    readFields (r.place stop) record seen (tokens.map (Token.relocate r)) =
      relocateOutcome r id (readFields stop record seen tokens) := by
  induction hlength : tokens.length using Nat.strongRecOn generalizing tokens seen with
  | _ n ih =>
      cases tokens with
      | nil =>
          rw [List.map_nil, readFields, readFields]
          exact congrArg Except.error (unexpected_relocate r stop [.rightBrace] [])
      | cons first rest =>
          by_cases hclose : first.kind = .rightBrace
          · have hmoved : (first.relocate r).kind = .rightBrace := hclose
            rw [List.map_cons, readFields, if_pos hmoved, readFields, if_pos hclose]
            rfl
          have hmoved : ¬ (first.relocate r).kind = .rightBrace := hclose
          have hfield := readField_relocate r stop (first :: rest)
          rw [List.map_cons] at hfield ⊢
          rw [readFields_step hmoved, readFields_step hclose, hfield]
          cases hread : readField stop (first :: rest) with
          | error e => rfl
          | ok parts =>
              obtain ⟨field, left⟩ := parts
              have hshort : left.length < n := hlength ▸ readField_length hread
              have hmore := ih left.length hshort left (field.name :: seen) rfl
              simp only [relocateOutcome_ok, id_eq]
              by_cases hseen : field.name ∈ seen
              · rw [if_pos hseen, if_pos hseen]
                rfl
              · rw [if_neg hseen, if_neg hseen, hmore]
                exact relocateOutcome_map fun _ => rfl

/-! ### Enumerations and requests -/

theorem readValues_relocate :
    readValues (r.place stop) (tokens.map (Token.relocate r)) =
      relocateOutcome r id (readValues stop tokens) := by
  induction tokens with
  | nil => exact congrArg Except.error (unexpected_relocate r stop [.rightBrace] [])
  | cons first rest ih =>
      simp only [List.map_cons, readValues]
      by_cases hclose : first.kind = .rightBrace
      · have hmoved : (first.relocate r).kind = .rightBrace := hclose
        rw [if_pos hmoved, if_pos hclose]
        rfl
      have hopen : ¬ (first.relocate r).kind = .rightBrace := hclose
      rw [if_neg hopen, if_neg hclose]
      by_cases hword : first.kind = .identifier
      · have hmoved : (first.relocate r).kind = .identifier := hword
        rw [if_pos hmoved, if_pos hword, ih]
        cases readValues stop rest <;> rfl
      · have hmoved : ¬ (first.relocate r).kind = .identifier := hword
        rw [if_neg hmoved, if_neg hword]
        exact congrArg Except.error (unexpected_relocate r stop [.identifier] (first :: rest))

theorem readMode_relocate :
    readMode (r.place stop) (tokens.map (Token.relocate r)) =
      relocateOutcome r id (readMode stop tokens) := by
  simp only [readMode, currentToken_relocate, ← List.map_drop]
  by_cases hopening : (currentToken stop tokens).kind = .leftParen
  · have hmoved : ((currentToken stop tokens).relocate r).kind = .leftParen := hopening
    rw [if_pos hmoved, if_pos hopening, expect_relocate]
    refine relocateOutcome_bind fun mode rest => ?_
    simp only
    rw [expect_relocate]
    exact relocateOutcome_bind fun close rest => rfl
  · have hmoved : ¬ ((currentToken stop tokens).relocate r).kind = .leftParen := hopening
    rw [if_neg hmoved, if_neg hopening]
    rfl

theorem readRequest_relocate :
    readRequest (r.place stop) (tokens.map (Token.relocate r)) =
      relocateOutcome r (MirrorRequest.relocate r) (readRequest stop tokens) := by
  unfold readRequest
  rw [expect_relocate]
  refine relocateOutcome_bind fun sign rest => ?_
  simp only
  rw [expect_relocate]
  refine relocateOutcome_bind fun name rest => ?_
  simp only
  by_cases hname : name.text ≠ "mirror"
  · have hmoved : (name.relocate r).text ≠ "mirror" := hname
    rw [if_pos hmoved, if_pos hname]
    rfl
  · have hmoved : ¬ (name.relocate r).text ≠ "mirror" := hname
    rw [if_neg hmoved, if_neg hname, readMode_relocate]
    refine relocateOutcome_bind fun mode rest => ?_
    have hline := r.line_place sign.position
    simp [pure, Except.pure, MirrorRequest.relocate, Token.relocate, hline]

theorem readRequests_relocate :
    readRequests (r.place stop) (tokens.map (Token.relocate r)) =
      relocateOutcome r (List.map (MirrorRequest.relocate r)) (readRequests stop tokens) := by
  induction hlength : tokens.length using Nat.strongRecOn generalizing tokens with
  | _ n ih =>
      have hfound := currentToken_relocate r stop tokens
      by_cases hsign : (currentToken stop tokens).kind = .atSign
      · have hmoved : (currentToken (r.place stop) (tokens.map (Token.relocate r))).kind =
            .atSign := by rw [hfound, Token.relocate_kind, hsign]
        rw [readRequests_step hmoved, readRequests_step hsign, readRequest_relocate]
        cases hread : readRequest stop tokens with
        | error e => rfl
        | ok parts =>
            obtain ⟨request, left⟩ := parts
            have hmore := ih left.length (hlength ▸ readRequest_length hread) left rfl
            simp only [relocateOutcome_ok, hmore]
            exact relocateOutcome_map fun _ => rfl
      · have hmoved : ¬ (currentToken (r.place stop) (tokens.map (Token.relocate r))).kind =
            .atSign := by rw [hfound, Token.relocate_kind]; exact hsign
        rw [readRequests, if_neg hmoved, readRequests, if_neg hsign]
        rfl

/-! ### Declarations -/

theorem checkTypeName_relocate (declared : List String) (name : Token) :
    checkTypeName declared (name.relocate r) =
      (checkTypeName declared name).mapError (SchemaError.relocate r) := by
  obtain ⟨kind, text, position⟩ := name
  change checkTypeName declared ⟨kind, text, r.place position⟩ = _
  simp only [checkTypeName]
  by_cases hreserved : isReserved text = true
  · rw [if_pos hreserved, if_pos hreserved]
    rfl
  rw [if_neg hreserved, if_neg hreserved]
  by_cases himported : text ∈ importedNames
  · rw [if_pos himported, if_pos himported]
    rfl
  rw [if_neg himported, if_neg himported]
  by_cases hbuiltin : ((Wrapper.ofName? text).isSome || (Primitive.ofName? text).isSome) = true
  · rw [if_pos hbuiltin, if_pos hbuiltin]
    rfl
  rw [if_neg hbuiltin, if_neg hbuiltin]
  by_cases hdeclared : text ∈ declared
  · rw [if_pos hdeclared, if_pos hdeclared]
    rfl
  · rw [if_neg hdeclared, if_neg hdeclared]
    rfl

theorem readTypeName_relocate (declared : List String) :
    readTypeName (r.place stop) declared (tokens.map (Token.relocate r)) =
      relocateOutcome r id (readTypeName stop declared tokens) := by
  unfold readTypeName
  rw [expect_relocate]
  refine relocateOutcome_bind fun name rest => ?_
  simp only [checkTypeName_relocate]
  cases checkTypeName declared name with
  | error e => rfl
  | ok _ =>
      change (expect (r.place stop) [.leftBrace] (rest.map (Token.relocate r)) >>= _) = _
      rw [expect_relocate]
      exact relocateOutcome_bind fun brace rest => rfl

theorem readDeclaration_relocate (declared : List String) (mirrors : List MirrorRequest) :
    readDeclaration (r.place stop) declared (mirrors.map (MirrorRequest.relocate r))
        (tokens.map (Token.relocate r)) =
      relocateOutcome r (Declaration.relocate r)
        (readDeclaration stop declared mirrors tokens) := by
  simp only [readDeclaration, currentToken_relocate, ← List.map_drop]
  obtain ⟨kind, text, position⟩ := currentToken stop tokens
  simp only [Token.relocate, ne_eq, List.map_eq_nil_iff]
  by_cases hother : ¬ mirrors = [] ∧ ¬ kind = .record
  · rw [if_pos hother, if_pos hother]
    rfl
  rw [if_neg hother, if_neg hother]
  cases kind
  case record =>
    simp only
    rw [readTypeName_relocate]
    refine relocateOutcome_bind fun name rest => ?_
    simp only
    rw [id_eq, readFields_relocate]
    exact relocateOutcome_bind fun fields rest => rfl
  case enum =>
    simp only
    rw [readTypeName_relocate]
    refine relocateOutcome_bind fun name rest => ?_
    simp only
    rw [readValues_relocate]
    exact relocateOutcome_bind fun values rest => rfl
  all_goals rfl

theorem readRequested_relocate (declared : List String) :
    readRequested (r.place stop) declared (tokens.map (Token.relocate r)) =
      relocateOutcome r (Declaration.relocate r) (readRequested stop declared tokens) := by
  simp only [readRequested, readRequests_relocate]
  rcases readRequests stop tokens with e | ⟨mirrors, rest⟩
  · rfl
  · exact readDeclaration_relocate r stop rest declared mirrors

theorem Declaration.relocate_name (d : Declaration) : (d.relocate r).name = d.name := by
  cases d <;> rfl

theorem readDeclarations_relocate (declared : List String) :
    readDeclarations (r.place stop) declared (tokens.map (Token.relocate r)) =
      ((readDeclarations stop declared tokens).map (List.map (Declaration.relocate r))).mapError
        (SchemaError.relocate r) := by
  induction hlength : tokens.length using Nat.strongRecOn generalizing tokens declared with
  | _ n ih =>
      by_cases hnil : tokens = []
      · rw [hnil, List.map_nil, readDeclarations_nil, readDeclarations_nil]
        rfl
      have hmoved : tokens.map (Token.relocate r) ≠ [] := by rwa [ne_eq, List.map_eq_nil_iff]
      rw [readDeclarations_step hmoved, readDeclarations_step hnil, readRequested_relocate]
      cases hread : readRequested stop declared tokens with
      | error e => rfl
      | ok parts =>
          obtain ⟨declaration, left⟩ := parts
          have hmore := ih left.length (hlength ▸ readRequested_length hread) left
            (declaration.name :: declared) rfl
          simp only [relocateOutcome_ok, Declaration.relocate_name, hmore]
          cases readDeclarations stop (declaration.name :: declared) left <;> rfl

theorem ofDeclarations_relocate (declarations : List Declaration) :
    ofDeclarations (declarations.map (Declaration.relocate r)) =
      (ofDeclarations declarations).relocate r := by
  simp only [ofDeclarations, relocate, List.map_filterMap, List.filterMap_map]
  congr 1
  · apply List.filterMap_congr
    rintro (record | enum) - <;> rfl
  · apply List.filterMap_congr
    rintro (record | enum) - <;> rfl

/-- Moved tokens are read as the moved schema, or refused with the moved error. -/
theorem ofTokens_relocate (stream : TokenStream) :
    ofTokens (stream.relocate r) =
      ((ofTokens stream).map (Schema.relocate r)).mapError (SchemaError.relocate r) := by
  simp only [ofTokens, TokenStream.relocate, readDeclarations_relocate]
  cases readDeclarations stream.stop [] stream.tokens with
  | error e => rfl
  | ok declarations =>
      simp only [Except.map, Except.mapError, Except.ok.injEq]
      exact ofDeclarations_relocate r declarations

end Schema

end RecordMirror
