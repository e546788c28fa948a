import RecordMirror.Schema.FieldReader
import RecordMirror.TypeExpr.Reader
/-!
Reading schemas.  The grammar, over the tokens of the source:

* a declaration is a record with its mirror requests before it, or an enumeration;
* a record holds fields, an enumeration holds names.

Type names are distinct over the source and field names are distinct over their record.
-/

namespace RecordMirror

/-- The names a generated module imports. -/
def importedNames : List String :=
  ["dataclass", "datetime", "immutabledict", "observable"]

namespace Schema

/-- Reads the fields of a record up to its closing brace.  A field whose name was seen before is
reported at the place where the field begins. -/
def readFields (stop : Position) (record : String) (seen : List String) (tokens : List Token) :
    Except SchemaError (List Field × List Token) :=
  match tokens with
  | [] => .error (unexpected stop tokens [.rightBrace])
  | first :: rest =>
    if first.kind = .rightBrace then .ok ([], rest)
    else match attachShorter (readField stop (first :: rest)) readField_length with
      | .error e => .error e
      | .ok (field, left) =>
        if field.name ∈ seen then .error ⟨.duplicateField field.name record, first.position⟩
        else match readFields stop record (field.name :: seen) left.val with
          | .error e => .error e
          | .ok (fields, left) => .ok (field :: fields, left)
termination_by tokens.length
decreasing_by exact left.property

/-- Reads the values of an enumeration up to its closing brace. -/
def readValues (stop : Position) : List Token → Except SchemaError (List String × List Token)
  | [] => .error (unexpected stop [] [.rightBrace])
  | first :: rest =>
    if first.kind = .rightBrace then .ok ([], rest)
    else if first.kind = .identifier then
      match readValues stop rest with
      | .error e => .error e
      | .ok (values, left) => .ok (first.text :: values, left)
    else .error (unexpected stop (first :: rest) [.identifier])

/-- Reads the mode of a mirror request, between parentheses, if there is one. -/
def readMode (stop : Position) (tokens : List Token) :
    Except SchemaError (Option String × List Token) :=
  if (currentToken stop tokens).kind = .leftParen then do
    let (mode, rest) ← expect stop [.identifier, .string] (tokens.drop 1)
    let (_, rest) ← expect stop [.rightParen] rest
    return (some mode.text, rest)
  else .ok (none, tokens)

/-- Reads one mirror request, with its mode between parentheses if there is one. -/
def readRequest (stop : Position) (tokens : List Token) :
    Except SchemaError (MirrorRequest × List Token) := do
  let (sign, rest) ← expect stop [.atSign] tokens
  let (name, rest) ← expect stop [.identifier] rest
  if name.text ≠ "mirror" then .error ⟨.unknownRequest name.text, name.position⟩
  else
    let (mode, rest) ← readMode stop rest
    return (⟨mode, sign.position.line⟩, rest)

/-- A token can introduce a type name if it is free in generated modules, is not the name of a
built-in type, and is not declared yet. -/
def checkTypeName (declared : List String) (name : Token) : Except SchemaError Unit :=
  let text := name.text
  if isReserved text then .error ⟨.reservedType text, name.position⟩
  else if text ∈ importedNames then .error ⟨.importedType text, name.position⟩
  else if (Wrapper.ofName? text).isSome || (Primitive.ofName? text).isSome then
    .error ⟨.builtinType text, name.position⟩
  else if text ∈ declared then .error ⟨.duplicateType text, name.position⟩
  else .ok ()

/-- Reads the type name of a declaration whose keyword has been read, and the brace after it. -/
def readTypeName (stop : Position) (declared : List String) (tokens : List Token) :
    Except SchemaError (String × List Token) := do
  let (name, rest) ← expect stop [.identifier] tokens
  checkTypeName declared name
  let (_, rest) ← expect stop [.leftBrace] rest
  return (name.text, rest)

/-- Reads a declaration, given the requests that stand before it. -/
def readDeclaration (stop : Position) (declared : List String) (mirrors : List MirrorRequest)
    (tokens : List Token) : Except SchemaError (Declaration × List Token) :=
  let found := currentToken stop tokens
  if mirrors ≠ [] ∧ found.kind ≠ .record then .error ⟨.notARecord found, found.position⟩
  else match found.kind with
    | .record => do
      let (name, rest) ← readTypeName stop declared (tokens.drop 1)
      let (fields, rest) ← readFields stop name [] rest
      return (.record ⟨name, fields, mirrors⟩, rest)
    | .enum => do
      let (name, rest) ← readTypeName stop declared (tokens.drop 1)
      let (values, rest) ← readValues stop rest
      return (.enum ⟨name, values⟩, rest)
    | _ => .error ⟨.notADeclaration found.text, found.position⟩

section Lengths

variable {stop : Position} {kinds : List TokenKind} {tokens rest : List Token}

theorem readFields_length {record : String} {seen : List String} {fields : List Field}
    (h : readFields stop record seen tokens = .ok (fields, rest)) :
    rest.length < tokens.length := by
  fun_induction readFields stop record seen tokens generalizing fields with
  | case1 => cases h
  | case2 => cases h; simp
  | case3 => cases h
  | case4 => cases h
  | case5 => cases h
  | case6 _ _ _ _ _ left _ _ _ _ hmore ih =>
    cases h
    exact Nat.lt_trans (ih hmore) left.property

theorem readValues_length {values : List String}
    (h : readValues stop tokens = .ok (values, rest)) : rest.length < tokens.length := by
  fun_induction readValues stop tokens generalizing values with
  | case1 => cases h
  | case2 => cases h; simp
  | case3 => cases h
  | case4 _ _ _ _ _ _ hmore ih =>
    cases h
    have := ih hmore
    simp only [List.length_cons]
    omega
  | case5 => cases h

theorem readMode_length {mode : Option String}
    (h : readMode stop tokens = .ok (mode, rest)) : rest.length ≤ tokens.length := by
  unfold readMode at h
  split at h
  · cases h₁ : expect stop [.identifier, .string] (tokens.drop 1) with
    | error e => simp only [bind, Except.bind, h₁] at h; cases h
    | ok parts =>
      obtain ⟨text, r₁⟩ := parts
      cases h₂ : expect stop [.rightParen] r₁ with
      | error e => simp only [bind, Except.bind, h₁, h₂] at h; cases h
      | ok parts =>
        simp only [bind, Except.bind, h₁, h₂] at h
        cases h
        have := expect_length h₁
        have := expect_length h₂
        simp only [List.length_drop] at *
        omega
  · cases h; exact Nat.le_refl _

theorem readRequest_length {request : MirrorRequest}
    (h : readRequest stop tokens = .ok (request, rest)) : rest.length < tokens.length := by
  unfold readRequest at h
  cases h₁ : expect stop [.atSign] tokens with
  | error e => simp only [bind, Except.bind, h₁] at h; cases h
  | ok parts =>
    obtain ⟨sign, r₁⟩ := parts
    cases h₂ : expect stop [.identifier] r₁ with
    | error e => simp only [bind, Except.bind, h₁, h₂] at h; cases h
    | ok parts =>
      obtain ⟨name, r₂⟩ := parts
      simp only [bind, Except.bind, h₁, h₂] at h
      split at h
      · cases h
      · cases h₃ : readMode stop r₂ with
        | error e => simp only [h₃] at h; cases h
        | ok parts =>
          simp only [h₃] at h
          cases h
          have := expect_length h₁
          have := expect_length h₂
          have := readMode_length h₃
          omega

theorem readTypeName_length {declared : List String} {name : String}
    (h : readTypeName stop declared tokens = .ok (name, rest)) : rest.length < tokens.length := by
  unfold readTypeName at h
  cases h₁ : expect stop [.identifier] tokens with
  | error e => simp only [bind, Except.bind, h₁] at h; cases h
  | ok parts =>
    obtain ⟨name, r₁⟩ := parts
    cases h₂ : checkTypeName declared name with
    | error e => simp only [bind, Except.bind, h₁, h₂] at h; cases h
    | ok _ =>
      cases h₃ : expect stop [.leftBrace] r₁ with
      | error e => simp only [bind, Except.bind, h₁, h₂, h₃] at h; cases h
      | ok parts =>
        simp only [bind, Except.bind, h₁, h₂, h₃] at h
        cases h
        have := expect_length h₁
        have := expect_length h₃
        omega

theorem readDeclaration_length {declared : List String} {mirrors : List MirrorRequest}
    {declaration : Declaration}
    (h : readDeclaration stop declared mirrors tokens = .ok (declaration, rest)) :
    rest.length < tokens.length := by
  have drop : (tokens.drop 1).length ≤ tokens.length := by simp
  unfold readDeclaration at h
  simp only at h
  split at h
  · cases h
  · split at h
    · cases h₁ : readTypeName stop declared (tokens.drop 1) with
      | error e => simp only [bind, Except.bind, h₁] at h; cases h
      | ok parts =>
        obtain ⟨name, r₁⟩ := parts
        cases h₂ : readFields stop name [] r₁ with
        | error e => simp only [bind, Except.bind, h₁, h₂] at h; cases h
        | ok parts =>
          simp only [bind, Except.bind, h₁, h₂] at h
          cases h
          have := readTypeName_length h₁
          have := readFields_length h₂
          omega
    · cases h₁ : readTypeName stop declared (tokens.drop 1) with
      | error e => simp only [bind, Except.bind, h₁] at h; cases h
      | ok parts =>
        obtain ⟨name, r₁⟩ := parts
        cases h₂ : readValues stop r₁ with
        | error e => simp only [bind, Except.bind, h₁, h₂] at h; cases h
        | ok parts =>
          simp only [bind, Except.bind, h₁, h₂] at h
          cases h
          have := readTypeName_length h₁
          have := readValues_length h₂
          omega
    · cases h

end Lengths

/-- Reads the mirror requests at the head of a token list. -/
def readRequests (stop : Position) (tokens : List Token) :
    Except SchemaError (List MirrorRequest × List Token) :=
  if (currentToken stop tokens).kind = .atSign then
    match attachShorter (readRequest stop tokens) readRequest_length with
    | .error e => .error e
    | .ok (request, left) =>
      match readRequests stop left.val with
      | .error e => .error e
      | .ok (requests, left) => .ok (request :: requests, left)
  else .ok ([], tokens)
termination_by tokens.length
decreasing_by exact left.property

theorem readRequests_length {stop : Position} {tokens rest : List Token}
    {requests : List MirrorRequest} (h : readRequests stop tokens = .ok (requests, rest)) :
    rest.length ≤ tokens.length := by
  fun_induction readRequests stop tokens generalizing requests with
  | case1 => cases h
  | case2 => cases h
  | case3 _ _ _ left _ _ _ hmore ih =>
    cases h
    exact Nat.le_trans (ih hmore) (Nat.le_of_lt left.property)
  | case4 => cases h; exact Nat.le_refl _

/-- Reads a declaration with the mirror requests before it. -/
def readRequested (stop : Position) (declared : List String) (tokens : List Token) :
    Except SchemaError (Declaration × List Token) :=
  match readRequests stop tokens with
  | .error e => .error e
  | .ok (mirrors, rest) => readDeclaration stop declared mirrors rest

theorem readRequested_length {stop : Position} {declared : List String} {tokens : List Token}
    {declaration : Declaration} {rest : List Token}
    (h : readRequested stop declared tokens = .ok (declaration, rest)) :
    rest.length < tokens.length := by
  unfold readRequested at h
  split at h
  · cases h
  · rename_i hrequests
    exact Nat.lt_of_lt_of_le (readDeclaration_length h) (readRequests_length hrequests)

/-- Reads declarations up to the end of the source.  What one declaration leaves to the next is
the list of the names declared so far. -/
def readDeclarations (stop : Position) (declared : List String) (tokens : List Token) :
    Except SchemaError (List Declaration) :=
  if tokens = [] then .ok []
  else match attachShorter (readRequested stop declared tokens) readRequested_length with
    | .error e => .error e
    | .ok (declaration, left) =>
      match readDeclarations stop (declaration.name :: declared) left.val with
      | .error e => .error e
      | .ok declarations => .ok (declaration :: declarations)
termination_by tokens.length
decreasing_by exact left.property

/-- The schema that the tokens of a source declare. -/
def ofTokens (stream : TokenStream) : Except SchemaError Schema :=
  (readDeclarations stream.stop [] stream.tokens).map ofDeclarations

end Schema

/-- Why a source is no schema. -/
inductive SourceError
  | unscannable (cause : ScanError)
  | malformed (cause : SchemaError)
deriving DecidableEq, Repr

/-- The wording of a source error. -/
def SourceError.message : SourceError → String
  | unscannable cause => cause.message
  | malformed cause => cause.message

/-- The schema a source declares. -/
def Schema.parse (source : String) : Except SourceError Schema :=
  match Token.scan source with
  | .error cause => .error (.unscannable cause)
  | .ok stream => (Schema.ofTokens stream).mapError .malformed

end RecordMirror
