import RecordMirror.Schema
import RecordMirror.Schema.Fault
import RecordMirror.Text.Identifier
/-!
Reading the fields of a schema.  A declared type is a name, at most one group between balanced
angle brackets, and any number of question marks.  It is kept as text; whether it denotes a type
is asked when the field is planned.
-/

namespace RecordMirror

/-- The methods every mirror has. -/
def mirrorMethods : List String :=
  ["from_persisted", "build_persisted_object"]

namespace Schema

/-- The fault of a token that is of none of the kinds expected there. -/
def unexpected (stop : Position) (tokens : List Token) (kinds : List TokenKind) : SchemaError :=
  let found := currentToken stop tokens
  ⟨.expected kinds found.text, found.position⟩

/-- Reads a token of one of the given kinds. -/
def expect (stop : Position) (kinds : List TokenKind) (tokens : List Token) :
    Except SchemaError (Token × List Token) :=
  match tokens with
  | [] => .error (unexpected stop tokens kinds)
  | found :: rest =>
    if found.kind ∈ kinds then .ok (found, rest) else .error (unexpected stop tokens kinds)

/-- Reads a bracket group whose opening bracket has been read, with `depth` further brackets to
close, up to the bracket that closes it. -/
def readGroup (stop : Position) : Nat → List Token → Except SchemaError (List Token × List Token)
  | _, [] => .error ⟨.openTypeArguments "", stop⟩
  | depth, found :: rest =>
    match found.kind, depth with
    | .rightAngle, 0 => .ok ([found], rest)
    | .rightAngle, depth + 1 => (readGroup stop depth rest).map fun (g, left) => (found :: g, left)
    | .leftAngle, depth =>
      (readGroup stop (depth + 1) rest).map fun (g, left) => (found :: g, left)
    | .identifier, depth | .comma, depth | .question, depth =>
      (readGroup stop depth rest).map fun (g, left) => (found :: g, left)
    | _, _ => .error ⟨.openTypeArguments found.text, found.position⟩

/-- Reads a bracket group, if one begins here. -/
def readOptionalGroup (stop : Position) (tokens : List Token) :
    Except SchemaError (List Token × List Token) :=
  match tokens with
  | [] => .ok ([], [])
  | opening :: inside =>
    if opening.kind = .leftAngle then
      (readGroup stop 0 inside).map fun (g, left) => (opening :: g, left)
    else .ok ([], opening :: inside)

/-- Whether a token is a question mark. -/
def isMark (t : Token) : Bool :=
  t.kind = .question

/-- Reads the tokens of a declared type. -/
def readTypeTokens (stop : Position) (tokens : List Token) :
    Except SchemaError (List Token × List Token) := do
  let (name, rest) ← expect stop [.identifier] tokens
  let (group, rest) ← readOptionalGroup stop rest
  return (name :: (group ++ rest.takeWhile isMark), rest.dropWhile isMark)

/-- The text that the tokens of a declared type are kept as: a space after each comma and no
other layout. -/
def typeText (tokens : List Token) : String :=
  String.join (tokens.map fun t => if t.kind = .comma then ", " else t.text)

/-- Reads the attributes of a field; the only one is the mark of persisted fields. -/
def readPersisted (stop : Position) (persisted : Bool) :
    List Token → Except SchemaError (Bool × List Token)
  | ⟨.atSign, _, _⟩ :: ⟨.identifier, name, position⟩ :: rest =>
    if name = "persisted" then readPersisted stop true rest
    else .error ⟨.unknownFieldAttribute name, position⟩
  | ⟨.atSign, _, _⟩ :: rest => .error (unexpected stop rest [.identifier])
  | tokens => .ok (persisted, tokens)

/-- Reads the name of a field.  The keywords of the schema language are names here; the reserved
words of the generated code and the methods of mirrors are not. -/
def readFieldName (stop : Position) (tokens : List Token) :
    Except SchemaError (String × List Token) :=
  let found := currentToken stop tokens
  if found.kind ∉ [.identifier, .record, .enum] then
    .error ⟨.expectedFieldName found.text, found.position⟩
  else if isReserved found.text then .error ⟨.reservedField found.text, found.position⟩
  else if found.text ∈ mirrorMethods then .error ⟨.methodField found.text, found.position⟩
  else .ok (found.text, tokens.drop 1)

/-- Reads a field. -/
def readField (stop : Position) (tokens : List Token) :
    Except SchemaError (Field × List Token) := do
  let (persisted, rest) ← readPersisted stop false tokens
  let (name, rest) ← readFieldName stop rest
  let (_, rest) ← expect stop [.colon] rest
  let (type, rest) ← readTypeTokens stop rest
  return (⟨name, typeText type, persisted⟩, rest)

section Lengths

variable {stop : Position} {kinds : List TokenKind} {tokens rest : List Token}

theorem expect_length {t : Token} (h : expect stop kinds tokens = .ok (t, rest)) :
    rest.length < tokens.length := by
  unfold expect at h
  split at h
  · cases h
  · split at h
    · cases h; simp
    · cases h

theorem readGroup_length {depth : Nat} {group : List Token}
    (h : readGroup stop depth tokens = .ok (group, rest)) : rest.length < tokens.length := by
  induction tokens generalizing depth group with
  | nil => cases depth <;> cases h
  | cons found tail ih =>
    have step : ∀ {depth : Nat},
        ((readGroup stop depth tail).map fun (g, left) => (found :: g, left)) = .ok (group, rest) →
          rest.length < (found :: tail).length := by
      intro depth h
      cases hr : readGroup stop depth tail with
      | error e => rw [hr] at h; cases h
      | ok parts =>
        rw [hr] at h
        cases h
        have := ih hr
        simp only [List.length_cons]
        omega
    simp only [readGroup] at h
    split at h
    · cases h; simp
    all_goals first | exact step h | cases h

theorem readOptionalGroup_length {group : List Token}
    (h : readOptionalGroup stop tokens = .ok (group, rest)) : rest.length ≤ tokens.length := by
  unfold readOptionalGroup at h
  split at h
  · cases h; exact Nat.le_refl _
  · rename_i opening inside
    split at h
    · cases hg : readGroup stop 0 inside with
      | error e => rw [hg] at h; cases h
      | ok parts =>
        rw [hg] at h
        cases h
        have := readGroup_length hg
        simp only [List.length_cons]
        omega
    · cases h; exact Nat.le_refl _

theorem readTypeTokens_length {type : List Token}
    (h : readTypeTokens stop tokens = .ok (type, rest)) : rest.length < tokens.length := by
  unfold readTypeTokens at h
  cases h₁ : expect stop [.identifier] tokens with
  | error e => rw [h₁] at h; cases h
  | ok parts =>
    obtain ⟨name, r₁⟩ := parts
    cases h₂ : readOptionalGroup stop r₁ with
    | error e => simp only [bind, Except.bind, h₁, h₂] at h; cases h
    | ok parts =>
      obtain ⟨group, r₂⟩ := parts
      simp only [bind, Except.bind, h₁, h₂] at h
      cases h
      have := (List.dropWhile_suffix isMark (l := r₂)).length_le
      have := expect_length h₁
      have := readOptionalGroup_length h₂
      omega

theorem readPersisted_length {persisted result : Bool}
    (h : readPersisted stop persisted tokens = .ok (result, rest)) :
    rest.length ≤ tokens.length := by
  fun_induction readPersisted stop persisted tokens with
  | case1 persisted _ _ position tail ih =>
    have := ih h
    simp only [List.length_cons]
    omega
  | case2 => cases h
  | case3 => cases h
  | case4 => cases h; exact Nat.le_refl _

theorem readField_length {field : Field}
    (h : readField stop tokens = .ok (field, rest)) : rest.length < tokens.length := by
  unfold readField at h
  cases h₁ : readPersisted stop false tokens with
  | error e => rw [h₁] at h; cases h
  | ok parts =>
    obtain ⟨persisted, r₁⟩ := parts
    cases h₂ : readFieldName stop r₁ with
    | error e => rw [h₁] at h; simp only [bind, Except.bind, h₂] at h; cases h
    | ok parts =>
      obtain ⟨name, r₂⟩ := parts
      have hr₂ : r₂.length ≤ r₁.length := by
        simp only [readFieldName] at h₂
        split at h₂
        · cases h₂
        · split at h₂
          · cases h₂
          · split at h₂
            · cases h₂
            · cases h₂; simp
      cases h₃ : expect stop [.colon] r₂ with
      | error e => rw [h₁] at h; simp only [bind, Except.bind, h₂, h₃] at h; cases h
      | ok parts =>
        obtain ⟨colon, r₃⟩ := parts
        cases h₄ : readTypeTokens stop r₃ with
        | error e => rw [h₁] at h; simp only [bind, Except.bind, h₂, h₃, h₄] at h; cases h
        | ok parts =>
          rw [h₁] at h
          simp only [bind, Except.bind, h₂, h₃, h₄] at h
          cases h
          have := readPersisted_length h₁
          have := expect_length h₃
          have := readTypeTokens_length h₄
          omega

end Lengths

end Schema

end RecordMirror
