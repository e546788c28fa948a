import RecordMirror.Reading
import RecordMirror.Text.Letter
import RecordMirror.Text.Quoted
import RecordMirror.Token
/-!
Scanning: a source is cut into pieces, each layout or a lexeme, and the lexemes become tokens.
The pieces concatenate to the source, so the place of a token is the place after all the pieces
before it.
-/

namespace RecordMirror

/-- What can be wrong where no piece begins. -/
inductive ScanFault
  | unexpectedCharacter (c : Char)
  | openString
  | openComment
deriving DecidableEq, Repr

/-- A fault and the place of the character it begins with. -/
structure ScanError where
  fault : ScanFault
  position : Position
deriving DecidableEq, Repr

/-- The wording of a fault. -/
def ScanFault.message : ScanFault → String
  | unexpectedCharacter c => "Unexpected character: " ++ quoted (String.singleton c)
  | openString => "Unterminated string literal"
  | openComment => "Unterminated block comment"

/-- The wording of a scan error: its place, then its fault. -/
def ScanError.message (e : ScanError) : String :=
  e.position.describe ++ ": " ++ e.fault.message

/-- A stretch of a source that is scanned at once. -/
inductive Piece
  | layout (text : List Char)
  | sign (kind : TokenKind) (c : Char)
  | string (quote : Char) (body : List Char)
  | word (text : List Char)
deriving DecidableEq, Repr

namespace Piece

/-- The characters of a piece as they stand in the source. -/
def raw : Piece → List Char
  | layout text => text
  | sign _ c => [c]
  | string quote body => quote :: (body ++ [quote])
  | word text => text

/-- The kind and the text of the token a piece stands for; layout stands for none. -/
def lexeme? : Piece → Option (TokenKind × String)
  | layout _ => none
  | sign kind c => some (kind, String.singleton c)
  | string _ body => some (.string, String.ofList body)
  | word text => some (TokenKind.ofWord (String.ofList text), String.ofList text)

/-- The characters that may stand between tokens. -/
def isLayout (c : Char) : Bool :=
  c == ' ' || c == '\t' || c == '\r' || c == '\n'

/-- Splits after the first end of a block comment. -/
def splitAfterCommentEnd : List Char → Option (List Char × List Char)
  | [] => none
  | '*' :: '/' :: rest => some (['*', '/'], rest)
  | c :: rest => (splitAfterCommentEnd rest).map fun parts => (c :: parts.1, parts.2)

theorem splitAfterCommentEnd_append {text body rest : List Char}
    (h : splitAfterCommentEnd text = some (body, rest)) : body ++ rest = text := by
  fun_induction splitAfterCommentEnd text generalizing body rest with
  | case1 => simp at h
  | case2 =>
    simp only [Option.some.injEq, Prod.mk.injEq] at h
    obtain ⟨rfl, rfl⟩ := h
    rfl
  | case3 c tail _ ih =>
    obtain ⟨⟨inner, after⟩, hinner, heq⟩ := Option.map_eq_some_iff.1 h
    cases heq
    simp [ih hinner]

/-- Reads a comment whose slash has been read. -/
def readComment (rest : List Char) : Except ScanFault (Piece × List Char) :=
  match rest with
  | '/' :: _ => .ok (layout ('/' :: rest.takeWhile (· != '\n')), rest.dropWhile (· != '\n'))
  | '*' :: tail =>
    match splitAfterCommentEnd tail with
    | some (body, after) => .ok (layout ('/' :: '*' :: body), after)
    | none => .error .openComment
  | _ => .error (.unexpectedCharacter '/')

/-- Reads a string whose opening quote has been read; it has no escapes and ends on its line. -/
def readString (quote : Char) (rest : List Char) : Except ScanFault (Piece × List Char) :=
  let inside := fun c => c != quote && c != '\n'
  match rest.dropWhile inside with
  | c :: after =>
    if c = quote then .ok (string quote (rest.takeWhile inside), after) else .error .openString
  | [] => .error .openString

/-- Reads the piece that begins with the given character. -/
def read (c : Char) (rest : List Char) : Except ScanFault (Piece × List Char) :=
  if isLayout c then .ok (layout [c], rest)
  else if c = '/' then readComment rest
  else match TokenKind.ofSign? c with
    | some kind => .ok (sign kind c, rest)
    | none =>
      if c = '"' ∨ c = '\x27' then readString c rest
      else if isWordStart c then
        .ok (word (c :: rest.takeWhile isWordPart), rest.dropWhile isWordPart)
      else .error (.unexpectedCharacter c)

theorem readComment_append {rest after : List Char} {piece : Piece}
    (h : readComment rest = .ok (piece, after)) : piece.raw ++ after = '/' :: rest := by
  unfold readComment at h
  split at h
  · cases h
    simp [raw, List.takeWhile_append_dropWhile]
  · split at h
    · cases h
      rename_i heq
      simp [raw, splitAfterCommentEnd_append heq]
    · cases h
  · cases h

theorem readString_append {quote : Char} {rest after : List Char} {piece : Piece}
    (h : readString quote rest = .ok (piece, after)) : piece.raw ++ after = quote :: rest := by
  unfold readString at h
  simp only at h
  split at h
  · rename_i c tail heq
    split at h
    · cases h
      rename_i hc
      have := List.takeWhile_append_dropWhile (l := rest)
        (p := fun c => c != quote && c != '\n')
      rw [heq, hc] at this
      simp [raw, this]
    · cases h
  · cases h

/-- A piece and what follows it make up the text it was read from. -/
theorem read_append {c : Char} {rest after : List Char} {piece : Piece}
    (h : read c rest = .ok (piece, after)) : piece.raw ++ after = c :: rest := by
  unfold read at h
  split at h
  · cases h; rfl
  · split at h
    · rename_i hc
      rw [hc]
      exact readComment_append h
    · split at h
      · cases h; rfl
      · split at h
        · exact readString_append h
        · split at h
          · cases h
            simp [raw, List.takeWhile_append_dropWhile]
          · cases h

/-- Every piece takes at least one character. -/
theorem read_length {c : Char} {rest after : List Char} {piece : Piece}
    (h : read c rest = .ok (piece, after)) : after.length < (c :: rest).length := by
  have happend := congrArg List.length (read_append h)
  have hraw : 0 < piece.raw.length := by
    unfold read readComment readString at h
    simp only at h
    repeat' split at h
    all_goals first | cases h; simp [raw] | cases h
  simp only [List.length_append] at happend
  omega

end Piece

namespace Token

/-- Scans the rest of a source from a place in it. -/
def scanFrom (p : Position) (text : List Char) : Except ScanError TokenStream :=
  match text with
  | [] => .ok ⟨[], p⟩
  | c :: rest =>
    match attachShorter (Piece.read c rest) Piece.read_length with
    | .error fault => .error ⟨fault, p⟩
    | .ok (piece, after) => do
      let stream ← scanFrom (p.after piece.raw) after.val
      match piece.lexeme? with
      | none => .ok stream
      | some (kind, text) => .ok ⟨⟨kind, text, p⟩ :: stream.tokens, stream.stop⟩
termination_by text.length
decreasing_by exact after.property

/-- The tokens of a source, or the first place where no token can be read. -/
def scan (source : String) : Except ScanError TokenStream :=
  scanFrom .start source.toList

end Token

end RecordMirror
