import Mathlib.Data.List.TakeWhile
import RecordMirror.Token.Scan
/-!
Lexemes: what tokens are apart from their places.  A text that scans is cut into pieces in one way,
whatever place it starts from, and its lexemes are those of the pieces.
-/

namespace RecordMirror

/-- The kind and the text of a token. -/
abbrev Lexeme : Type := TokenKind × String

/-- A token without its place. -/
def Token.lexeme (t : Token) : Lexeme :=
  (t.kind, t.text)

/-- The tokens of a stream without their places. -/
def TokenStream.lexemes (s : TokenStream) : List Lexeme :=
  s.tokens.map Token.lexeme

/-- A word: a start and parts after it. -/
def isWord : List Char → Bool
  | [] => false
  | c :: rest => isWordStart c && rest.all isWordPart

/-- How the lexemes of a source are spelled.  A string stands between two quotes of one kind, and a
line does not end inside it. -/
def Lexeme.Spelled : Lexeme → Prop
  | (.identifier, text) => isWord text.toList = true ∧ TokenKind.ofWord text = .identifier
  | (.record, text) => text = "record"
  | (.enum, text) => text = "enum"
  | (.string, text) => '\n' ∉ text.toList ∧ ('"' ∉ text.toList ∨ '\x27' ∉ text.toList)
  | (.eof, _) => False
  | (kind, text) => text = kind.label

namespace Piece

/-- The pieces a text is cut into. -/
inductive Cuts : List Char → List Piece → Prop
  | nil : Cuts [] []
  | cons {c : Char} {rest after : List Char} {piece : Piece} {pieces : List Piece} :
      read c rest = .ok (piece, after) → Cuts after pieces → Cuts (c :: rest) (piece :: pieces)

/-- The tokens of some pieces that begin at a place. -/
def streamFrom (p : Position) : List Piece → TokenStream
  | [] => ⟨[], p⟩
  | piece :: rest =>
    let stream := streamFrom (p.after piece.raw) rest
    match piece.lexeme? with
    | none => stream
    | some (kind, text) => ⟨⟨kind, text, p⟩ :: stream.tokens, stream.stop⟩

theorem streamFrom_lexemes (p : Position) (pieces : List Piece) :
    (streamFrom p pieces).lexemes = pieces.filterMap lexeme? := by
  induction pieces generalizing p with
  | nil => rfl
  | cons piece rest ih =>
      have hrest := ih (p.after piece.raw)
      cases hpiece : piece.lexeme? with
      | none => simpa [streamFrom, hpiece, List.filterMap_cons] using hrest
      | some lexeme =>
          simp only [TokenStream.lexemes] at hrest
          simp [streamFrom, hpiece, TokenStream.lexemes, Token.lexeme, hrest]

end Piece

open Piece

theorem Token.scanFrom_nil (p : Position) : Token.scanFrom p [] = .ok ⟨[], p⟩ := by
  rw [Token.scanFrom]

theorem Token.scanFrom_cons_error {c : Char} {rest : List Char} {fault : ScanFault}
    (hread : Piece.read c rest = .error fault) (p : Position) :
    Token.scanFrom p (c :: rest) = .error ⟨fault, p⟩ := by
  rw [Token.scanFrom]
  simp only [attachShorter_eq_error.2 hread]

theorem Token.scanFrom_cons_ok {c : Char} {rest after : List Char} {piece : Piece}
    (hread : Piece.read c rest = .ok (piece, after)) (p : Position) :
    Token.scanFrom p (c :: rest) =
      (Token.scanFrom (p.after piece.raw) after).map fun stream =>
        match piece.lexeme? with
        | none => stream
        | some (kind, text) => ⟨⟨kind, text, p⟩ :: stream.tokens, stream.stop⟩ := by
  have hattach : attachShorter (Piece.read c rest) Piece.read_length =
      .ok (piece, ⟨after, Piece.read_length hread⟩) := attachShorter_eq_ok.2 hread
  rw [Token.scanFrom]
  simp only [hattach]
  cases Token.scanFrom (p.after piece.raw) after with
  | error e => rfl
  | ok stream => cases piece.lexeme? <;> rfl

/-- Scanning succeeds exactly on the texts that can be cut, from whatever place. -/
theorem Token.scanFrom_eq_ok_iff {p : Position} {text : List Char} {stream : TokenStream} :
    Token.scanFrom p text = .ok stream ↔
      ∃ pieces, Cuts text pieces ∧ stream = streamFrom p pieces := by
  constructor
  · intro hscan
    induction hlength : text.length using Nat.strongRecOn
      generalizing p text stream with
    | _ n ih =>
        cases text with
        | nil =>
            rw [Token.scanFrom_nil] at hscan
            cases hscan
            exact ⟨[], .nil, rfl⟩
        | cons c rest =>
            cases hread : Piece.read c rest with
            | error fault =>
                rw [Token.scanFrom_cons_error hread] at hscan
                cases hscan
            | ok parts =>
                obtain ⟨piece, after⟩ := parts
                rw [Token.scanFrom_cons_ok hread] at hscan
                cases hafter : Token.scanFrom (p.after piece.raw) after with
                | error e => rw [hafter] at hscan; cases hscan
                | ok tail =>
                    have hshort := Piece.read_length hread
                    obtain ⟨pieces, hcuts, rfl⟩ :=
                      ih after.length (hlength ▸ hshort) hafter rfl
                    rw [hafter] at hscan
                    cases hscan
                    exact ⟨piece :: pieces, .cons hread hcuts, rfl⟩
  · rintro ⟨pieces, hcuts, rfl⟩
    induction hcuts generalizing p with
    | nil => exact Token.scanFrom_nil p
    | cons hread _ ih =>
        rw [Token.scanFrom_cons_ok hread, ih]
        rfl

/-- A text has some lexemes if it can be cut into pieces that stand for them. -/
def HasLexemes (text : List Char) (lexemes : List Lexeme) : Prop :=
  ∃ pieces, Cuts text pieces ∧ pieces.filterMap lexeme? = lexemes

theorem hasLexemes_iff_scan {source : String} {lexemes : List Lexeme} :
    HasLexemes source.toList lexemes ↔
      ∃ stream, Token.scan source = .ok stream ∧ stream.lexemes = lexemes := by
  constructor
  · rintro ⟨pieces, hcuts, rfl⟩
    refine ⟨streamFrom .start pieces, ?_, streamFrom_lexemes .start pieces⟩
    exact Token.scanFrom_eq_ok_iff.2 ⟨pieces, hcuts, rfl⟩
  · rintro ⟨stream, hscan, rfl⟩
    obtain ⟨pieces, hcuts, rfl⟩ := Token.scanFrom_eq_ok_iff.1 hscan
    exact ⟨pieces, hcuts, (streamFrom_lexemes .start pieces).symm⟩

/-! ### Reading written lexemes -/

theorem isWordPart_of_mem {word : List Char} (hword : isWord word = true) {c : Char}
    (hc : c ∈ word) : isWordPart c = true := by
  cases word with
  | nil => cases hword
  | cons d rest =>
      simp only [isWord, Bool.and_eq_true, List.all_eq_true] at hword
      rcases List.mem_cons.1 hc with rfl | hrest
      · exact isWordPart_of_isWordStart hword.1
      · exact hword.2 c hrest

/-- A word goes on with whatever can stand inside a word. -/
theorem isWord_append {word rest : List Char} (hword : isWord word = true)
    (hrest : ∀ c ∈ rest, isWordPart c = true) : isWord (word ++ rest) = true := by
  cases word with
  | nil => cases hword
  | cons d tail =>
      simp only [isWord, Bool.and_eq_true, List.all_eq_true] at hword
      simp only [List.cons_append, isWord, List.all_append, Bool.and_eq_true, List.all_eq_true]
      exact ⟨hword.1, hword.2, hrest⟩

theorem isWordStart_ne {c d : Char} (hc : isWordStart c = true) (hd : isWordStart d = false) :
    c ≠ d := by
  rintro rfl
  rw [hc] at hd
  cases hd

theorem TokenKind.ofSign?_eq_none {c : Char} (hc : isWordPart c = true) :
    TokenKind.ofSign? c = none := by
  have hne : ∀ d, isWordPart d = false → c ≠ d := by
    rintro d hd rfl
    rw [hc] at hd
    cases hd
  unfold TokenKind.ofSign?
  split <;> first | rfl | exact absurd rfl (hne _ (by decide))

theorem Piece.read_word {c : Char} {word rest : List Char} (hword : isWord (c :: word) = true)
    (hrest : ∀ d ∈ rest.head?, isWordPart d = false) :
    Piece.read c (word ++ rest) = .ok (.word (c :: word), rest) := by
  simp only [isWord, Bool.and_eq_true, List.all_eq_true] at hword
  obtain ⟨hc, hparts⟩ := hword
  have hne : ∀ d, isWordStart d = false → c ≠ d := fun d => isWordStart_ne hc
  have hlayout : Piece.isLayout c = false := by
    simp [Piece.isLayout, hne ' ' (by decide), hne '\t' (by decide), hne '\r' (by decide),
      hne '\n' (by decide)]
  have hsign := TokenKind.ofSign?_eq_none (isWordPart_of_isWordStart hc)
  have hend : rest.takeWhile isWordPart = [] ∧ rest.dropWhile isWordPart = rest := by
    cases rest with
    | nil => exact ⟨rfl, rfl⟩
    | cons d tail =>
        have hd : isWordPart d = false := hrest d rfl
        simp [hd]
  simp [Piece.read, hlayout, hne '/' (by decide), hsign, hne '"' (by decide),
    hne '\x27' (by decide), hc, List.takeWhile_append_of_pos hparts,
    List.dropWhile_append_of_pos hparts, hend]

theorem Piece.read_sign {c : Char} {kind : TokenKind} (hsign : TokenKind.ofSign? c = some kind)
    (rest : List Char) : Piece.read c rest = .ok (.sign kind c, rest) := by
  have hplain : Piece.isLayout c = false ∧ c ≠ '/' := by
    unfold TokenKind.ofSign? at hsign
    split at hsign <;> first | decide | cases hsign
  simp [Piece.read, hplain, hsign]

namespace HasLexemes

theorem nil : HasLexemes [] [] :=
  ⟨[], .nil, rfl⟩

theorem space {rest : List Char} {lexemes : List Lexeme} (hrest : HasLexemes rest lexemes) :
    HasLexemes (' ' :: rest) lexemes := by
  obtain ⟨pieces, hcuts, rfl⟩ := hrest
  exact ⟨.layout [' '] :: pieces, .cons rfl hcuts, rfl⟩

theorem sign {c : Char} {kind : TokenKind} {rest : List Char} {lexemes : List Lexeme}
    (hsign : TokenKind.ofSign? c = some kind) (hrest : HasLexemes rest lexemes) :
    HasLexemes (c :: rest) ((kind, String.singleton c) :: lexemes) := by
  obtain ⟨pieces, hcuts, rfl⟩ := hrest
  exact ⟨.sign kind c :: pieces, .cons (Piece.read_sign hsign rest) hcuts, rfl⟩

/-- A word is a lexeme where it cannot go on. -/
theorem word {word : String} {rest : List Char} {lexemes : List Lexeme}
    (hword : isWord word.toList = true) (hend : ∀ d ∈ rest.head?, isWordPart d = false)
    (hrest : HasLexemes rest lexemes) :
    HasLexemes (word.toList ++ rest) ((TokenKind.ofWord word, word) :: lexemes) := by
  obtain ⟨pieces, hcuts, rfl⟩ := hrest
  cases hchars : word.toList with
  | nil => rw [hchars] at hword; cases hword
  | cons c tail =>
      rw [hchars] at hword
      refine ⟨.word (c :: tail) :: pieces, .cons (Piece.read_word hword hend) hcuts, ?_⟩
      have hback : String.ofList (c :: tail) = word := by
        rw [← hchars, String.ofList_toList]
      simp [lexeme?, hback]

end HasLexemes

/-! ### The spelling of lexemes -/

theorem TokenKind.spelled_of_ofSign? {c : Char} {kind : TokenKind}
    (hsign : TokenKind.ofSign? c = some kind) :
    Lexeme.Spelled (kind, String.singleton c) := by
  unfold TokenKind.ofSign? at hsign
  split at hsign <;> cases hsign <;> rfl

/-- Two words are keywords, and the others are identifiers. -/
theorem TokenKind.ofWord_cases (word : String) :
    (word = "record" ∧ ofWord word = .record) ∨ (word = "enum" ∧ ofWord word = .enum) ∨
      (word ≠ "record" ∧ word ≠ "enum" ∧ ofWord word = .identifier) := by
  unfold ofWord
  by_cases hrecord : word = "record"
  · simp [hrecord]
  · by_cases henum : word = "enum"
    · simp [henum]
    · simp [hrecord, henum]

theorem Lexeme.spelled_word {word : List Char} (hword : isWord word = true) :
    Lexeme.Spelled (TokenKind.ofWord (String.ofList word), String.ofList word) := by
  rcases TokenKind.ofWord_cases (String.ofList word) with
    ⟨hrecord, hkind⟩ | ⟨henum, hkind⟩ | ⟨-, -, hkind⟩
  · rw [hkind]
    exact hrecord
  · rw [hkind]
    exact henum
  · rw [hkind]
    exact ⟨by rwa [String.toList_ofList], hkind⟩

theorem Piece.readComment_lexeme? {rest after : List Char} {piece : Piece}
    (hread : Piece.readComment rest = .ok (piece, after)) : piece.lexeme? = none := by
  unfold Piece.readComment at hread
  split at hread
  · cases hread; rfl
  · split at hread
    · cases hread; rfl
    · cases hread
  · cases hread

theorem Piece.readString_spelled {quote : Char} {rest after : List Char} {piece : Piece}
    (hquote : quote = '"' ∨ quote = '\x27')
    (hread : Piece.readString quote rest = .ok (piece, after)) :
    ∀ lexeme ∈ piece.lexeme?, Lexeme.Spelled lexeme := by
  unfold Piece.readString at hread
  simp only at hread
  split at hread
  · split at hread
    · cases hread
      intro lexeme hlexeme
      cases hlexeme
      have hinside : ∀ c ∈ rest.takeWhile (fun c => c != quote && c != '\n'),
          c ≠ quote ∧ c ≠ '\n' := by
        intro c hc
        simpa using List.mem_takeWhile_imp hc
      simp only [Lexeme.Spelled, String.toList_ofList]
      refine ⟨fun hline => (hinside _ hline).2 rfl, ?_⟩
      rcases hquote with rfl | rfl
      · exact Or.inl fun hmem => (hinside _ hmem).1 rfl
      · exact Or.inr fun hmem => (hinside _ hmem).1 rfl
    · cases hread
  · cases hread

theorem Piece.read_spelled {c : Char} {rest after : List Char} {piece : Piece}
    (hread : Piece.read c rest = .ok (piece, after)) :
    ∀ lexeme ∈ piece.lexeme?, Lexeme.Spelled lexeme := by
  unfold Piece.read at hread
  split at hread
  · cases hread
    intro lexeme hlexeme
    cases hlexeme
  split at hread
  · rw [Piece.readComment_lexeme? hread]
    intro lexeme hlexeme
    cases hlexeme
  split at hread
  · cases hread
    intro lexeme hlexeme
    cases hlexeme
    exact TokenKind.spelled_of_ofSign? (by assumption)
  split at hread
  · exact Piece.readString_spelled (by assumption) hread
  split at hread
  · cases hread
    intro lexeme hlexeme
    cases hlexeme
    apply Lexeme.spelled_word
    simp only [isWord, Bool.and_eq_true, List.all_eq_true]
    exact ⟨by assumption, fun d hd => List.mem_takeWhile_imp hd⟩
  · cases hread

/-- Every lexeme of a text is spelled as its kind asks. -/
theorem HasLexemes.spelled {text : List Char} {lexemes : List Lexeme}
    (htext : HasLexemes text lexemes) : ∀ lexeme ∈ lexemes, Lexeme.Spelled lexeme := by
  obtain ⟨pieces, hcuts, rfl⟩ := htext
  induction hcuts with
  | nil => simp
  | cons hread _ ih =>
      intro lexeme hlexeme
      rw [List.filterMap_cons] at hlexeme
      split at hlexeme
      · exact ih lexeme hlexeme
      · rename_i head hhead
        rcases List.mem_cons.1 hlexeme with rfl | htail
        · exact Piece.read_spelled hread _ hhead
        · exact ih lexeme htail

end RecordMirror
