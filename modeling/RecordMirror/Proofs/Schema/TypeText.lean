import RecordMirror.Proofs.Token.Joining
import RecordMirror.Proofs.TypeExpr.Reading
import RecordMirror.Schema.Reader
/-!
The texts that declared types are kept as.  Such a text has the lexemes of the tokens it was made
from, but that identifiers next to each other are joined, so it denotes what was written exactly
where no two identifiers are neighbours.
-/

namespace RecordMirror

namespace Schema

/-- The kinds of the tokens that declared types are made of. -/
def typeKinds : List TokenKind :=
  [.identifier, .leftAngle, .rightAngle, .comma, .question]

/-- Tokens that may stand in a declared type. -/
def TypeTokens (tokens : List Token) : Prop :=
  ∀ t ∈ tokens, t.kind ∈ typeKinds

/-- A text that begins with a word which ends before the rest of its lexemes. -/
def BeginsWithWord (text : List Char) (lexemes : List Lexeme) : Prop :=
  ∃ (word : String) (tail : List Char) (rest : List Lexeme),
    text = word.toList ++ tail ∧ isWord word.toList = true ∧
      lexemes = (TokenKind.ofWord word, word) :: rest ∧ HasLexemes tail rest ∧
      ∀ d ∈ tail.head?, isWordPart d = false

/-- A text that does not go on a word before it. -/
def BeginsApart (text : List Char) (lexemes : List Lexeme) : Prop :=
  HasLexemes text lexemes ∧ (∀ d ∈ text.head?, isWordPart d = false) ∧ BeginsWithoutWord lexemes

theorem BeginsWithWord.hasLexemes {text : List Char} {lexemes : List Lexeme}
    (h : BeginsWithWord text lexemes) : HasLexemes text lexemes := by
  obtain ⟨word, tail, rest, rfl, hword, rfl, hrest, hend⟩ := h
  exact .word hword hend hrest

/-- A word before a text goes on with the word the text begins with, if it begins with one. -/
theorem BeginsWithWord.prepend {word : String} {kind : TokenKind} {text : List Char}
    {lexemes : List Lexeme} (hkind : kind.isWord = true) (hword : isWord word.toList = true)
    (h : BeginsWithWord text (joinWords lexemes)) :
    BeginsWithWord (word.toList ++ text) (joinWords ((kind, word) :: lexemes)) := by
  obtain ⟨more, tail, rest, rfl, hmore, hlexemes, hrest, hend⟩ := h
  refine ⟨word ++ more, tail, rest, by simp, ?_, ?_, hrest, hend⟩
  · rw [String.toList_append]
    exact isWord_append hword fun c hc => isWordPart_of_mem hmore hc
  · exact joinWords_cons_of_word hkind (TokenKind.ofWord_isWord more) hlexemes

theorem BeginsApart.prepend {word : String} {kind : TokenKind} {text : List Char}
    {lexemes : List Lexeme} (hkind : TokenKind.ofWord word = kind)
    (hword : isWord word.toList = true) (h : BeginsApart text (joinWords lexemes)) :
    BeginsWithWord (word.toList ++ text) (joinWords ((kind, word) :: lexemes)) := by
  obtain ⟨hlexemes, hend, hapart⟩ := h
  refine ⟨word, text, joinWords lexemes, rfl, hword, ?_, hlexemes, hend⟩
  rw [hkind]
  cases hjoined : joinWords lexemes with
  | nil =>
      rw [joinWords_eq_nil.1 hjoined]
      rfl
  | cons head others =>
      obtain ⟨next, more⟩ := head
      have hnext : next.isWord = false := hapart (next, more) (by rw [hjoined]; rfl)
      simp [joinWords, hjoined, hnext]

theorem typeText_cons (t : Token) (tokens : List Token) :
    (typeText (t :: tokens)).toList =
      (if t.kind = .comma then ", " else t.text).toList ++ (typeText tokens).toList := by
  simp [typeText, String.toList_join]

theorem beginsApart_sign {c : Char} {kind : TokenKind} {tail : List Char}
    {lexemes : List Lexeme} (hsign : TokenKind.ofSign? c = some kind)
    (hc : isWordPart c = false) (hkind : kind.isWord = false)
    (htail : HasLexemes tail (joinWords lexemes)) :
    BeginsApart (c :: tail) (joinWords ((kind, String.singleton c) :: lexemes)) := by
  rw [joinWords_cons_of_not_word hkind]
  refine ⟨.sign hsign htail, ?_, beginsWithoutWord_cons hkind⟩
  rintro d hd
  cases hd
  exact hc

/-- How the text of a declared type begins, by its first token. -/
theorem typeText_begins {tokens : List Token} (htype : TypeTokens tokens)
    (hspelled : SpelledTokens tokens) :
    BeginsWithWord (typeText tokens).toList (joinWords (tokens.map Token.lexeme)) ∨
      BeginsApart (typeText tokens).toList (joinWords (tokens.map Token.lexeme)) := by
  induction tokens with
  | nil =>
      refine Or.inr ⟨.nil, ?_, beginsWithoutWord_nil⟩
      rintro d hd
      cases hd
  | cons t rest ih =>
      have hrest := ih (fun u hu => htype u (List.mem_cons_of_mem t hu))
        (hspelled.of_suffix (List.suffix_cons _ _))
      have hlexemes : HasLexemes (typeText rest).toList (joinWords (rest.map Token.lexeme)) := by
        rcases hrest with hword | hapart
        · exact hword.hasLexemes
        · exact hapart.1
      have hkind := htype t List.mem_cons_self
      have hlexeme := hspelled t List.mem_cons_self
      obtain ⟨kind, text, position⟩ := t
      rw [typeText_cons, List.map_cons]
      simp only [typeKinds, List.mem_cons, List.not_mem_nil, or_false] at hkind
      rcases hkind with rfl | rfl | rfl | rfl | rfl
      · obtain ⟨hword, hofWord⟩ := hlexeme
        rcases hrest with hnext | hapart
        · exact Or.inl (hnext.prepend rfl hword)
        · exact Or.inl (hapart.prepend hofWord hword)
      · cases (show text = "<" from hlexeme)
        have hsign : TokenKind.ofSign? '<' = some .leftAngle := rfl
        have hapart := beginsApart_sign hsign (by decide) rfl hlexemes
        exact Or.inr (by simpa [Token.lexeme] using hapart)
      · cases (show text = ">" from hlexeme)
        have hsign : TokenKind.ofSign? '>' = some .rightAngle := rfl
        have hapart := beginsApart_sign hsign (by decide) rfl hlexemes
        exact Or.inr (by simpa [Token.lexeme] using hapart)
      · cases (show text = "," from hlexeme)
        have hsign : TokenKind.ofSign? ',' = some .comma := rfl
        have hapart := beginsApart_sign hsign (by decide) rfl hlexemes.space
        exact Or.inr (by simpa [Token.lexeme] using hapart)
      · cases (show text = "?" from hlexeme)
        have hsign : TokenKind.ofSign? '?' = some .question := rfl
        have hapart := beginsApart_sign hsign (by decide) rfl hlexemes
        exact Or.inr (by simpa [Token.lexeme] using hapart)

/-- The lexemes of a declared type's text are those it was made from, neighbouring words joined. -/
theorem hasLexemes_typeText {tokens : List Token} (htype : TypeTokens tokens)
    (hspelled : SpelledTokens tokens) :
    HasLexemes (typeText tokens).toList (joinWords (tokens.map Token.lexeme)) := by
  rcases typeText_begins htype hspelled with hword | hapart
  · exact hword.hasLexemes
  · exact hapart.1

end Schema

/-! ### Words in types -/

theorem WordsApart.around {wrapper : Wrapper} {inside left : List Lexeme} (hleft : WordsApart left)
    (hinside : ∀ more, WordsApart more → BeginsWithoutWord more → WordsApart (inside ++ more)) :
    WordsApart (wrapper.around inside ++ left) := by
  rw [Wrapper.around_append]
  refine .cons_word (beginsWithoutWord_cons rfl) (.cons_sign rfl ?_)
  exact hinside _ (.cons_sign rfl hleft) (beginsWithoutWord_cons rfl)

mutual

theorem BaseDerivation.wordsApart_append {o : Bool} (base : BaseDerivation o)
    {left : List Lexeme} (hleft : WordsApart left) (hbegin : BeginsWithoutWord left) :
    WordsApart (base.lexemes ++ left) := by
  match o, base with
  | _, .name scalar => exact .cons_word hbegin hleft
  | _, .list argument => exact .around hleft fun _ => argument.wordsApart_append
  | _, .set argument => exact .around hleft fun _ => argument.wordsApart_append
  | _, .map key value =>
      refine .around hleft fun more hmore hnext => ?_
      refine .cons_word (beginsWithoutWord_cons rfl) (.cons_sign rfl ?_)
      exact value.wordsApart_append hmore hnext
  | _, .optional argument => exact .around hleft fun _ => argument.wordsApart_append

theorem TypeDerivation.wordsApart_append {o : Bool} (d : TypeDerivation o)
    {left : List Lexeme} (hleft : WordsApart left) (hbegin : BeginsWithoutWord left) :
    WordsApart (d.lexemes ++ left) := by
  match o, d with
  | _, .base base => exact base.wordsApart_append hleft hbegin
  | _, .marked base =>
      rw [TypeDerivation.lexemes, List.append_assoc]
      exact base.wordsApart_append (.cons_sign rfl hleft) (beginsWithoutWord_cons rfl)

end

/-- Words are never neighbours in a type. -/
theorem Denotes.wordsApart {lexemes : List Lexeme} {e : TypeExpr} (h : Denotes lexemes e) :
    WordsApart lexemes := by
  obtain ⟨⟨o, d⟩, rfl, -⟩ := h
  have happend := d.wordsApart_append .nil beginsWithoutWord_nil
  rwa [List.append_nil] at happend

end RecordMirror
