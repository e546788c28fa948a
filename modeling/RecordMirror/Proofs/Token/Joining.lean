import Mathlib.Data.List.Chain
import RecordMirror.Proofs.Token.Lexeme
/-!
Written words that touch.  Lexemes that are written one after the other, without layout, are read
back as they were, but that words next to each other become one word.
-/

namespace RecordMirror

/-- The kinds of token that are written as words. -/
def TokenKind.isWord : TokenKind → Bool
  | identifier | record | enum => true
  | _ => false

theorem TokenKind.ofWord_isWord (word : String) : (TokenKind.ofWord word).isWord = true := by
  unfold TokenKind.ofWord
  split
  · rfl
  · split <;> rfl

/-- The lexemes with each run of neighbouring words joined into one. -/
def joinWords : List Lexeme → List Lexeme
  | [] => []
  | (kind, text) :: rest =>
    match joinWords rest with
    | [] => [(kind, text)]
    | (next, more) :: others =>
      if kind.isWord && next.isWord then
        (TokenKind.ofWord (text ++ more), text ++ more) :: others
      else (kind, text) :: (next, more) :: others

/-- No two words are neighbours. -/
def WordsApart (lexemes : List Lexeme) : Prop :=
  lexemes.IsChain fun left right => ¬ (left.1.isWord = true ∧ right.1.isWord = true)

/-- No word begins some lexemes. -/
def BeginsWithoutWord (lexemes : List Lexeme) : Prop :=
  ∀ lexeme ∈ lexemes.head?, lexeme.1.isWord = false

theorem beginsWithoutWord_nil : BeginsWithoutWord [] := by
  rintro lexeme hlexeme
  cases hlexeme

theorem beginsWithoutWord_cons {kind : TokenKind} {text : String} {rest : List Lexeme}
    (hkind : kind.isWord = false) : BeginsWithoutWord ((kind, text) :: rest) := by
  rintro lexeme hlexeme
  cases hlexeme
  exact hkind

namespace WordsApart

variable {kind : TokenKind} {text : String} {rest : List Lexeme}

theorem cons_sign (hkind : kind.isWord = false) (h : WordsApart rest) :
    WordsApart ((kind, text) :: rest) := by
  refine List.IsChain.cons h ?_
  rintro next - ⟨hword, -⟩
  rw [hkind] at hword
  cases hword

theorem cons_word (hrest : BeginsWithoutWord rest) (h : WordsApart rest) :
    WordsApart ((kind, text) :: rest) := by
  refine List.IsChain.cons h ?_
  rintro next hnext ⟨-, hword⟩
  rw [hrest next hnext] at hword
  cases hword

end WordsApart

theorem joinWords_cons (kind : TokenKind) (text : String) (rest : List Lexeme) :
    joinWords ((kind, text) :: rest) =
      match joinWords rest with
      | [] => [(kind, text)]
      | (next, more) :: others =>
        if kind.isWord && next.isWord then
          (TokenKind.ofWord (text ++ more), text ++ more) :: others
        else (kind, text) :: (next, more) :: others :=
  rfl

theorem joinWords_eq_nil {lexemes : List Lexeme} : joinWords lexemes = [] ↔ lexemes = [] := by
  constructor
  · intro h
    cases lexemes with
    | nil => rfl
    | cons head rest =>
        rw [joinWords_cons] at h
        split at h
        · cases h
        · split at h <;> cases h
  · rintro rfl
    rfl

/-- Joining keeps what the first lexeme is: a word or none. -/
theorem joinWords_cons_isWord {kind next : TokenKind} {text more : String}
    {rest others : List Lexeme} (h : joinWords ((kind, text) :: rest) = (next, more) :: others) :
    next.isWord = kind.isWord := by
  rw [joinWords_cons] at h
  split at h
  · cases h
    rfl
  · split at h
    · rename_i hwords
      simp only [Bool.and_eq_true] at hwords
      cases h
      rw [TokenKind.ofWord_isWord, hwords.1]
    · cases h
      rfl

theorem joinWords_cons_of_not_word {kind : TokenKind} {text : String} {rest : List Lexeme}
    (hkind : kind.isWord = false) :
    joinWords ((kind, text) :: rest) = (kind, text) :: joinWords rest := by
  simp only [joinWords_cons, hkind, Bool.false_and, Bool.false_eq_true, if_false]
  split
  · rename_i hrest
    rw [hrest]
  · rename_i hrest
    rw [hrest]

theorem joinWords_cons_of_next {kind next : TokenKind} {text more : String} {rest : List Lexeme}
    (hnext : next.isWord = false) :
    joinWords ((kind, text) :: (next, more) :: rest) =
      (kind, text) :: joinWords ((next, more) :: rest) := by
  rw [joinWords_cons_of_not_word hnext, joinWords_cons, joinWords_cons_of_not_word hnext]
  simp only [hnext, Bool.and_false, Bool.false_eq_true, if_false]

theorem joinWords_cons_of_word {kind next : TokenKind} {text more : String}
    {rest others : List Lexeme} (hkind : kind.isWord = true) (hnext : next.isWord = true)
    (hrest : joinWords rest = (next, more) :: others) :
    joinWords ((kind, text) :: rest) =
      (TokenKind.ofWord (text ++ more), text ++ more) :: others := by
  simp only [joinWords_cons, hrest, hkind, hnext, Bool.and_self, if_true]

theorem joinWords_length_le (lexemes : List Lexeme) :
    (joinWords lexemes).length ≤ lexemes.length := by
  induction lexemes with
  | nil => exact Nat.le_refl _
  | cons head rest ih =>
      rw [joinWords_cons]
      split
      · simp
      · rename_i next more others hrest
        rw [hrest] at ih
        split <;> simp only [List.length_cons] at ih ⊢ <;> omega

/-- Joining changes nothing exactly if no two words are neighbours. -/
theorem joinWords_eq_self_iff {lexemes : List Lexeme} :
    joinWords lexemes = lexemes ↔ WordsApart lexemes := by
  induction lexemes with
  | nil => exact ⟨fun _ => .nil, fun _ => rfl⟩
  | cons head rest ih =>
      obtain ⟨kind, text⟩ := head
      cases rest with
      | nil => exact ⟨fun _ => .singleton _, fun _ => rfl⟩
      | cons second tail =>
          obtain ⟨next, more⟩ := second
          rw [WordsApart, List.isChain_cons_cons, ← WordsApart, ← ih]
          by_cases hkind : kind.isWord = true
          · by_cases hnext : next.isWord = true
            · obtain ⟨⟨joined, word⟩, others, hrest⟩ :=
                List.exists_cons_of_ne_nil (l := joinWords ((next, more) :: tail))
                  (fun h => nomatch joinWords_eq_nil.1 h)
              have hjoined : joined.isWord = true := by
                rw [joinWords_cons_isWord hrest, hnext]
              have hlength := joinWords_length_le ((next, more) :: tail)
              rw [hrest] at hlength
              constructor
              · intro h
                rw [joinWords_cons_of_word hkind hjoined hrest] at h
                have := congrArg List.length h
                simp only [List.length_cons] at this hlength
                omega
              · rintro ⟨hapart, -⟩
                exact absurd ⟨hkind, hnext⟩ hapart
            · rw [joinWords_cons_of_next (by simpa using hnext)]
              simp [hnext]
          · rw [joinWords_cons_of_not_word (by simpa using hkind)]
            simp [hkind]

end RecordMirror
