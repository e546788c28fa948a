import Mathlib.Data.List.Induction
import RecordMirror.Proofs.Token.Lexeme
/-!
Layout, written tokens and faults, as a source shows them.  What is defined here does not mention
the scanner: which stretches are layout, how a token is written, what a fault looks like and where a
character stands in a text.  Every text begins with one of the three, and the scanner skips layout,
takes a token from where it is written and reports a fault where it begins.
-/

namespace RecordMirror

/-! ### Stretches of one kind of character -/

section

variable {p : Char → Bool} {body after : List Char}

theorem takeWhile_stretch (hbody : ∀ c ∈ body, p c = true)
    (hafter : ∀ c ∈ after.head?, p c = false) : (body ++ after).takeWhile p = body := by
  rw [List.takeWhile_append_of_pos hbody]
  cases after with
  | nil => simp
  | cons c rest => simp [hafter c rfl]

theorem dropWhile_stretch (hbody : ∀ c ∈ body, p c = true)
    (hafter : ∀ c ∈ after.head?, p c = false) : (body ++ after).dropWhile p = after := by
  rw [List.dropWhile_append_of_pos hbody]
  cases after with
  | nil => rfl
  | cons c rest => simp [hafter c rfl]

theorem exists_stretch (p : Char → Bool) (text : List Char) :
    ∃ body after, text = body ++ after ∧ (∀ c ∈ body, p c = true) ∧
      ∀ c ∈ after.head?, p c = false := by
  induction text with
  | nil => exact ⟨[], [], rfl, by simp, by simp⟩
  | cons c rest ih =>
      by_cases hc : p c = true
      · obtain ⟨body, after, rfl, hbody, hafter⟩ := ih
        exact ⟨c :: body, after, rfl, by simpa [hc] using hbody, hafter⟩
      · refine ⟨[], c :: rest, rfl, by simp, ?_⟩
        rintro d hd
        cases hd
        simpa using hc

end

/-! ### Where a text ends -/

/-- The place after a text: lines are counted by the line ends in it, columns by the characters
after the last one. -/
def Position.placeAfter (text : List Char) : Position :=
  ⟨1 + text.count '\n', 1 + (text.reverse.takeWhile (· != '\n')).length⟩

theorem Position.start_after (text : List Char) :
    Position.start.after text = .placeAfter text := by
  induction text using List.reverseRecOn with
  | nil => rfl
  | append_singleton text c ih =>
      rw [Position.after_append, ih, Position.after_cons, Position.after_nil]
      by_cases hc : c = '\n'
      · simp [Position.advance, Position.placeAfter, hc, Nat.add_assoc]
      · simp [Position.advance, Position.placeAfter, hc, Nat.add_assoc, Nat.add_comm 1]

/-! ### Layout -/

/-- The end of a block comment. -/
def commentEnd : List Char := ['*', '/']

/-- A blank or a comment, in front of some text.  A line comment goes on to the end of its line, a
block comment to the first end after its two opening characters. -/
inductive LayoutPiece : List Char → List Char → Prop
  | blank {c : Char} {after : List Char} (hblank : c ∈ [' ', '\t', '\r', '\n']) :
      LayoutPiece [c] after
  | line {body after : List Char} (hbody : '\n' ∉ body) (hafter : ∀ c ∈ after.head?, c = '\n') :
      LayoutPiece ('/' :: '/' :: body) after
  | block {body after : List Char} (hfirst : ¬ commentEnd <:+: body ++ ['*']) :
      LayoutPiece ('/' :: '*' :: (body ++ commentEnd)) after

/-- What may stand between tokens, in front of some text: blanks and comments. -/
inductive Gap : List Char → List Char → Prop
  | nil {after : List Char} : Gap [] after
  | cons {piece gap after : List Char} (hpiece : LayoutPiece piece (gap ++ after))
      (hgap : Gap gap after) : Gap (piece ++ gap) after

namespace Piece

theorem splitAfterCommentEnd_of_first {body rest : List Char}
    (hfirst : ¬ commentEnd <:+: body ++ ['*']) :
    splitAfterCommentEnd (body ++ commentEnd ++ rest) = some (body ++ commentEnd, rest) := by
  induction body with
  | nil => rfl
  | cons c body ih =>
      rw [List.cons_append, List.infix_cons_iff, not_or] at hfirst
      obtain ⟨hhere, hlater⟩ := hfirst
      rw [List.cons_append, List.cons_append, splitAfterCommentEnd, ih hlater]
      · rfl
      · rintro tail rfl htail
        apply hhere
        cases body with
        | nil => cases htail
        | cons d body =>
            cases htail
            exact ⟨body ++ ['*'], rfl⟩

theorem splitAfterCommentEnd_eq_none_iff {text : List Char} :
    splitAfterCommentEnd text = none ↔ ¬ commentEnd <:+: text := by
  fun_induction splitAfterCommentEnd text with
  | case1 => simp [commentEnd]
  | case2 rest => exact iff_of_false (by simp) (fun h => h ⟨[], rest, rfl⟩)
  | case3 c tail hend ih =>
      rw [Option.map_eq_none_iff, ih, List.infix_cons_iff, not_or]
      refine ⟨fun htail => ⟨?_, htail⟩, And.right⟩
      rintro ⟨more, hmore⟩
      cases hmore
      exact hend more rfl rfl

theorem exists_first_commentEnd {text : List Char} (h : commentEnd <:+: text) :
    ∃ body rest, text = body ++ commentEnd ++ rest ∧ ¬ commentEnd <:+: body ++ ['*'] := by
  induction text with
  | nil => simp [commentEnd] at h
  | cons c tail ih =>
      by_cases hhere : commentEnd <+: c :: tail
      · obtain ⟨rest, hrest⟩ := hhere
        exact ⟨[], rest, hrest.symm, by decide⟩
      · obtain ⟨body, rest, rfl, hfirst⟩ := ih ((List.infix_cons_iff.1 h).resolve_left hhere)
        refine ⟨c :: body, rest, rfl, ?_⟩
        rw [List.cons_append, List.infix_cons_iff, not_or]
        refine ⟨fun hprefix => hhere ?_, hfirst⟩
        refine hprefix.trans ⟨'/' :: rest, ?_⟩
        simp [commentEnd]

end Piece

/-! ### Written tokens -/

/-- How a token is written: as its text, but a string between two quotes of one kind, neither of
which is in it, and no line end. -/
inductive Lexeme.WrittenAs : Lexeme → List Char → Prop
  | string {quote : Char} {body : List Char} (hquote : quote = '"' ∨ quote = '\x27')
      (hbody : quote ∉ body) (hline : '\n' ∉ body) :
      WrittenAs (.string, String.ofList body) (quote :: (body ++ [quote]))
  | plain {kind : TokenKind} {text : String} (hkind : kind ≠ .string)
      (hspelled : Lexeme.Spelled (kind, text)) : WrittenAs (kind, text) text.toList

theorem TokenKind.ofSign?_ne {c : Char} {kind : TokenKind} (hsign : ofSign? c = some kind) :
    kind ≠ .string ∧ kind ≠ .record ∧ kind ≠ .enum ∧ kind ≠ .eof := by
  unfold ofSign? at hsign
  split at hsign <;> cases hsign <;> decide

/-- What is no string is a word of the kind words have, or a sign. -/
theorem Lexeme.Spelled.word_or_sign {kind : TokenKind} {text : String} (hkind : kind ≠ .string)
    (h : Lexeme.Spelled (kind, text)) :
    (isWord text.toList = true ∧ TokenKind.ofWord text = kind) ∨
      ∃ c, text = String.singleton c ∧ TokenKind.ofSign? c = some kind := by
  have sign : ∀ c, text = String.singleton c → TokenKind.ofSign? c = some kind →
      ∃ c, text = String.singleton c ∧ TokenKind.ofSign? c = some kind :=
    fun c htext hsign => ⟨c, htext, hsign⟩
  cases kind with
  | identifier => exact Or.inl h
  | record =>
      rw [show text = "record" from h]
      exact Or.inl (by decide)
  | enum =>
      rw [show text = "enum" from h]
      exact Or.inl (by decide)
  | string => exact absurd rfl hkind
  | eof => exact absurd h id
  | leftBrace => exact Or.inr (sign '\x7b' h rfl)
  | rightBrace => exact Or.inr (sign '\x7d' h rfl)
  | leftAngle => exact Or.inr (sign '<' h rfl)
  | rightAngle => exact Or.inr (sign '>' h rfl)
  | leftParen => exact Or.inr (sign '(' h rfl)
  | rightParen => exact Or.inr (sign ')' h rfl)
  | comma => exact Or.inr (sign ',' h rfl)
  | colon => exact Or.inr (sign ':' h rfl)
  | atSign => exact Or.inr (sign '@' h rfl)
  | question => exact Or.inr (sign '?' h rfl)

/-- A word ends where no word part follows it. -/
def WordsEnd (written after : List Char) : Prop :=
  isWord written = true → ∀ c ∈ after.head?, isWordPart c = false

/-! ### Faults -/

/-- What a fault looks like at the beginning of a text: a block comment without an end, a string
without a second quote on its line, or a character that begins neither layout nor a token. -/
def ScanFault.Begins : ScanFault → List Char → Prop
  | openComment, text => ∃ tail, text = '/' :: '*' :: tail ∧ ¬ commentEnd <:+: tail
  | openString, text => ∃ quote body after, text = quote :: (body ++ after) ∧
      (quote = '"' ∨ quote = '\x27') ∧ quote ∉ body ∧ '\n' ∉ body ∧ ∀ c ∈ after.head?, c = '\n'
  | unexpectedCharacter c, text => ∃ tail, text = c :: tail ∧
      c ∉ [' ', '\t', '\r', '\n', '"', '\x27'] ∧ TokenKind.ofSign? c = none ∧
      isWordStart c = false ∧ (c = '/' → ∀ d ∈ tail.head?, d ≠ '/' ∧ d ≠ '*')

/-! ### What the scanner reads -/

namespace Piece

variable {after : List Char}

theorem read_blank {c : Char} (hblank : c ∈ [' ', '\t', '\r', '\n']) :
    read c after = .ok (.layout [c], after) := by
  have hlayout : isLayout c = true := by
    simpa [isLayout, or_assoc] using hblank
  simp [read, hlayout]

theorem read_slash {rest : List Char} : read '/' rest = readComment rest := rfl

theorem readComment_line {body : List Char} (hbody : '\n' ∉ body)
    (hafter : ∀ c ∈ after.head?, c = '\n') :
    readComment ('/' :: (body ++ after)) = .ok (.layout ('/' :: '/' :: body), after) := by
  have hinside : ∀ c ∈ '/' :: body, (c != '\n') = true := by
    intro c hc
    rw [bne_iff_ne]
    rintro rfl
    rcases List.mem_cons.1 hc with h | h
    · cases h
    · exact hbody h
  have hend : ∀ c ∈ after.head?, (c != '\n') = false := by
    intro c hc
    simp [hafter c hc]
  rw [readComment, ← List.cons_append, takeWhile_stretch hinside hend,
    dropWhile_stretch hinside hend]

theorem readComment_block {body : List Char} (hfirst : ¬ commentEnd <:+: body ++ ['*']) :
    readComment ('*' :: (body ++ commentEnd ++ after)) =
      .ok (.layout ('/' :: '*' :: (body ++ commentEnd)), after) := by
  simp only [readComment, splitAfterCommentEnd_of_first hfirst]

theorem readComment_open {tail : List Char} (hopen : ¬ commentEnd <:+: tail) :
    readComment ('*' :: tail) = .error .openComment := by
  simp only [readComment, splitAfterCommentEnd_eq_none_iff.2 hopen]

theorem readComment_unexpected {tail : List Char}
    (htail : ∀ d ∈ tail.head?, d ≠ '/' ∧ d ≠ '*') :
    readComment tail = .error (.unexpectedCharacter '/') := by
  unfold readComment
  split
  · exact absurd rfl (htail '/' rfl).1
  · exact absurd rfl (htail '*' rfl).2
  · rfl

theorem inside_of_not_mem {quote : Char} {body : List Char} (hbody : quote ∉ body)
    (hline : '\n' ∉ body) : ∀ c ∈ body, (c != quote && c != '\n') = true := by
  intro c hc
  rw [Bool.and_eq_true, bne_iff_ne, bne_iff_ne]
  constructor
  · rintro rfl
    exact hbody hc
  · rintro rfl
    exact hline hc

theorem readString_closed {quote : Char} {body : List Char} (hbody : quote ∉ body)
    (hline : '\n' ∉ body) :
    readString quote (body ++ quote :: after) = .ok (.string quote body, after) := by
  have hinside := inside_of_not_mem hbody hline
  have hend : ∀ c ∈ (quote :: after).head?, (c != quote && c != '\n') = false := by
    rintro c hc
    cases hc
    simp
  simp only [readString, takeWhile_stretch hinside hend, dropWhile_stretch hinside hend, if_pos]

theorem readString_open {quote : Char} {body : List Char}
    (hquote : quote = '"' ∨ quote = '\x27') (hbody : quote ∉ body) (hline : '\n' ∉ body)
    (hafter : ∀ c ∈ after.head?, c = '\n') :
    readString quote (body ++ after) = .error .openString := by
  have hinside := inside_of_not_mem hbody hline
  have hend : ∀ c ∈ after.head?, (c != quote && c != '\n') = false := by
    intro c hc
    simp [hafter c hc]
  simp only [readString, dropWhile_stretch hinside hend]
  cases after with
  | nil => rfl
  | cons c rest =>
      cases hafter c rfl
      rcases hquote with rfl | rfl <;> rfl

theorem read_quote {quote : Char} (hquote : quote = '"' ∨ quote = '\x27') (rest : List Char) :
    read quote rest = readString quote rest := by
  rcases hquote with rfl | rfl <;> rfl

/-- A written token is read as it is written, and nothing after it is. -/
theorem read_written {l : Lexeme} {written : List Char} (h : l.WrittenAs written)
    (hend : WordsEnd written after) :
    ∃ c rest piece, written = c :: rest ∧ read c (rest ++ after) = .ok (piece, after) ∧
      piece.lexeme? = some l ∧ piece.raw = written := by
  cases h with
  | @string quote body hquote hbody hline =>
      refine ⟨quote, body ++ [quote], .string quote body, rfl, ?_, rfl, rfl⟩
      rw [List.append_assoc, List.singleton_append, read_quote hquote]
      exact readString_closed hbody hline
  | @plain kind text hkind hspelled =>
      rcases hspelled.word_or_sign hkind with ⟨hword, rfl⟩ | ⟨c, rfl, hsign⟩
      · cases hchars : text.toList with
        | nil => rw [hchars] at hword; cases hword
        | cons c rest =>
            rw [hchars] at hword hend
            refine ⟨c, rest, .word (c :: rest), rfl, read_word hword (hend hword), ?_, rfl⟩
            rw [lexeme?, ← hchars, String.ofList_toList]
      · refine ⟨c, [], .sign kind c, ?_, read_sign hsign after, rfl, ?_⟩
        · exact String.toList_singleton c
        · exact (String.toList_singleton c).symm

/-- Where a fault begins, nothing is read. -/
theorem read_fault {fault : ScanFault} {text : List Char} (h : fault.Begins text) :
    ∃ c rest, text = c :: rest ∧ read c rest = .error fault := by
  cases fault with
  | openComment =>
      obtain ⟨tail, rfl, hopen⟩ := h
      exact ⟨'/', '*' :: tail, rfl, readComment_open hopen⟩
  | openString =>
      obtain ⟨quote, body, after, rfl, hquote, hbody, hline, hafter⟩ := h
      refine ⟨quote, body ++ after, rfl, ?_⟩
      rw [read_quote hquote, readString_open hquote hbody hline hafter]
  | unexpectedCharacter c =>
      obtain ⟨tail, rfl, hc, hsign, hstart, hslash⟩ := h
      refine ⟨c, tail, rfl, ?_⟩
      simp only [List.mem_cons, List.not_mem_nil, or_false, not_or] at hc
      by_cases hcomment : c = '/'
      · subst hcomment
        rw [read_slash, readComment_unexpected (hslash rfl)]
      · simp [read, isLayout, hc, hcomment, hsign, hstart]

end Piece

/-! ### What a text begins with -/

/-- What a text can begin with. -/
inductive Beginning (text : List Char) : Prop
  | layout (piece after : List Char) (htext : text = piece ++ after)
      (hpiece : LayoutPiece piece after)
  | token (l : Lexeme) (written after : List Char) (htext : text = written ++ after)
      (hwritten : l.WrittenAs written) (hend : WordsEnd written after)
  | fault (fault : ScanFault) (hfault : fault.Begins text)

theorem beginning_slash (tail : List Char) : Beginning ('/' :: tail) := by
  by_cases hline : ∃ rest, tail = '/' :: rest
  · obtain ⟨rest, rfl⟩ := hline
    obtain ⟨body, after, rfl, hbody, hafter⟩ := exists_stretch (· != '\n') rest
    refine .layout ('/' :: '/' :: body) after rfl (.line ?_ ?_)
    · intro hmem
      simpa using hbody _ hmem
    · intro c hc
      simpa using hafter c hc
  by_cases hblock : ∃ rest, tail = '*' :: rest
  · obtain ⟨rest, rfl⟩ := hblock
    by_cases hclosed : commentEnd <:+: rest
    · obtain ⟨body, after, rfl, hfirst⟩ := Piece.exists_first_commentEnd hclosed
      exact .layout ('/' :: '*' :: (body ++ commentEnd)) after rfl (.block hfirst)
    · exact .fault .openComment ⟨rest, rfl, hclosed⟩
  refine .fault (.unexpectedCharacter '/') ⟨tail, rfl, by decide, rfl, by decide, ?_⟩
  rintro - d hd
  obtain ⟨rest, rfl⟩ : ∃ rest, tail = d :: rest := by
    cases tail with
    | nil => cases hd
    | cons e rest => cases hd; exact ⟨rest, rfl⟩
  constructor
  · rintro rfl
    exact hline ⟨rest, rfl⟩
  · rintro rfl
    exact hblock ⟨rest, rfl⟩

theorem beginning_sign {c : Char} {kind : TokenKind} (hsign : TokenKind.ofSign? c = some kind)
    (rest : List Char) : Beginning (c :: rest) := by
  have hwritten := Lexeme.WrittenAs.plain (TokenKind.ofSign?_ne hsign).1
    (TokenKind.spelled_of_ofSign? hsign)
  rw [String.toList_singleton] at hwritten
  apply Beginning.token _ _ rest rfl hwritten
  intro hword
  rw [TokenKind.ofSign?_eq_none (isWordPart_of_mem hword List.mem_cons_self)] at hsign
  cases hsign

theorem beginning_quote {quote : Char} (hquote : quote = '"' ∨ quote = '\x27')
    (rest : List Char) : Beginning (quote :: rest) := by
  obtain ⟨body, after, rfl, hbody, hafter⟩ :=
    exists_stretch (fun c => c != quote && c != '\n') rest
  have hinside : quote ∉ body ∧ '\n' ∉ body := by
    constructor
    · intro hmem
      simpa using hbody _ hmem
    · intro hmem
      simpa using hbody _ hmem
  by_cases hclosed : ∃ more, after = quote :: more
  · obtain ⟨more, rfl⟩ := hclosed
    apply Beginning.token _ _ more _ (.string hquote hinside.1 hinside.2)
    · intro hword
      rcases hquote with rfl | rfl <;> cases hword
    · simp
  · refine .fault .openString
      ⟨quote, body, after, rfl, hquote, hinside.1, hinside.2, ?_⟩
    intro c hc
    by_cases hline : c = '\n'
    · exact hline
    · have hstop := hafter c hc
      simp only [Bool.and_eq_false_iff, bne_eq_false_iff_eq, hline, or_false] at hstop
      obtain ⟨more, rfl⟩ := List.head?_eq_some_iff.1 hc
      exact absurd ⟨more, by rw [hstop]⟩ hclosed

theorem beginning_word {c : Char} (hstart : isWordStart c = true) (rest : List Char) :
    Beginning (c :: rest) := by
  obtain ⟨body, after, rfl, hbody, hafter⟩ := exists_stretch isWordPart rest
  have hword : isWord (c :: body) = true := by
    simp only [isWord, Bool.and_eq_true, List.all_eq_true]
    exact ⟨hstart, hbody⟩
  have hkind : TokenKind.ofWord (String.ofList (c :: body)) ≠ .string := by
    rcases TokenKind.ofWord_cases (String.ofList (c :: body)) with
      ⟨-, hkind⟩ | ⟨-, hkind⟩ | ⟨-, -, hkind⟩ <;> rw [hkind] <;> decide
  have hwritten := Lexeme.WrittenAs.plain hkind (Lexeme.spelled_word hword)
  rw [String.toList_ofList] at hwritten
  exact .token _ _ after rfl hwritten fun _ => hafter

/-- Every text but the empty one begins with layout, a token or a fault. -/
theorem beginning (c : Char) (rest : List Char) : Beginning (c :: rest) := by
  by_cases hblank : c ∈ [' ', '\t', '\r', '\n']
  · exact .layout [c] rest rfl (.blank hblank)
  by_cases hslash : c = '/'
  · rw [hslash]
    exact beginning_slash rest
  by_cases hsign : ∃ kind, TokenKind.ofSign? c = some kind
  · obtain ⟨kind, hkind⟩ := hsign
    exact beginning_sign hkind rest
  by_cases hquote : c = '"' ∨ c = '\x27'
  · exact beginning_quote hquote rest
  by_cases hstart : isWordStart c = true
  · exact beginning_word hstart rest
  refine .fault (.unexpectedCharacter c) ⟨rest, rfl, ?_, ?_, ?_, ?_⟩
  · simp only [List.mem_cons, List.not_mem_nil, or_false, not_or] at hblank hquote ⊢
    exact ⟨hblank.1, hblank.2.1, hblank.2.2.1, hblank.2.2.2, hquote⟩
  · simpa [Option.eq_none_iff_forall_ne_some] using hsign
  · simpa using hstart
  · exact fun h => absurd h hslash

/-! ### Scanning gaps, tokens and faults -/

namespace Token

theorem scanFrom_layoutPiece {piece after : List Char} (h : LayoutPiece piece after)
    (p : Position) : scanFrom p (piece ++ after) = scanFrom (p.after piece) after := by
  have hread : ∃ c rest, piece = c :: rest ∧
      Piece.read c (rest ++ after) = .ok (.layout piece, after) := by
    cases h with
    | blank hblank => exact ⟨_, [], rfl, Piece.read_blank hblank⟩
    | line hbody hafter => exact ⟨'/', _, rfl, Piece.readComment_line hbody hafter⟩
    | block hfirst => exact ⟨'/', _, rfl, Piece.readComment_block hfirst⟩
  obtain ⟨c, rest, hpiece, hread⟩ := hread
  rw [hpiece, List.cons_append, scanFrom_cons_ok hread, ← hpiece]
  change (scanFrom (p.after piece) after).map (fun stream => stream) = _
  cases scanFrom (p.after piece) after <;> rfl

/-- A gap is skipped. -/
theorem scanFrom_gap {gap after : List Char} (h : Gap gap after) (p : Position) :
    scanFrom p (gap ++ after) = scanFrom (p.after gap) after := by
  induction h generalizing p with
  | nil => rfl
  | @cons piece gap after hpiece hgap ih =>
      rw [List.append_assoc, scanFrom_layoutPiece hpiece, ih, Position.after_append]

/-- A written token comes first and stands where it is written. -/
theorem scanFrom_written {l : Lexeme} {written after : List Char} (h : l.WrittenAs written)
    (hend : WordsEnd written after) (p : Position) :
    scanFrom p (written ++ after) = (scanFrom (p.after written) after).map fun stream =>
      ⟨⟨l.1, l.2, p⟩ :: stream.tokens, stream.stop⟩ := by
  obtain ⟨c, rest, piece, hwritten, hread, hlexeme, hraw⟩ := Piece.read_written h hend
  rw [hwritten, List.cons_append, scanFrom_cons_ok hread, hraw, hlexeme, hwritten]

theorem scanFrom_fault {fault : ScanFault} {text : List Char} (h : fault.Begins text)
    (p : Position) : scanFrom p text = .error ⟨fault, p⟩ := by
  obtain ⟨c, rest, rfl, hread⟩ := Piece.read_fault h
  exact scanFrom_cons_error hread p

end Token

/-! ### Lexemes of written texts -/

namespace HasLexemes

variable {rest : List Char} {lexemes : List Lexeme}

theorem blank {c : Char} (hblank : c ∈ [' ', '\t', '\r', '\n']) (hrest : HasLexemes rest lexemes) :
    HasLexemes (c :: rest) lexemes := by
  obtain ⟨pieces, hcuts, rfl⟩ := hrest
  exact ⟨.layout [c] :: pieces, .cons (Piece.read_blank hblank) hcuts, rfl⟩

theorem written {l : Lexeme} {text : List Char} (h : l.WrittenAs text) (hend : WordsEnd text rest)
    (hrest : HasLexemes rest lexemes) : HasLexemes (text ++ rest) (l :: lexemes) := by
  obtain ⟨pieces, hcuts, rfl⟩ := hrest
  obtain ⟨c, tail, piece, rfl, hread, hlexeme, -⟩ := Piece.read_written h hend
  exact ⟨piece :: pieces, .cons hread hcuts, by rw [List.filterMap_cons, hlexeme]⟩

end HasLexemes

end RecordMirror
