import RecordMirror.Proofs.Token.Joining
import RecordMirror.Proofs.Token.Partition
/-!
Tokens written with any layout.  A list of lexemes may be written with blanks and closed comments
before each of them, and scanning gives it back exactly if no two words run together; words that do
are one word.
-/

namespace RecordMirror

/-- Layout that is complete whatever follows it: blanks, line comments with the end of their line,
and block comments. -/
inductive Spacing : List Char → Prop
  | nil : Spacing []
  | blank {c : Char} {rest : List Char} (hblank : c ∈ [' ', '\t', '\r', '\n'])
      (hrest : Spacing rest) : Spacing (c :: rest)
  | line {body rest : List Char} (hbody : '\n' ∉ body) (hrest : Spacing rest) :
      Spacing ('/' :: '/' :: (body ++ '\n' :: rest))
  | block {body rest : List Char} (hfirst : ¬ commentEnd <:+: body ++ ['*'])
      (hrest : Spacing rest) : Spacing ('/' :: '*' :: (body ++ commentEnd ++ rest))

theorem Spacing.gap {gap : List Char} (h : Spacing gap) (after : List Char) : Gap gap after := by
  induction h with
  | nil => exact .nil
  | @blank c rest hblank _ ih => exact @Gap.cons [c] rest after (.blank hblank) ih
  | @line body rest hbody _ ih =>
      have hend : Gap ('\n' :: rest) after := @Gap.cons ['\n'] rest after (.blank (by decide)) ih
      refine @Gap.cons ('/' :: '/' :: body) ('\n' :: rest) after (.line hbody ?_) hend
      rintro c hc
      cases hc
      rfl
  | @block body rest hfirst _ ih =>
      exact @Gap.cons ('/' :: '*' :: (body ++ commentEnd)) rest after (.block hfirst) ih

/-- A lexeme as it is written, with the layout before it. -/
structure SpacedLexeme where
  gap : List Char
  lexeme : Lexeme
  written : List Char
  spacing : Spacing gap
  writtenAs : lexeme.WrittenAs written

/-- The text of some spaced lexemes. -/
def writtenText (items : List SpacedLexeme) : List Char :=
  items.flatMap fun s => s.gap ++ s.written

@[simp] theorem writtenText_nil : writtenText [] = [] := rfl

@[simp] theorem writtenText_cons (s : SpacedLexeme) (items : List SpacedLexeme) :
    writtenText (s :: items) = s.gap ++ s.written ++ writtenText items := rfl

/-- Two neighbours run together if they are words with nothing between them. -/
def SpacedLexeme.Touches (left right : SpacedLexeme) : Prop :=
  left.lexeme.1.isWord = true ∧ right.lexeme.1.isWord = true ∧ right.gap = []

/-- No neighbours run together. -/
def WordsSpaced (items : List SpacedLexeme) : Prop :=
  items.IsChain fun left right => ¬ left.Touches right

/-! ### What lexemes and layout begin with -/

theorem Gap.head_not_wordPart {gap after : List Char} (h : Gap gap after) :
    ∀ c ∈ gap.head?, isWordPart c = false := by
  cases h with
  | nil => simp
  | cons hpiece _ =>
      cases hpiece with
      | blank hblank =>
          rintro c hc
          cases hc
          simp only [List.mem_cons, List.not_mem_nil, or_false] at hblank
          rcases hblank with rfl | rfl | rfl | rfl <;> decide
      | line =>
          rintro c hc
          cases hc
          decide
      | block =>
          rintro c hc
          cases hc
          decide

namespace Lexeme

theorem WrittenAs.spelled {l : Lexeme} {written : List Char} (h : l.WrittenAs written) :
    l.Spelled := by
  cases h with
  | @string quote body hquote hbody hline =>
      simp only [Spelled, String.toList_ofList]
      refine ⟨hline, ?_⟩
      rcases hquote with rfl | rfl
      · exact Or.inl hbody
      · exact Or.inr hbody
  | plain _ hspelled => exact hspelled

theorem Spelled.exists_written {l : Lexeme} (h : l.Spelled) : ∃ written, l.WrittenAs written := by
  obtain ⟨kind, text⟩ := l
  by_cases hkind : kind = .string
  · subst hkind
    obtain ⟨hline, hquote⟩ := h
    have written : ∀ quote : Char, (quote = '"' ∨ quote = '\x27') → quote ∉ text.toList →
        ∃ written, WrittenAs (.string, text) written := by
      intro quote hquote hbody
      have hwritten := WrittenAs.string hquote hbody hline
      rw [String.ofList_toList] at hwritten
      exact ⟨_, hwritten⟩
    rcases hquote with hdouble | hsingle
    · exact written '"' (Or.inl rfl) hdouble
    · exact written '\x27' (Or.inr rfl) hsingle
  · exact ⟨text.toList, .plain hkind h⟩

/-- The lexemes of sources are those that can be written. -/
theorem spelled_iff_written {l : Lexeme} : l.Spelled ↔ ∃ written, l.WrittenAs written :=
  ⟨Spelled.exists_written, fun ⟨_, h⟩ => h.spelled⟩

/-- Words are written as their text, and what else is written begins with no word part. -/
theorem WrittenAs.word_or_not {l : Lexeme} {written : List Char} (h : l.WrittenAs written) :
    (l.1.isWord = true ∧ isWord l.2.toList = true ∧ written = l.2.toList) ∨
      (l.1.isWord = false ∧ ∀ c ∈ written.head?, isWordPart c = false) := by
  cases h with
  | @string quote body hquote =>
      refine Or.inr ⟨rfl, ?_⟩
      rintro c hc
      cases hc
      rcases hquote with rfl | rfl <;> decide
  | @plain kind text hkind hspelled =>
      rcases hspelled.word_or_sign hkind with ⟨hword, rfl⟩ | ⟨c, rfl, hsign⟩
      · exact Or.inl ⟨TokenKind.ofWord_isWord text, hword, rfl⟩
      · refine Or.inr ⟨?_, ?_⟩
        · unfold TokenKind.ofSign? at hsign
          split at hsign <;> cases hsign <;> rfl
        · rw [String.toList_singleton]
          rintro d hd
          cases hd
          by_contra hpart
          rw [TokenKind.ofSign?_eq_none (by simpa using hpart)] at hsign
          cases hsign

end Lexeme

/-! ### Spaced words are scanned -/

section

variable {s : SpacedLexeme} {items : List SpacedLexeme} {last : List Char}

theorem Lexeme.WrittenAs.kind_of_isWord {l : Lexeme} {written : List Char} (h : l.WrittenAs written)
    (hword : isWord written = true) : l.1.isWord = true := by
  rcases h.word_or_not with ⟨hkind, -⟩ | ⟨-, hhead⟩
  · exact hkind
  · obtain ⟨c, rest, rfl⟩ := List.exists_cons_of_ne_nil h.ne_nil
    have hpart := isWordPart_of_mem hword List.mem_cons_self
    rw [hhead c rfl] at hpart
    cases hpart

/-- What does not run into a word before it begins with no word part. -/
theorem SpacedLexeme.head_not_wordPart (h : s.lexeme.1.isWord = false ∨ s.gap ≠ []) :
    ∀ c ∈ (s.gap ++ s.written).head?, isWordPart c = false := by
  by_cases hgap : s.gap = []
  · rcases s.writtenAs.word_or_not with ⟨hword, -⟩ | ⟨-, hhead⟩
    · rcases h with hkind | hne
      · rw [hword] at hkind
        cases hkind
      · exact absurd hgap hne
    · rwa [hgap, List.nil_append]
  · rw [List.head?_append_of_ne_nil _ hgap]
    exact (s.spacing.gap []).head_not_wordPart

/-- A word that does not run into the next lexeme ends where it is written. -/
theorem SpacedLexeme.wordsEnd (hlast : Gap last []) (hspaced : WordsSpaced (s :: items)) :
    WordsEnd s.written (writtenText items ++ last) := by
  intro hword
  have hkind := s.writtenAs.kind_of_isWord hword
  cases items with
  | nil => exact hlast.head_not_wordPart
  | cons t others =>
      have hapart := (List.isChain_cons_cons.1 hspaced).1
      have hnext : t.lexeme.1.isWord = false ∨ t.gap ≠ [] := by
        by_contra hboth
        rw [not_or, Bool.not_eq_false, not_not] at hboth
        exact hapart ⟨hkind, hboth⟩
      have hne : t.gap ++ t.written ≠ [] := List.append_ne_nil_of_right_ne_nil _ t.writtenAs.ne_nil
      rw [writtenText_cons, List.append_assoc, List.head?_append_of_ne_nil _ hne]
      exact t.head_not_wordPart hnext

theorem Token.scanFrom_spaced_lexemes (hlast : Gap last []) (hspaced : WordsSpaced items)
    (p : Position) : ∃ stream, scanFrom p (writtenText items ++ last) = .ok stream ∧
      stream.lexemes = items.map SpacedLexeme.lexeme := by
  induction items generalizing p with
  | nil =>
      have hscan := scanFrom_gap hlast p
      rw [List.append_nil, scanFrom_nil] at hscan
      exact ⟨_, hscan, rfl⟩
  | cons s items ih =>
      obtain ⟨stream, hscan, hlexemes⟩ :=
        ih hspaced.tail ((p.after s.gap).after s.written)
      refine ⟨⟨⟨s.lexeme.1, s.lexeme.2, p.after s.gap⟩ :: stream.tokens, stream.stop⟩, ?_, ?_⟩
      · rw [writtenText_cons, List.append_assoc, List.append_assoc,
          scanFrom_gap (s.spacing.gap _),
          scanFrom_written s.writtenAs (SpacedLexeme.wordsEnd hlast hspaced), hscan]
        rfl
      · simpa [TokenStream.lexemes, Token.lexeme] using hlexemes

end

/-! ### Words that run together -/

/-- Two words that run together are one word in the place of the first. -/
theorem SpacedLexeme.Touches.exists_joined {left right : SpacedLexeme} (h : left.Touches right) :
    ∃ s : SpacedLexeme, s.lexeme.1.isWord = true ∧ s.gap = left.gap ∧
      s.written = left.written ++ (right.gap ++ right.written) := by
  obtain ⟨hleft, hright, hgap⟩ := h
  have word : ∀ s : SpacedLexeme, s.lexeme.1.isWord = true →
      isWord s.lexeme.2.toList = true ∧ s.written = s.lexeme.2.toList := by
    intro s hkind
    rcases s.writtenAs.word_or_not with ⟨-, hword⟩ | ⟨hsign, -⟩
    · exact hword
    · rw [hkind] at hsign
      cases hsign
  obtain ⟨hfirst, hfirstWritten⟩ := word left hleft
  obtain ⟨hsecond, hsecondWritten⟩ := word right hright
  have hjoined : isWord (left.lexeme.2 ++ right.lexeme.2).toList = true := by
    rw [String.toList_append]
    exact isWord_append hfirst fun c hc => isWordPart_of_mem hsecond hc
  have hspelled := Lexeme.spelled_word hjoined
  rw [String.ofList_toList] at hspelled
  have hkind := TokenKind.ofWord_isWord (left.lexeme.2 ++ right.lexeme.2)
  have hwritten := Lexeme.WrittenAs.plain (fun hstring => by rw [hstring] at hkind; cases hkind)
    hspelled
  refine ⟨⟨left.gap, _, _, left.spacing, hwritten⟩, hkind, rfl, ?_⟩
  rw [hgap, List.nil_append, hfirstWritten, hsecondWritten, ← String.toList_append]

/-- The same text is that of lexemes of which none run together.  They are fewer, unless none did
before. -/
theorem exists_wordsSpaced (items : List SpacedLexeme) :
    ∃ spaced, WordsSpaced spaced ∧ writtenText spaced = writtenText items ∧
      (spaced = items ∨ spaced.length < items.length) := by
  induction items with
  | nil => exact ⟨[], .nil, rfl, Or.inl rfl⟩
  | cons s items ih =>
      obtain ⟨spaced, hspaced, htext, hlength⟩ := ih
      have hle : spaced.length ≤ items.length := by
        rcases hlength with rfl | hlt
        · exact Nat.le_refl _
        · exact Nat.le_of_lt hlt
      cases spaced with
      | nil =>
          refine ⟨[s], .singleton s, ?_, ?_⟩
          · rw [writtenText_cons, writtenText_cons, htext]
          · rcases hlength with rfl | hlt
            · exact Or.inl rfl
            · exact Or.inr (Nat.succ_lt_succ hlt)
      | cons t others =>
          by_cases htouch : s.Touches t
          · obtain ⟨joined, hkind, hgap, hwritten⟩ := htouch.exists_joined
            refine ⟨joined :: others, ?_, ?_, Or.inr (Nat.lt_succ_of_le hle)⟩
            · refine List.IsChain.cons hspaced.tail ?_
              rintro next hnext ⟨-, hword, hnone⟩
              obtain ⟨more, rfl⟩ := List.head?_eq_some_iff.1 hnext
              exact (List.isChain_cons_cons.1 hspaced).1 ⟨htouch.2.1, hword, hnone⟩
            · rw [writtenText_cons s, ← htext, writtenText_cons, writtenText_cons, hgap, hwritten]
              simp
          · refine ⟨s :: t :: others, List.isChain_cons_cons.2 ⟨htouch, hspaced⟩, ?_, ?_⟩
            · rw [writtenText_cons s, writtenText_cons s, htext]
            · rcases hlength with heq | hlt
              · exact Or.inl (by rw [heq])
              · exact Or.inr (Nat.succ_lt_succ hlt)

/-- Tokens survive any layout.  The lexemes of sources are those that can be written; written with
any layout before them and behind them they make up a text that scans, and it has the same lexemes
exactly if no two words run together. -/
theorem Token.scan_undoes_writing :
    (∀ l : Lexeme, l.Spelled ↔ ∃ written, l.WrittenAs written) ∧
      ∀ (items : List SpacedLexeme) (last : List Char), Gap last [] →
        ∃ stream, scan (String.ofList (writtenText items ++ last)) = .ok stream ∧
          (stream.toList.map Token.lexeme = items.map SpacedLexeme.lexeme ++ [(.eof, "")] ↔
            WordsSpaced items) := by
  have hend : ∀ (stream : TokenStream) (lexemes : List Lexeme),
      stream.toList.map Token.lexeme = lexemes ++ [(.eof, "")] ↔ stream.lexemes = lexemes := by
    intro stream lexemes
    rw [TokenStream.toList, List.map_append]
    exact List.append_left_inj _
  refine ⟨fun l => Lexeme.spelled_iff_written, ?_⟩
  intro items last hlast
  obtain ⟨spaced, hspaced, htext, hlength⟩ := exists_wordsSpaced items
  obtain ⟨stream, hscan, hlexemes⟩ := scanFrom_spaced_lexemes hlast hspaced .start
  rw [htext] at hscan
  refine ⟨stream, by rw [scan, String.toList_ofList, hscan], ?_⟩
  rw [hend]
  constructor
  · intro hsame
    rcases hlength with rfl | hlt
    · exact hspaced
    · have hcount := congrArg List.length (hlexemes.symm.trans hsame)
      rw [List.length_map, List.length_map] at hcount
      exact absurd hcount (Nat.ne_of_lt hlt)
  · intro hitems
    obtain ⟨stream', hscan', hlexemes'⟩ := scanFrom_spaced_lexemes hlast hitems .start
    rw [hscan] at hscan'
    cases hscan'
    exact hlexemes'

/-- Comments with quotes in them, a comment that looks closed too early, a string that looks like a
comment, and a word that begins with a keyword; then a keyword that runs into a word. -/
theorem Token.scan_undoes_writing_records :
    (Gap "// end".toList [] ∧
      ∃ stream, scan "records//'\nrecord'/*\"'/*/ /*/_1<// end" = .ok stream ∧
        stream.toList.map Token.lexeme = [(.identifier, "records"), (.record, "record"),
          (.string, "/*\""), (.identifier, "_1"), (.leftAngle, "<"), (.eof, "")]) ∧
      ∃ stream, scan "records" = .ok stream ∧
        stream.toList.map Token.lexeme ≠ [(.record, "record"), (.identifier, "s"), (.eof, "")] := by
  let keyword : SpacedLexeme := ⟨[], (.record, "record"), _, .nil, .plain (by decide) rfl⟩
  let suffix : SpacedLexeme :=
    ⟨[], (.identifier, "s"), _, .nil, .plain (by decide) ⟨by decide, by decide⟩⟩
  constructor
  · let items : List SpacedLexeme := [
      ⟨[], (.identifier, "records"), _, .nil, .plain (by decide) ⟨by decide, by decide⟩⟩,
      ⟨_, (.record, "record"), _, @Spacing.line ['\x27'] [] (by decide) .nil,
        .plain (by decide) rfl⟩,
      ⟨[], (.string, "/*\""), _, .nil,
        @Lexeme.WrittenAs.string '\x27' "/*\"".toList (Or.inr rfl) (by decide) (by decide)⟩,
      ⟨_, (.identifier, "_1"), _, @Spacing.block "/ /".toList [] (by decide) .nil,
        .plain (by decide) ⟨by decide, by decide⟩⟩,
      ⟨[], (.leftAngle, "<"), _, .nil, .plain (by decide) rfl⟩]
    have hlast : Gap "// end".toList [] :=
      @Gap.cons "// end".toList [] []
        (@LayoutPiece.line " end".toList [] (by decide) (by simp)) .nil
    have hspaced : WordsSpaced items := by
      simp [items, WordsSpaced, SpacedLexeme.Touches, TokenKind.isWord]
    obtain ⟨stream, hscan, hback⟩ := scan_undoes_writing.2 items _ hlast
    exact ⟨hlast, stream, hscan, hback.2 hspaced⟩
  · obtain ⟨stream, hscan, hback⟩ := scan_undoes_writing.2 [keyword, suffix] [] .nil
    refine ⟨stream, hscan, fun hsame => ?_⟩
    have hspaced := hback.1 hsame
    simp [keyword, suffix, WordsSpaced, SpacedLexeme.Touches, TokenKind.isWord] at hspaced

end RecordMirror
