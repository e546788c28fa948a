import RecordMirror.Proofs.Token.Written
/-!
The scanner cuts a source without loss.  A source that scans is gaps and written tokens in turn, and
the tokens stand where they are written; a source that does not scan is cut in the same way up to
the place of the error, and there begins what the error says.
-/

namespace RecordMirror

/-- A token as it is written, with the gap before it. -/
structure SpacedToken where
  gap : List Char
  written : List Char
  token : Token

/-- How a spaced token stands between the texts before and after it. -/
structure SpacedToken.Stands (before : List Char) (s : SpacedToken) (after : List Char) :
    Prop where
  gap : Gap s.gap (s.written ++ after)
  written : Lexeme.WrittenAs s.token.lexeme s.written
  wordsEnd : WordsEnd s.written after
  position : s.token.position = .placeAfter (before ++ s.gap)

/-- The text of some spaced tokens. -/
def spacedText (items : List SpacedToken) : List Char :=
  items.flatMap fun s => s.gap ++ s.written

@[simp] theorem spacedText_nil : spacedText [] = [] := rfl

@[simp] theorem spacedText_cons (s : SpacedToken) (items : List SpacedToken) :
    spacedText (s :: items) = s.gap ++ s.written ++ spacedText items := rfl

/-- Each of some spaced tokens stands between the ones before it and the ones after it. -/
def AllStand (before : List Char) (items : List SpacedToken) (after : List Char) : Prop :=
  ∀ pre s post, items = pre ++ s :: post →
    s.Stands (before ++ spacedText pre) (spacedText post ++ after)

section

variable {before after : List Char} {s : SpacedToken} {items : List SpacedToken}

theorem allStand_nil : AllStand before [] after := by
  intro pre s post h
  simp at h

theorem allStand_cons_iff : AllStand before (s :: items) after ↔
    s.Stands before (spacedText items ++ after) ∧
      AllStand (before ++ (s.gap ++ s.written)) items after := by
  constructor
  · intro h
    refine ⟨by simpa using h [] s items rfl, ?_⟩
    rintro pre t post rfl
    simpa using h (s :: pre) t post rfl
  · rintro ⟨hfirst, hrest⟩ pre t post h
    cases pre with
    | nil =>
        cases h
        simpa using hfirst
    | cons u pre =>
        cases h
        simpa using hrest pre t post rfl

end

/-- A source is cut into spaced tokens, a gap after the last one, and what is left. -/
structure Cut (source : List Char) (items : List SpacedToken) (gap rest : List Char) : Prop where
  text : source = spacedText items ++ (gap ++ rest)
  stand : AllStand [] items (gap ++ rest)
  gap : Gap gap rest

theorem Position.placeAfter_after (before text : List Char) :
    (Position.placeAfter before).after text = .placeAfter (before ++ text) := by
  rw [← Position.start_after, ← Position.start_after, Position.after_append]

/-! ### Every text is cut -/

theorem LayoutPiece.ne_nil {piece after : List Char} (h : LayoutPiece piece after) :
    piece ≠ [] := by
  cases h <;> simp

theorem Lexeme.WrittenAs.ne_nil {l : Lexeme} {written : List Char} (h : l.WrittenAs written) :
    written ≠ [] := by
  have hend : WordsEnd written [] := fun _ c hc => nomatch hc
  obtain ⟨c, rest, piece, rfl, -⟩ := Piece.read_written h hend
  simp

/-- Two words are keywords, and nothing is written as the token for the end. -/
theorem Lexeme.WrittenAs.kind_iff {l : Lexeme} {written : List Char} (h : l.WrittenAs written) :
    (l.1 = .record ↔ written = "record".toList) ∧ (l.1 = .enum ↔ written = "enum".toList) ∧
      l.1 ≠ .eof := by
  cases h with
  | @string quote body hquote =>
      have hne : ∀ (c : Char) (rest : List Char), isWordStart c = true →
          quote :: (body ++ [quote]) ≠ c :: rest := by
        intro c rest hc heq
        rcases hquote with rfl | rfl <;> cases heq <;> cases hc
      exact ⟨iff_of_false nofun (hne 'r' _ (by decide)), iff_of_false nofun (hne 'e' _ (by decide)),
        nofun⟩
  | @plain kind text hkind hspelled =>
      rw [String.toList_inj, String.toList_inj]
      rcases hspelled.word_or_sign hkind with ⟨-, rfl⟩ | ⟨c, rfl, hsign⟩
      · rcases TokenKind.ofWord_cases text with ⟨rfl, -⟩ | ⟨rfl, -⟩ | ⟨hrecord, henum, hword⟩
        · decide
        · decide
        · simp [hword, hrecord, henum]
      · have hlength : ∀ word : String, word.toList.length ≠ 1 → String.singleton c ≠ word := by
          rintro word hword rfl
          simp at hword
        obtain ⟨-, hrecord, henum, heof⟩ := TokenKind.ofSign?_ne hsign
        exact ⟨iff_of_false hrecord (hlength _ (by decide)),
          iff_of_false henum (hlength _ (by decide)), heof⟩

/-- The longest gap at the beginning of a text ends where nothing is left, or where a token or a
fault begins. -/
theorem exists_gap (text : List Char) :
    ∃ gap rest, text = gap ++ rest ∧ Gap gap rest ∧
      (rest = [] ∨ (∃ l written after, rest = written ++ after ∧ Lexeme.WrittenAs l written ∧
        WordsEnd written after) ∨ ∃ fault : ScanFault, fault.Begins rest) := by
  induction hlength : text.length using Nat.strongRecOn generalizing text with
  | _ n ih =>
      cases text with
      | nil => exact ⟨[], [], rfl, .nil, Or.inl rfl⟩
      | cons c tail =>
          rcases beginning c tail with ⟨piece, after, htext, hpiece⟩ |
            ⟨l, written, after, htext, hwritten, hend⟩ | ⟨fault, hfault⟩
          · have hshort : after.length < n := by
              have hpos := List.length_pos_iff.2 hpiece.ne_nil
              rw [← hlength, htext, List.length_append]
              omega
            obtain ⟨gap, rest, rfl, hgap, hrest⟩ := ih _ hshort after rfl
            exact ⟨piece ++ gap, rest, by simpa using htext, .cons hpiece hgap, hrest⟩
          · exact ⟨[], c :: tail, rfl, .nil, Or.inr (Or.inl ⟨_, _, _, htext, hwritten, hend⟩)⟩
          · exact ⟨[], c :: tail, rfl, .nil, Or.inr (Or.inr ⟨_, hfault⟩)⟩

/-- Every text is cut, and where something is left, a fault begins. -/
theorem exists_spaced (before text : List Char) :
    ∃ items gap rest, text = spacedText items ++ (gap ++ rest) ∧
      AllStand before items (gap ++ rest) ∧ Gap gap rest ∧
        (rest = [] ∨ ∃ fault : ScanFault, fault.Begins rest) := by
  induction hlength : text.length using Nat.strongRecOn generalizing before text with
  | _ n ih =>
      obtain ⟨gap, rest, rfl, hgap, hrest⟩ := exists_gap text
      rcases hrest with hnil | ⟨l, written, after, rfl, hwritten, hend⟩ | hfault
      · exact ⟨[], gap, rest, rfl, allStand_nil, hgap, Or.inl hnil⟩
      · have hshort : after.length < n := by
          have hpos := List.length_pos_iff.2 hwritten.ne_nil
          rw [← hlength, List.length_append, List.length_append]
          omega
        obtain ⟨items, gap', rest, rfl, hstand, hgap', hrest⟩ :=
          ih _ hshort (before ++ (gap ++ written)) after rfl
        let first : SpacedToken := ⟨gap, written, ⟨l.1, l.2, .placeAfter (before ++ gap)⟩⟩
        refine ⟨first :: items, gap', rest, by simp [first], ?_, hgap', hrest⟩
        exact allStand_cons_iff.2 ⟨⟨hgap, hwritten, hend, rfl⟩, hstand⟩
      · exact ⟨[], gap, rest, rfl, allStand_nil, hgap, Or.inr hfault⟩

/-! ### Scanning what is cut -/

namespace Token

theorem scanFrom_spaced {before after : List Char} {items : List SpacedToken}
    (h : AllStand before items after) :
    scanFrom (.placeAfter before) (spacedText items ++ after) =
      (scanFrom (.placeAfter (before ++ spacedText items)) after).map fun stream =>
        ⟨items.map SpacedToken.token ++ stream.tokens, stream.stop⟩ := by
  induction items generalizing before with
  | nil =>
      rw [spacedText_nil, List.append_nil, List.nil_append]
      generalize scanFrom (.placeAfter before) after = outcome
      cases outcome <;> rfl
  | cons s items ih =>
      obtain ⟨hfirst, hrest⟩ := allStand_cons_iff.1 h
      have htoken : (⟨s.token.lexeme.1, s.token.lexeme.2, .placeAfter (before ++ s.gap)⟩ : Token) =
          s.token := by
        rw [← hfirst.position]
        rfl
      have htext : spacedText (s :: items) ++ after =
          s.gap ++ (s.written ++ (spacedText items ++ after)) := by simp
      have hend : before ++ spacedText (s :: items) =
          before ++ (s.gap ++ s.written) ++ spacedText items := by simp
      rw [htext, scanFrom_gap hfirst.gap, scanFrom_written hfirst.written hfirst.wordsEnd,
        Position.placeAfter_after, Position.placeAfter_after, htoken, hend,
        List.append_assoc before, ih hrest]
      generalize scanFrom (.placeAfter _) after = outcome
      cases outcome <;> rfl

theorem scan_of_cut {source : String} {items : List SpacedToken} {gap rest : List Char}
    (h : Cut source.toList items gap rest) :
    scan source = (scanFrom (.placeAfter (spacedText items ++ gap)) rest).map fun stream =>
      ⟨items.map SpacedToken.token ++ stream.tokens, stream.stop⟩ := by
  have hstart : Position.start = .placeAfter [] := rfl
  rw [scan, h.text, hstart, scanFrom_spaced h.stand, scanFrom_gap h.gap,
    Position.placeAfter_after, List.nil_append]

/-- A cut that leaves nothing gives the tokens. -/
theorem scan_of_closed {source : String} {items : List SpacedToken} {gap : List Char}
    (h : Cut source.toList items gap []) :
    scan source = .ok ⟨items.map SpacedToken.token, .placeAfter source.toList⟩ := by
  rw [scan_of_cut h, scanFrom_nil, h.text]
  simp [Except.map]

/-- A cut that leaves a text that a fault begins gives the fault, where it begins. -/
theorem scan_of_fault {source : String} {items : List SpacedToken} {gap rest : List Char}
    {fault : ScanFault} (h : Cut source.toList items gap rest) (hfault : fault.Begins rest) :
    scan source = .error ⟨fault, .placeAfter (spacedText items ++ gap)⟩ := by
  rw [scan_of_cut h, scanFrom_fault hfault]
  rfl

theorem kinds_of_cut {source : List Char} {items : List SpacedToken} {gap rest : List Char}
    (h : Cut source items gap rest) {s : SpacedToken} (hs : s ∈ items) :
    (s.token.kind = .record ↔ s.written = "record".toList) ∧
      (s.token.kind = .enum ↔ s.written = "enum".toList) ∧ s.token.kind ≠ .eof := by
  obtain ⟨pre, post, hitems⟩ := List.append_of_mem hs
  exact (h.stand pre s post hitems).written.kind_iff

/-- The scanner cuts its input.  It gives the tokens of a cut that leaves nothing, closed by the one
for the end, and fails exactly where a cut leaves a text that a fault begins. -/
theorem scan_partitions (source : String) :
    (∀ stream, scan source = .ok stream ↔ ∃ items gap, Cut source.toList items gap [] ∧
        stream.toList = items.map SpacedToken.token ++ [⟨.eof, "", .placeAfter source.toList⟩]) ∧
      (∀ e, scan source = .error e ↔ ∃ items gap rest, Cut source.toList items gap rest ∧
        e.fault.Begins rest ∧ e.position = .placeAfter (spacedText items ++ gap)) ∧
      ∀ items gap rest, Cut source.toList items gap rest → ∀ s ∈ items,
        (s.token.kind = .record ↔ s.written = "record".toList) ∧
          (s.token.kind = .enum ↔ s.written = "enum".toList) ∧ s.token.kind ≠ .eof := by
  obtain ⟨items, gap, rest, htext, hstand, hgap, hrest⟩ := exists_spaced [] source.toList
  have hcut : Cut source.toList items gap rest := ⟨htext, hstand, hgap⟩
  refine ⟨?_, ?_, fun items gap rest h s hs => kinds_of_cut h hs⟩
  · intro stream
    constructor
    · intro hscan
      rcases hrest with rfl | ⟨fault, hbegins⟩
      · rw [scan_of_closed hcut] at hscan
        cases hscan
        exact ⟨items, gap, hcut, rfl⟩
      · rw [scan_of_fault hcut hbegins] at hscan
        cases hscan
    · rintro ⟨items, gap, h, hstream⟩
      obtain ⟨htokens, hstop⟩ := List.append_inj' hstream rfl
      rw [scan_of_closed h]
      obtain ⟨tokens, stop⟩ := stream
      cases htokens
      cases hstop
      rfl
  · intro e
    constructor
    · intro hscan
      rcases hrest with rfl | ⟨fault, hbegins⟩
      · rw [scan_of_closed hcut] at hscan
        cases hscan
      · rw [scan_of_fault hcut hbegins] at hscan
        cases hscan
        exact ⟨items, gap, rest, hcut, hbegins, rfl⟩
    · rintro ⟨items, gap, rest, h, hbegins, hposition⟩
      rw [scan_of_fault h hbegins, ← hposition]

/-- A comment that looks closed too early, and a quote of the other kind in a string; then a string
that is not closed. -/
theorem scan_partitions_comment :
    scan "enum /*/*/'a\"'" =
        .ok ⟨[⟨.enum, "enum", ⟨1, 1⟩⟩, ⟨.string, "a\"", ⟨1, 11⟩⟩], ⟨1, 15⟩⟩ ∧
      scan "x\n 'y" = .error ⟨.openString, ⟨2, 2⟩⟩ := by
  constructor
  · let gap := [' ', '/', '*', '/', '*', '/']
    let items : List SpacedToken := [⟨[], "enum".toList, ⟨.enum, "enum", ⟨1, 1⟩⟩⟩,
      ⟨gap, "'a\"'".toList, ⟨.string, "a\"", ⟨1, 11⟩⟩⟩]
    have hgap : ∀ after, Gap gap after := by
      intro after
      have hcomment : LayoutPiece ['/', '*', '/', '*', '/'] ([] ++ after) :=
        @LayoutPiece.block ['/'] _ (by decide)
      exact @Gap.cons [' '] _ _ (.blank (by decide)) (.cons hcomment .nil)
    have hcut : Cut "enum /*/*/'a\"'".toList items [] [] := by
      refine ⟨by decide, allStand_cons_iff.2 ⟨?_, allStand_cons_iff.2 ⟨?_, allStand_nil⟩⟩, .nil⟩
      · have hend : WordsEnd "enum".toList gap := by
          rintro - c ⟨⟩
          decide
        exact ⟨.nil, @Lexeme.WrittenAs.plain .enum "enum" (by decide) rfl, hend, by decide⟩
      · have hwritten := @Lexeme.WrittenAs.string '\x27' ['a', '"'] (Or.inr rfl) (by decide)
          (by decide)
        exact ⟨hgap _, hwritten, fun hword => absurd hword (by decide), by decide⟩
    exact ((scan_partitions _).1 _).2 ⟨items, [], hcut, by decide⟩
  · let items : List SpacedToken := [⟨[], ['x'], ⟨.identifier, "x", ⟨1, 1⟩⟩⟩]
    have hgap : Gap ['\n', ' '] ['\x27', 'y'] :=
      @Gap.cons ['\n'] _ _ (.blank (by decide)) (@Gap.cons [' '] _ _ (.blank (by decide)) .nil)
    have hcut : Cut "x\n 'y".toList items ['\n', ' '] ['\x27', 'y'] := by
      refine ⟨by decide, allStand_cons_iff.2 ⟨?_, allStand_nil⟩, hgap⟩
      have hwritten := @Lexeme.WrittenAs.plain .identifier "x" (by decide) ⟨by decide, by decide⟩
      have hend : WordsEnd ['x'] ['\n', ' ', '\x27', 'y'] := by
        rintro - c ⟨⟩
        decide
      exact ⟨.nil, hwritten, hend, by decide⟩
    refine ((scan_partitions _).2.1 _).2 ⟨items, _, _, hcut, ?_, by decide⟩
    exact ⟨'\x27', ['y'], [], rfl, Or.inr rfl, by decide, by decide, by simp⟩

end Token

end RecordMirror
