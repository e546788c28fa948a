import RecordMirror.Proofs.TypeExpr.Proper
/-!
Canonical texts of type expressions.  The canonical text has one lexeme after the other, so what is
read from it is the expression it was written for, and that is possible for the well-formed
expressions only: no other expression is ever read.
-/

namespace RecordMirror

theorem Wrapper.name_isWord (wrapper : Wrapper) :
    isWord wrapper.name.toList = true ∧ TokenKind.ofWord wrapper.name = .identifier := by
  cases wrapper <;> decide

theorem Primitive.name_isWord (type : Primitive) :
    isWord type.name.toList = true ∧ TokenKind.ofWord type.name = .identifier := by
  cases type <;> decide

theorem IsRecordName.ofWord {name : String} (h : IsRecordName name) :
    TokenKind.ofWord name = .identifier :=
  TokenKind.ofWord_eq_identifier_iff.2 ⟨h.not_record, h.not_enum⟩

/-- A wrapper is read before its brackets and what they enclose. -/
theorem HasLexemes.around (wrapper : Wrapper) {inside : List Char} {lexemes left : List Lexeme}
    (hinside : HasLexemes inside (lexemes ++ (.rightAngle, ">") :: left)) :
    HasLexemes (wrapper.name.toList ++ '<' :: inside) (wrapper.around lexemes ++ left) := by
  rw [Wrapper.around_append, ← wrapper.name_isWord.2]
  apply HasLexemes.word wrapper.name_isWord.1
  · rintro c hc
    cases hc
    decide
  · have hsign : TokenKind.ofSign? '<' = some .leftAngle := rfl
    simpa using HasLexemes.sign hsign hinside

namespace TypeExpr

/-- The lexemes of the canonical text. -/
def lexemes : TypeExpr → List Lexeme
  | primitive type => [(.identifier, type.name)]
  | optional inner => inner.lexemes ++ [(.question, "?")]
  | list element => Wrapper.around .list element.lexemes
  | set element => Wrapper.around .set element.lexemes
  | map key value => Wrapper.around .map (key.lexemes ++ (.comma, ",") :: value.lexemes)
  | reference record => [(.identifier, record)]

/-- The canonical text is cut into the canonical lexemes, whatever follows that cannot go on a
word. -/
theorem hasLexemes_render {e : TypeExpr} (h : e.WellFormed) {rest : List Char}
    {left : List Lexeme} (hrest : HasLexemes rest left)
    (hend : ∀ c ∈ rest.head?, isWordPart c = false) :
    HasLexemes (e.render.toList ++ rest) (e.lexemes ++ left) := by
  have apart : ∀ {c : Char} {tail : List Char}, isWordPart c = false →
      ∀ d ∈ (c :: tail).head?, isWordPart d = false := by
    rintro c tail hc d hd
    cases hd
    exact hc
  have closed : ∀ {rest : List Char} {left : List Lexeme}, HasLexemes rest left →
      HasLexemes ('>' :: rest) ((.rightAngle, ">") :: left) := by
    intro rest left hrest
    have hsign : TokenKind.ofSign? '>' = some .rightAngle := rfl
    exact .sign hsign hrest
  induction e generalizing rest left with
  | primitive type =>
      have hword := HasLexemes.word type.name_isWord.1 hend hrest
      rwa [type.name_isWord.2] at hword
  | reference record =>
      have hword := HasLexemes.word h.isWord hend hrest
      rwa [h.ofWord] at hword
  | optional inner ih =>
      have hsign : TokenKind.ofSign? '?' = some .question := rfl
      have hinner := ih h.2 (.sign hsign hrest) (apart (by decide))
      simpa [render, lexemes] using hinner
  | list element ih =>
      have helement := ih h (closed hrest) (apart (by decide))
      simpa [render, lexemes, Wrapper.name] using HasLexemes.around .list helement
  | set element ih =>
      have helement := ih h (closed hrest) (apart (by decide))
      simpa [render, lexemes, Wrapper.name] using HasLexemes.around .set helement
  | map key value ihKey ihValue =>
      have hsign : TokenKind.ofSign? ',' = some .comma := rfl
      have hvalue := ihValue h.2.2 (closed hrest) (apart (by decide))
      have hkey := ihKey h.2.1 (.sign hsign hvalue.space) (apart (by decide))
      have hinside : HasLexemes (key.render.toList ++ ',' :: ' ' ::
            (value.render.toList ++ '>' :: rest))
          (key.lexemes ++ (.comma, ",") :: value.lexemes ++ (.rightAngle, ">") :: left) := by
        simpa using hkey
      simpa [render, lexemes, Wrapper.name] using HasLexemes.around .map hinside

/-- The canonical lexemes of a well-formed expression denote it.  A mark after an expression that
is no optional is derived as such; a key is a single name. -/
theorem denotes_lexemes {e : TypeExpr} (h : e.WellFormed) : Denotes e.lexemes e := by
  induction e with
  | primitive type => exact ⟨⟨false, .base (.name (.primitive type))⟩, rfl, rfl⟩
  | reference record =>
      let name : RecordName := ⟨record, Wrapper.ofName?_eq_none_iff.2 h.not_wrapper,
        Primitive.ofName?_eq_none_iff.2 h.not_primitive⟩
      exact ⟨⟨false, .base (.name (.record name))⟩, rfl, rfl⟩
  | optional inner ih =>
      obtain ⟨⟨o, d⟩, hlexemes, htype⟩ := ih h.2
      have ho : o = false := by
        rw [← d.type_isOptional, htype]
        exact h.1
      subst ho
      cases d with
      | base base => exact ⟨⟨true, .marked base⟩, congrArg (· ++ _) hlexemes, congrArg _ htype⟩
  | list element ih =>
      obtain ⟨⟨o, d⟩, hlexemes, htype⟩ := ih h
      exact ⟨⟨false, .base (.list d)⟩, congrArg (Wrapper.around .list) hlexemes, congrArg _ htype⟩
  | set element ih =>
      obtain ⟨⟨o, d⟩, hlexemes, htype⟩ := ih h
      exact ⟨⟨false, .base (.set d)⟩, congrArg (Wrapper.around .set) hlexemes, congrArg _ htype⟩
  | map key value ihKey ihValue =>
      obtain ⟨keyTree, hkeyLexemes, hkeyType⟩ := ihKey h.2.1
      obtain ⟨⟨o, d⟩, hlexemes, htype⟩ := ihValue h.2.2
      obtain ⟨scalar, rfl⟩ := exists_scalar_of_isScalar keyTree (by rw [hkeyType]; exact h.1)
      refine ⟨⟨false, .base (.map scalar d)⟩, ?_, ?_⟩
      · rw [lexemes, ← hkeyLexemes, ← hlexemes]
        rfl
      · rw [← hkeyType, ← htype]
        rfl

/-- The canonical text of a well-formed expression is read as that expression. -/
theorem parse_render_of_wellFormed {e : TypeExpr} (h : e.WellFormed) :
    parse e.render = .ok e := by
  have htext := hasLexemes_render h .nil (by simp)
  rw [List.append_nil, List.append_nil] at htext
  obtain ⟨stream, hscan, hlexemes⟩ := hasLexemes_iff_scan.1 htext
  apply parse_eq_ok_iff.2
  refine ⟨stream, hscan, ?_⟩
  rw [hlexemes]
  exact denotes_lexemes h

/-- Writing and reading type expressions are inverse on exactly the well-formed ones: no other
expression is read, and the canonical text of an expression is read back if and only if it is
well-formed.  So the canonical text of what was read from a text is read as the same and written as
the same again. -/
theorem parse_render_exact :
    (∀ text e, parse text = .ok e → e.WellFormed) ∧
      (∀ e, parse e.render = .ok e ↔ e.WellFormed) ∧
      ∀ text e, parse text = .ok e →
        parse e.render = .ok e ∧ ∀ e', parse e.render = .ok e' → e'.render = e.render := by
  refine ⟨fun text e h => wellFormed_of_parse h, ?_, ?_⟩
  · intro e
    exact ⟨wellFormed_of_parse, parse_render_of_wellFormed⟩
  · intro text e h
    have hread := parse_render_of_wellFormed (wellFormed_of_parse h)
    refine ⟨hread, ?_⟩
    intro e' h'
    rw [hread] at h'
    cases h'
    rfl

/-- The canonical text of a map is read back; the text of an optional of an optional is refused. -/
theorem parse_render_exact_teams :
    parse "Map<UUID, List<Team>?>" =
        .ok (.map (.primitive .uuid) (.optional (.list (.reference "Team")))) ∧
      parse "Int??" ≠ .ok (.optional (.optional (.primitive .int))) := by
  have hteam : IsRecordName "Team" := by
    refine ⟨by decide, by decide, by decide, ?_, ?_⟩
    · intro wrapper
      cases wrapper <;> decide
    · intro type
      cases type <;> decide
  constructor
  · apply (parse_render_exact.2.1
      (.map (.primitive .uuid) (.optional (.list (.reference "Team"))))).2
    exact ⟨rfl, trivial, rfl, hteam⟩
  · intro htwice
    have hwell := (parse_render_exact.2.1 (.optional (.optional (.primitive .int)))).1 htwice
    cases hwell.1

end TypeExpr

end RecordMirror
