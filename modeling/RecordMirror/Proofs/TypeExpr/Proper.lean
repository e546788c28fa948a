import RecordMirror.Proofs.TypeExpr.Reading
/-!
Which type expressions declared types denote: no optional is directly in an optional, map keys are
scalars, and records have the names that a declared type can give them.
-/

namespace RecordMirror

/-- A name that a declared type can give a record: a word that is no keyword and that names neither
a wrapper nor a primitive. -/
structure IsRecordName (name : String) : Prop where
  isWord : isWord name.toList = true
  not_record : name ≠ "record"
  not_enum : name ≠ "enum"
  not_wrapper : ∀ wrapper : Wrapper, wrapper.name ≠ name
  not_primitive : ∀ type : Primitive, type.name ≠ name

namespace TypeExpr

/-- What exactly the type expressions that are read have. -/
def WellFormed : TypeExpr → Prop
  | primitive _ => True
  | reference record => IsRecordName record
  | optional inner => inner.isOptional = false ∧ inner.WellFormed
  | list element => element.WellFormed
  | set element => element.WellFormed
  | map key value => key.isScalar = true ∧ key.WellFormed ∧ value.WellFormed

/-- What conversions need of a type expression.  Records only have to have words for names. -/
def Proper : TypeExpr → Prop
  | primitive _ => True
  | reference record => isWord record.toList = true
  | optional inner => inner.isOptional = false ∧ inner.Proper
  | list element => element.Proper
  | set element => element.Proper
  | map key value => key.isScalar = true ∧ key.Proper ∧ value.Proper

theorem WellFormed.proper {e : TypeExpr} (h : e.WellFormed) : e.Proper := by
  induction e with
  | primitive type => trivial
  | reference record => exact h.isWord
  | optional inner ih => exact ⟨h.1, ih h.2⟩
  | list element ih => exact ih h
  | set element ih => exact ih h
  | map key value ihKey ihValue => exact ⟨h.1, ihKey h.2.1, ihValue h.2.2⟩

end TypeExpr

theorem TokenKind.ofWord_eq_identifier_iff {word : String} :
    TokenKind.ofWord word = .identifier ↔ word ≠ "record" ∧ word ≠ "enum" := by
  rcases TokenKind.ofWord_cases word with ⟨hrecord, hkind⟩ | ⟨henum, hkind⟩ |
    ⟨hrecord, henum, hkind⟩
  · exact iff_of_false (by simp [hkind]) (fun h => h.1 hrecord)
  · exact iff_of_false (by simp [hkind]) (fun h => h.2 henum)
  · exact iff_of_true hkind ⟨hrecord, henum⟩

/-- All of some lexemes are spelled as their kinds ask. -/
def SpelledLexemes (lexemes : List Lexeme) : Prop :=
  ∀ lexeme ∈ lexemes, lexeme.Spelled

theorem SpelledLexemes.of_around {wrapper : Wrapper} {inside : List Lexeme}
    (h : SpelledLexemes (wrapper.around inside)) : SpelledLexemes inside := by
  intro lexeme hlexeme
  apply h
  simp [Wrapper.around, hlexeme]

theorem ScalarName.type_wellFormed (scalar : ScalarName)
    (h : Lexeme.Spelled (.identifier, scalar.text)) : scalar.type.WellFormed := by
  cases scalar with
  | primitive type => trivial
  | record name =>
      obtain ⟨hword, hkind⟩ := h
      obtain ⟨hrecord, henum⟩ := TokenKind.ofWord_eq_identifier_iff.1 hkind
      exact ⟨hword, hrecord, henum, Wrapper.ofName?_eq_none_iff.1 name.not_wrapper,
        Primitive.ofName?_eq_none_iff.1 name.not_primitive⟩

mutual

theorem BaseDerivation.type_wellFormed {o : Bool} (base : BaseDerivation o)
    (h : SpelledLexemes base.lexemes) : base.type.WellFormed := by
  match o, base with
  | _, .name scalar => exact scalar.type_wellFormed (h _ List.mem_cons_self)
  | _, .list argument => exact argument.type_wellFormed h.of_around
  | _, .set argument => exact argument.type_wellFormed h.of_around
  | _, .map key value =>
      have hinside := h.of_around
      refine ⟨key.type_isScalar, key.type_wellFormed (hinside _ List.mem_cons_self), ?_⟩
      apply value.type_wellFormed
      intro lexeme hlexeme
      exact hinside lexeme (List.mem_cons_of_mem _ (List.mem_cons_of_mem _ hlexeme))
  | _, .optional argument => exact ⟨argument.type_isOptional, argument.type_wellFormed h.of_around⟩

theorem TypeDerivation.type_wellFormed {o : Bool} (d : TypeDerivation o)
    (h : SpelledLexemes d.lexemes) : d.type.WellFormed := by
  match o, d with
  | _, .base base => exact base.type_wellFormed h
  | _, .marked base =>
      refine ⟨base.type_isOptional, base.type_wellFormed ?_⟩
      exact fun lexeme hlexeme => h lexeme (List.mem_append_left _ hlexeme)

end

namespace TypeExpr

theorem wellFormed_of_parse {text : String} {e : TypeExpr} (h : parse text = .ok e) :
    e.WellFormed := by
  obtain ⟨stream, hscan, ⟨o, d⟩, hlexemes, rfl⟩ := parse_eq_ok_iff.1 h
  apply d.type_wellFormed
  rw [show d.lexemes = stream.lexemes from hlexemes]
  exact (hasLexemes_iff_scan.2 ⟨stream, hscan, rfl⟩).spelled

theorem proper_of_parse {text : String} {e : TypeExpr} (h : parse text = .ok e) : e.Proper :=
  (wellFormed_of_parse h).proper

end TypeExpr

end RecordMirror
