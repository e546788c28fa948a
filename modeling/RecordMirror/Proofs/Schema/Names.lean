import RecordMirror.Proofs.Schema.Reading
/-!
What is known of the names and the type texts in a schema that is read.
-/

namespace RecordMirror

/-- What is known of a field that is read: its name is a free word, and its type text can be scanned
and is not empty. -/
structure Field.Declared (field : Field) : Prop where
  name_isWord : isWord field.name.toList = true
  name_free : Schema.FreeFieldName field.name
  type_scans : ∃ stream, Token.scan field.declaredType = .ok stream ∧ stream.tokens ≠ []

/-- What is known of a record that is read. -/
structure Record.Declared (record : Record) : Prop where
  name_isWord : isWord record.name.toList = true
  name_free : Schema.FreeTypeName record.name
  fields : ∀ field ∈ record.fields, field.Declared

namespace Schema

theorem isWord_of_spelled {t : Token} (hspelled : t.lexeme.Spelled)
    (hkind : t.kind ∈ [TokenKind.identifier, .record, .enum]) : isWord t.text.toList = true := by
  obtain ⟨kind, text, position⟩ := t
  simp only [List.mem_cons, List.not_mem_nil, or_false] at hkind
  rcases hkind with rfl | rfl | rfl
  · exact hspelled.1
  · cases (show text = "record" from hspelled)
    exact (by decide : isWord "record".toList = true)
  · cases (show text = "enum" from hspelled)
    exact (by decide : isWord "enum".toList = true)

theorem WrittenType.typeTokens (type : WrittenType) : TypeTokens type.tokens := by
  obtain ⟨name, group, marks⟩ := type
  refine .cons (by simp [List.mem_singleton.1 name.property, typeKinds]) ?_
  intro t ht
  rcases List.mem_append.1 ht with ht | ht
  · cases group with
    | none => cases ht
    | some group => exact group.kinds t ht
  · obtain ⟨mark, -, hmark⟩ := List.mem_flatMap.1 ht
    rw [List.mem_singleton.1 hmark, List.mem_singleton.1 mark.property]
    decide

theorem exists_scan_typeText {type : WrittenType} (hspelled : SpelledTokens type.tokens) :
    ∃ stream, Token.scan (typeText type.tokens) = .ok stream ∧ stream.tokens ≠ [] := by
  have hlexemes := hasLexemes_typeText type.typeTokens hspelled
  obtain ⟨stream, hscan, hjoined⟩ := hasLexemes_iff_scan.1 hlexemes
  refine ⟨stream, hscan, ?_⟩
  intro hnil
  rw [TokenStream.lexemes, hnil, List.map_nil] at hjoined
  exact List.cons_ne_nil _ _ (List.map_eq_nil_iff.1 (joinWords_eq_nil.1 hjoined.symm))

theorem WrittenField.declared {written : WrittenField} (hspelled : SpelledTokens written.tokens)
    (hfree : FreeFieldName written.name.val.text) : written.field.Declared where
  name_isWord := by
    apply isWord_of_spelled (hspelled written.name.val _) written.name.property
    simp [WrittenField.tokens]
  name_free := hfree
  type_scans := by
    apply exists_scan_typeText (hspelled.of_suffix _)
    refine ⟨_, List.append_assoc _ [written.name.val, written.colon.val] written.type.tokens⟩

theorem WrittenDeclaration.declared {d : WrittenDeclaration} (hspelled : SpelledTokens d.tokens)
    (hfree : d.UsesFreeNames) {record : Record} (hrecord : d.declaration.record? = some record) :
    record.Declared := by
  cases d with
  | enum block => cases hrecord
  | record requests block =>
      cases hrecord
      refine ⟨?_, hfree.type_free, ?_⟩
      · apply isWord_of_spelled (hspelled block.name.val _)
        · exact List.mem_cons.2 (Or.inl (List.mem_singleton.1 block.name.property))
        · simp [WrittenDeclaration.tokens, WrittenBlock.tokens]
      · intro field hfield
        obtain ⟨written, hwritten, rfl⟩ := List.mem_map.1 hfield
        apply written.declared _ (hfree.fields_free written hwritten)
        intro t ht
        apply hspelled
        apply List.mem_append_right
        simp only [WrittenBlock.tokens, List.mem_cons, List.mem_append]
        exact Or.inr (Or.inr (Or.inr (Or.inl (List.mem_flatMap.2 ⟨written, hwritten, ht⟩))))

theorem WrittenDeclaration.field_names_nodup {d : WrittenDeclaration} (hfree : d.UsesFreeNames)
    {record : Record} (hrecord : d.declaration.record? = some record) :
    (record.fields.map Field.name).Nodup := by
  cases d with
  | enum block => cases hrecord
  | record requests block =>
      cases hrecord
      rw [List.map_map]
      exact hfree.fields_distinct

theorem filterMap_record_names (file : List WrittenDeclaration) :
    List.Sublist
      (((file.map WrittenDeclaration.declaration).filterMap Declaration.record?).map Record.name)
      (file.map WrittenDeclaration.name) := by
  induction file with
  | nil => exact List.Sublist.slnil
  | cons d file ih =>
      cases d with
      | record requests block => exact ih.cons_cons _
      | enum block => exact ih.cons _

/-- The records of a schema that is read have names of their own, and all that is known of them. -/
theorem parse_declared {source : String} {schema : Schema} (h : parse source = .ok schema) :
    (∀ record ∈ schema.records, record.Declared) ∧ (schema.records.map Record.name).Nodup := by
  obtain ⟨stream, hscan, hread⟩ := parse_eq_ok_iff.1 h
  obtain ⟨file, htokens, ⟨hfree, hdistinct⟩, rfl⟩ := ofTokens_eq_ok_iff.1 hread
  have hspelled := spelledTokens_of_scan hscan
  rw [← htokens] at hspelled
  constructor
  · intro record hrecord
    obtain ⟨declaration, hdeclaration, hrecord⟩ := List.mem_filterMap.1 hrecord
    obtain ⟨d, hd, rfl⟩ := List.mem_map.1 hdeclaration
    have hwithin : SpelledTokens d.tokens :=
      fun t ht => hspelled t (List.mem_flatMap.2 ⟨d, hd, ht⟩)
    exact d.declared hwithin (hfree d hd) hrecord
  · exact hdistinct.sublist (filterMap_record_names file)

/-- The fields of a record that is read have names of their own. -/
theorem parse_field_names_nodup {source : String} {schema : Schema} (h : parse source = .ok schema)
    {record : Record} (hrecord : record ∈ schema.records) :
    (record.fields.map Field.name).Nodup := by
  obtain ⟨stream, -, hread⟩ := parse_eq_ok_iff.1 h
  obtain ⟨file, -, ⟨hfree, -⟩, rfl⟩ := ofTokens_eq_ok_iff.1 hread
  obtain ⟨declaration, hdeclaration, hrecord⟩ := List.mem_filterMap.1 hrecord
  obtain ⟨d, hd, rfl⟩ := List.mem_map.1 hdeclaration
  exact WrittenDeclaration.field_names_nodup (hfree d hd) hrecord

end Schema

end RecordMirror
