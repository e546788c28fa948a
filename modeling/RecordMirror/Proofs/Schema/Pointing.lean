import RecordMirror.Proofs.Schema.Faults
import RecordMirror.Proofs.Token.Places
/-!
What the errors of a schema point at.  An error gives the place of a token and quotes it; where a
name is repeated, that is the name token of the second occurrence.  The exception is a repeated
field with an attribute: it is reported where the field begins, which is at its first attribute.
-/

namespace RecordMirror

/-- Whether a fault looks back: the token at hand is at fault only after what was read before it. -/
def SchemaFault.looksBack : SchemaFault → Bool
  | notARecord _ => true
  | duplicateType _ => true
  | duplicateField _ _ => true
  | _ => false

namespace Schema

variable {stop : Position} {kinds : List TokenKind} {tokens left : List Token} {e : SchemaError}

/-! ### Faults of the token at hand -/

theorem expect_looksBack (h : expect stop kinds tokens = .error e) :
    e.fault.looksBack = false := by
  unfold expect at h
  split at h
  · cases h
    rfl
  · split at h
    · cases h
    · cases h
      rfl

theorem readGroup_looksBack {depth : Nat} (h : readGroup stop depth tokens = .error e) :
    e.fault.looksBack = false := by
  induction tokens generalizing depth with
  | nil =>
      have hend : e = ⟨.openTypeArguments "", stop⟩ := by
        cases depth <;> exact (Except.error.inj h).symm
      rw [hend]
      rfl
  | cons t rest ih =>
      simp only [readGroup] at h
      split at h
      · cases h
      · exact ih (map_eq_error.1 h)
      · exact ih (map_eq_error.1 h)
      · exact ih (map_eq_error.1 h)
      · exact ih (map_eq_error.1 h)
      · exact ih (map_eq_error.1 h)
      · cases h
        rfl

theorem readTypeTokens_looksBack (h : readTypeTokens stop tokens = .error e) :
    e.fault.looksBack = false := by
  rcases bind_eq_error.1 h with h | ⟨⟨name, rest⟩, -, h⟩
  · exact expect_looksBack h
  rcases bind_eq_error.1 h with h | ⟨group, -, h⟩
  · unfold readOptionalGroup at h
    split at h
    · cases h
    · split at h
      · exact readGroup_looksBack (map_eq_error.1 h)
      · cases h
  · cases h

theorem readPersisted_looksBack {persisted : Bool}
    (h : readPersisted stop persisted tokens = .error e) : e.fault.looksBack = false := by
  fun_induction readPersisted stop persisted tokens with
  | case1 _ _ _ _ _ ih => exact ih h
  | case2 =>
      cases h
      rfl
  | case3 =>
      cases h
      rfl
  | case4 => cases h

theorem readFieldName_looksBack (h : readFieldName stop tokens = .error e) :
    e.fault.looksBack = false := by
  simp only [readFieldName] at h
  split at h
  · cases h
    rfl
  split at h
  · cases h
    rfl
  split at h
  · cases h
    rfl
  · cases h

theorem readField_looksBack (h : readField stop tokens = .error e) :
    e.fault.looksBack = false := by
  rcases bind_eq_error.1 h with h | ⟨⟨persisted, rest⟩, -, h⟩
  · exact readPersisted_looksBack h
  rcases bind_eq_error.1 h with h | ⟨⟨name, rest'⟩, -, h⟩
  · exact readFieldName_looksBack h
  rcases bind_eq_error.1 h with h | ⟨⟨colon, inside⟩, -, h⟩
  · exact expect_looksBack h
  rcases bind_eq_error.1 h with h | ⟨type, -, h⟩
  · exact readTypeTokens_looksBack h
  · cases h

theorem readValues_looksBack (h : readValues stop tokens = .error e) :
    e.fault.looksBack = false := by
  fun_induction readValues stop tokens with
  | case1 =>
      cases h
      rfl
  | case2 => cases h
  | case3 _ _ _ _ error hmore ih =>
      cases h
      exact ih hmore
  | case4 => cases h
  | case5 =>
      cases h
      rfl

theorem readRequest_looksBack (h : readRequest stop tokens = .error e) :
    e.fault.looksBack = false := by
  rcases bind_eq_error.1 h with h | ⟨⟨sign, rest⟩, -, h⟩
  · exact expect_looksBack h
  rcases bind_eq_error.1 h with h | ⟨⟨name, rest'⟩, -, h⟩
  · exact expect_looksBack h
  simp only at h
  split at h
  · cases h
    rfl
  rcases bind_eq_error.1 h with h | ⟨mode, -, h⟩
  · unfold readMode at h
    split at h
    · rcases bind_eq_error.1 h with h | ⟨⟨text, rest⟩, -, h⟩
      · exact expect_looksBack h
      rcases bind_eq_error.1 h with h | ⟨close, -, h⟩
      · exact expect_looksBack h
      · cases h
    · cases h
  · cases h

theorem readRequests_looksBack (h : readRequests stop tokens = .error e) :
    e.fault.looksBack = false := by
  fun_induction readRequests stop tokens with
  | case1 tokens _ error hrequest =>
      cases h
      exact readRequest_looksBack (attachShorter_eq_error.1 hrequest)
  | case2 tokens _ request rest _ error hmore ih =>
      cases h
      exact ih hmore
  | case3 => cases h
  | case4 => cases h

/-! ### Repeated fields -/

/-- The token that a field begins with: its first attribute, or its name if it has none. -/
def WrittenField.start (field : WrittenField) : Token :=
  match field.marks with
  | [] => field.name.val
  | mark :: _ => mark.1.val

theorem WrittenField.tokens_eq_cons (field : WrittenField) :
    ∃ rest, field.tokens = field.start :: rest := by
  obtain ⟨marks, name, colon, type⟩ := field
  cases marks with
  | nil => exact ⟨_, rfl⟩
  | cons mark marks => exact ⟨_, rfl⟩

/-- By induction on the rounds of the loop: a fault of the fields that looks back is a field that
repeats a name, and it is reported where that field begins. -/
theorem readFields_repeated {record : String} {seen : List String}
    (h : readFields stop record seen tokens = .error e) (hback : e.fault.looksBack = true) :
    ∃ (earlier : List WrittenField) (field : WrittenField) (rest : List Token),
      tokens = earlier.flatMap WrittenField.tokens ++ (field.tokens ++ rest) ∧
        (earlier.map (·.name.val.text)).Nodup ∧ (∀ other ∈ earlier, other.name.val.text ∉ seen) ∧
        field.name.val.text ∈ seen ++ earlier.map (·.name.val.text) ∧
        e = ⟨.duplicateField field.name.val.text record, field.start.position⟩ := by
  fun_induction readFields stop record seen tokens with
  | case1 =>
      cases h
      cases hback
  | case2 => cases h
  | case3 seen first rest hfirst error hfield =>
      cases h
      have hread := (@attachShorter_eq_error _ _ _ _ _ readField_length _).1 hfield
      rw [readField_looksBack hread] at hback
      cases hback
  | case4 seen first rest hfirst field after hfield hseen =>
      cases h
      have hread := (@attachShorter_eq_ok _ _ _ _ _ readField_length _ _).1 hfield
      obtain ⟨written, htokens, rfl, -⟩ := readField_sound hread
      obtain ⟨tail, hstart⟩ := written.tokens_eq_cons
      have hfirst : first = written.start := by
        rw [hstart] at htokens
        exact (List.cons.inj htokens).1
      refine ⟨[], written, after.val, htokens, List.nodup_nil, by simp, ?_, by rw [hfirst]; rfl⟩
      exact List.mem_append_left _ hseen
  | case5 seen first rest hfirst field after hfield hseen error hmore ih =>
      cases h
      have hread := (@attachShorter_eq_ok _ _ _ _ _ readField_length _ _).1 hfield
      obtain ⟨written, htokens, rfl, -⟩ := readField_sound hread
      obtain ⟨earlier, repeated, left, hafter, hdistinct, hnew, hrepeats, he⟩ := ih hmore
      obtain ⟨hdistinct, hnew⟩ := @distinct_cons WrittenField (·.name.val.text) written earlier seen
        hseen hdistinct hnew
      refine ⟨written :: earlier, repeated, left, ?_, hdistinct, hnew, ?_, he⟩
      · rw [htokens, hafter, List.flatMap_cons, List.append_assoc]
      · rw [List.map_cons]
        have hname : written.field.name = written.name.val.text := rfl
        simp only [hname, List.cons_append, List.mem_cons, List.mem_append] at hrepeats ⊢
        tauto
  | case6 => cases h

/-! ### Repeated types -/

theorem readTypeName_repeated {declared : List String}
    (h : readTypeName stop declared tokens = .error e) (hback : e.fault.looksBack = true) :
    ∃ (t : TokenOf [.identifier]) (rest : List Token), tokens = t.val :: rest ∧
      t.val.text ∈ declared ∧ e = ⟨.duplicateType t.val.text, t.val.position⟩ := by
  rcases bind_eq_error.1 h with h | ⟨⟨name, rest⟩, hname, h⟩
  · rw [expect_looksBack h] at hback
    cases hback
  rcases bind_eq_error.1 h with hcheck | ⟨⟨⟩, -, h⟩
  · obtain ⟨rfl, hkind⟩ := expect_ok hname
    simp only [checkTypeName] at hcheck
    split at hcheck
    · cases hcheck
      cases hback
    split at hcheck
    · cases hcheck
      cases hback
    split at hcheck
    · cases hcheck
      cases hback
    split at hcheck
    · rename_i hdeclared
      cases hcheck
      exact ⟨⟨name, hkind⟩, rest, rfl, hdeclared, rfl⟩
    · cases hcheck
  rcases bind_eq_error.1 h with h | ⟨brace, -, h⟩
  · rw [expect_looksBack h] at hback
    cases hback
  · cases h

/-- An error about what stands where a record should stand, reported at that token. -/
def NoRecord (stop : Position) (tokens : List Token) (e : SchemaError) : Prop :=
  ∃ before rest, tokens = before ++ rest ∧
    e = ⟨.notARecord (currentToken stop rest), (currentToken stop rest).position⟩

/-- The head of a declaration whose name is declared already, after the requests before it. -/
def RepeatsType (declared : List String) (tokens : List Token) (t : Token) : Prop :=
  ∃ (requests : List WrittenRequest) (word : TokenOf [.record, .enum]) (rest : List Token),
    tokens = requests.flatMap WrittenRequest.tokens ++ word.val :: t :: rest ∧
      t.kind = .identifier ∧ t.text ∈ declared

theorem repeatsType_of_readTypeName {declared : List String} {word : Token}
    (requests : List WrittenRequest) (hword : word.kind ∈ [TokenKind.record, .enum])
    (h : readTypeName stop declared tokens = .error e) (hback : e.fault.looksBack = true) :
    ∃ t, RepeatsType declared (requests.flatMap WrittenRequest.tokens ++ word :: tokens) t ∧
      e = ⟨.duplicateType t.text, t.position⟩ := by
  obtain ⟨t, after, rfl, hdeclared, rfl⟩ := readTypeName_repeated h hback
  exact ⟨t.val, ⟨requests, ⟨word, hword⟩, after, rfl, List.mem_singleton.1 t.property, hdeclared⟩,
    rfl⟩

/-- A record up to a field that repeats the name of one before it. -/
def RepeatsField (record : String) (tokens : List Token) (field : WrittenField) : Prop :=
  ∃ (requests : List WrittenRequest) (word : TokenOf [.record]) (name : TokenOf [.identifier])
    (opening : TokenOf [.leftBrace]) (earlier : List WrittenField) (rest : List Token),
    tokens = requests.flatMap WrittenRequest.tokens ++ word.val :: name.val :: opening.val ::
        (earlier.flatMap WrittenField.tokens ++ (field.tokens ++ rest)) ∧
      name.val.text = record ∧ (earlier.map (·.name.val.text)).Nodup ∧
      field.name.val.text ∈ earlier.map (·.name.val.text)

/-- The three ways in which a declaration is at fault for what was read before. -/
theorem readRequested_repeated {declared : List String}
    (h : readRequested stop declared tokens = .error e) (hback : e.fault.looksBack = true) :
    NoRecord stop tokens e ∨
      (∃ t, RepeatsType declared tokens t ∧ e = ⟨.duplicateType t.text, t.position⟩) ∨
      ∃ record field, RepeatsField record tokens field ∧
        e = ⟨.duplicateField field.name.val.text record, field.start.position⟩ := by
  unfold readRequested at h
  split at h
  · rename_i hrequests
    cases h
    rw [readRequests_looksBack hrequests] at hback
    cases hback
  rename_i mirrors rest hrequests
  obtain ⟨requests, rfl, -⟩ := readRequests_sound hrequests
  simp only [readDeclaration] at h
  split at h
  · cases h
    exact Or.inl ⟨_, rest, rfl, rfl⟩
  cases rest with
  | nil =>
      cases h
      cases hback
  | cons word rest =>
      split at h
      · rename_i hword
        rcases bind_eq_error.1 h with h | ⟨⟨name, inside⟩, hname, h⟩
        · have hkind : word.kind ∈ [TokenKind.record, .enum] := by
            rw [show word.kind = _ from hword]
            decide
          exact Or.inr (Or.inl (repeatsType_of_readTypeName requests hkind h hback))
        rcases bind_eq_error.1 h with h | ⟨fields, -, h⟩
        · obtain ⟨t, opening, hrest, rfl, -, -⟩ := readTypeName_sound hname
          obtain ⟨earlier, field, after, rfl, hdistinct, -, hrepeats, rfl⟩ :=
            readFields_repeated h hback
          refine Or.inr (Or.inr ⟨_, field, ⟨requests, ⟨word, List.mem_singleton.2 hword⟩, t,
            opening, earlier, after, ?_, rfl, hdistinct, hrepeats⟩, rfl⟩)
          rw [show rest = _ from hrest]
        · cases h
      · rename_i hword
        rcases bind_eq_error.1 h with h | ⟨⟨name, inside⟩, -, h⟩
        · have hkind : word.kind ∈ [TokenKind.record, .enum] := by
            rw [show word.kind = _ from hword]
            decide
          exact Or.inr (Or.inl (repeatsType_of_readTypeName requests hkind h hback))
        rcases bind_eq_error.1 h with h | ⟨values, -, h⟩
        · rw [readValues_looksBack h] at hback
          cases hback
        · cases h
      · cases h
        cases hback

/-! ### Sources -/

/-- By induction on the rounds of the loop: declarations are read up to the one at fault, and what
they leave to it are their names. -/
theorem readDeclarations_error_split {declared : List String}
    (h : readDeclarations stop declared tokens = .error e) :
    ∃ (file : List WrittenDeclaration) (rest : List Token), tokens = fileTokens file ++ rest ∧
      (file.map WrittenDeclaration.name).Nodup ∧ (∀ d ∈ file, d.name ∉ declared) ∧
      readRequested stop ((file.map WrittenDeclaration.name).reverse ++ declared) rest =
        .error e := by
  fun_induction readDeclarations stop declared tokens with
  | case1 => cases h
  | case2 declared tokens _ error hrequested =>
      cases h
      exact ⟨[], tokens, rfl, List.nodup_nil, by simp, attachShorter_eq_error.1 hrequested⟩
  | case3 declared tokens _ declaration after hrequested error hmore ih =>
      cases h
      obtain ⟨d, htokens, rfl, -, hnew⟩ := readRequested_sound (attachShorter_eq_ok.1 hrequested)
      rw [d.declaration_name] at ih hmore
      obtain ⟨file, rest, hafter, hdistinct, hnames, hread⟩ := ih hmore
      obtain ⟨hdistinct, hnames⟩ := distinct_cons hnew hdistinct hnames
      refine ⟨d :: file, rest, ?_, hdistinct, hnames, by simpa using hread⟩
      rw [htokens, hafter, fileTokens, fileTokens, List.flatMap_cons, List.append_assoc]
  | case4 => cases h

/-- A name token with which a source declares a name for the second time. -/
def SecondType (tokens : List Token) (t : Token) : Prop :=
  ∃ (file : List WrittenDeclaration) (rest : List Token), tokens = fileTokens file ++ rest ∧
    (file.map WrittenDeclaration.name).Nodup ∧
    RepeatsType (file.map WrittenDeclaration.name) rest t

/-- A field with which a record of a source has a name for the second time. -/
def SecondField (record : String) (tokens : List Token) (field : WrittenField) : Prop :=
  ∃ (file : List WrittenDeclaration) (rest : List Token), tokens = fileTokens file ++ rest ∧
    RepeatsField record rest field

end Schema

/-! ### Messages -/

/-- What the message of a fault calls a token: its text between quotes.  Of an attribute it is the
text alone, since the quotes include the sign; and where a record should stand, the end of the
source is called in words. -/
def SchemaFault.naming (fault : SchemaFault) (t : Token) : String :=
  match fault with
  | unknownRequest _ => t.text
  | unknownFieldAttribute _ => t.text
  | notARecord _ => if t.kind = .eof then "end of file" else quoted t.text
  | _ => quoted t.text

theorem SchemaFault.message_naming {fault : SchemaFault} {t : Token}
    (htext : fault.found = t.text) (hkind : ∀ found, fault = .notARecord found → found = t) :
    ∃ before after, fault.message = before ++ fault.naming t ++ after := by
  cases fault with
  | notARecord found =>
      cases hkind found rfl
      exact ⟨_, "", String.append_empty.symm⟩
  | expected kinds found =>
      cases htext
      exact ⟨_, "", String.append_empty.symm⟩
  | expectedFieldName found =>
      cases htext
      exact ⟨_, "", String.append_empty.symm⟩
  | reservedField name =>
      cases htext
      exact ⟨_, _, rfl⟩
  | methodField name =>
      cases htext
      exact ⟨_, _, rfl⟩
  | notADeclaration found =>
      cases htext
      exact ⟨_, _, rfl⟩
  | unknownRequest name =>
      cases htext
      exact ⟨_, _, rfl⟩
  | unknownFieldAttribute name =>
      cases htext
      exact ⟨_, _, rfl⟩
  | reservedType name =>
      cases htext
      exact ⟨"", _, by rw [String.empty_append]; rfl⟩
  | importedType name =>
      cases htext
      exact ⟨"", _, by rw [String.empty_append]; rfl⟩
  | builtinType name =>
      cases htext
      exact ⟨"", _, by rw [String.empty_append]; rfl⟩
  | duplicateType name =>
      cases htext
      exact ⟨_, "", String.append_empty.symm⟩
  | duplicateField name record =>
      cases htext
      refine ⟨"Duplicate field ", " in record " ++ quoted record, ?_⟩
      rw [← String.append_assoc]
      rfl
  | openTypeArguments found =>
      cases htext
      exact ⟨_, "", String.append_empty.symm⟩

open Schema

/-- An error points at a token of a source: it gives the place of the token, its message names the
token after that place, and where the fault is a repeated name the token is the name of the second
occurrence. -/
structure SchemaError.PointsAt (e : SchemaError) (tokens : List Token) (t : Token) : Prop where
  position : e.position = t.position
  found : e.fault.found = t.text
  message : ∃ before after, e.message =
    t.position.describe ++ ": " ++ (before ++ e.fault.naming t ++ after)
  second_type : ∀ name, e.fault = .duplicateType name → SecondType tokens t
  second_field : ∀ name record, e.fault = .duplicateField name record →
    ∃ field, SecondField record tokens field ∧ field.name.val = t

/-- An error is about a repeated field that has an attribute, and is reported where it begins. -/
def SchemaError.AtAttribute (e : SchemaError) (tokens : List Token) : Prop :=
  ∃ record field, SecondField record tokens field ∧ field.marks ≠ [] ∧
    e = ⟨.duplicateField field.name.val.text record, field.start.position⟩

namespace Schema

variable {stop : Position} {tokens : List Token} {e : SchemaError} {t : Token}

theorem message_naming (hplace : e.position = t.position) (htext : e.fault.found = t.text)
    (hkind : ∀ found, e.fault = .notARecord found → found = t) :
    ∃ before after, e.message =
      t.position.describe ++ ": " ++ (before ++ e.fault.naming t ++ after) := by
  obtain ⟨before, after, hmessage⟩ := SchemaFault.message_naming htext hkind
  exact ⟨before, after, by rw [SchemaError.message, hplace, hmessage]⟩

/-- A fault of the token at hand points at that token. -/
theorem pointsAt_of_reportedAt (h : e.ReportedAt t) (hback : e.fault.looksBack = false) :
    e.PointsAt tokens t := by
  have hfound : e.fault.found = t.text := by
    rcases h.quotes with ⟨name, record, hfault⟩ | hfound
    · rw [hfault] at hback
      cases hback
    · exact hfound
  refine ⟨h.position, hfound, message_naming h.position hfound ?_, ?_, ?_⟩
  · intro found hfault
    rw [hfault] at hback
    cases hback
  · intro name hfault
    rw [hfault] at hback
    cases hback
  · intro name record hfault
    rw [hfault] at hback
    cases hback

theorem SecondType.mem (h : SecondType tokens t) : t ∈ tokens := by
  obtain ⟨file, rest, rfl, -, requests, word, rest', rfl, -⟩ := h
  simp

theorem SecondField.mem {record : String} {field : WrittenField}
    (h : SecondField record tokens field) : ∀ t ∈ field.tokens, t ∈ tokens := by
  obtain ⟨file, rest, rfl, requests, word, name, opening, earlier, rest', rfl, -⟩ := h
  intro t ht
  simp [ht]

theorem WrittenField.name_mem (field : WrittenField) : field.name.val ∈ field.tokens := by
  simp [WrittenField.tokens]

/-- The three kinds of fault that look back, over a whole source. -/
theorem readDeclarations_repeated (h : readDeclarations stop [] tokens = .error e)
    (hback : e.fault.looksBack = true) :
    NoRecord stop tokens e ∨
      (∃ t, SecondType tokens t ∧ e = ⟨.duplicateType t.text, t.position⟩) ∨
      ∃ record field, SecondField record tokens field ∧
        e = ⟨.duplicateField field.name.val.text record, field.start.position⟩ := by
  obtain ⟨file, rest, rfl, hdistinct, -, hread⟩ := readDeclarations_error_split h
  rw [List.append_nil] at hread
  rcases readRequested_repeated hread hback with ⟨before, left, rfl, he⟩ |
    ⟨t, ⟨requests, word, after, hrest, hkind, hdeclared⟩, he⟩ | ⟨record, field, hrepeats, he⟩
  · exact Or.inl ⟨fileTokens file ++ before, left, by rw [List.append_assoc], he⟩
  · refine Or.inr (Or.inl ⟨t, ⟨file, rest, rfl, hdistinct, requests, word, after, hrest, hkind,
      ?_⟩, he⟩)
    exact List.mem_reverse.1 hdeclared
  · exact Or.inr (Or.inr ⟨record, field, ⟨file, rest, rfl, hrepeats⟩, he⟩)

/-- An error points at a token unless it is about a repeated field with an attribute. -/
theorem pointsAt_of_not_atAttribute (h : readDeclarations stop [] tokens = .error e)
    (hplain : ¬ e.AtAttribute tokens) :
    ∃ t ∈ tokens ++ [TokenStream.eofAt stop], e.PointsAt tokens t := by
  cases hback : e.fault.looksBack with
  | false =>
      obtain ⟨t, ht, hreported⟩ := readDeclarations_error h
      exact ⟨t, ht, pointsAt_of_reportedAt hreported hback⟩
  | true =>
      rcases readDeclarations_repeated h hback with ⟨before, rest, rfl, rfl⟩ | ⟨t, ht, rfl⟩ |
        ⟨record, field, hfield, rfl⟩
      · refine ⟨currentToken stop rest, ?_, rfl, rfl, message_naming rfl rfl ?_, ?_, ?_⟩
        · rw [List.append_assoc]
          exact List.mem_append_right _ (currentToken_mem stop rest)
        · intro found hfault
          exact (SchemaFault.notARecord.inj hfault).symm
        · exact fun name hfault => nomatch hfault
        · exact fun name record hfault => nomatch hfault
      · refine ⟨t, List.mem_append_left _ ht.mem, rfl, rfl, message_naming rfl rfl ?_, ?_, ?_⟩
        · exact fun found hfault => nomatch hfault
        · exact fun _ _ => ht
        · exact fun name record hfault => nomatch hfault
      · have hstart : field.start = field.name.val := by
          by_contra hne
          refine hplain ⟨record, field, hfield, ?_, rfl⟩
          intro hmarks
          exact hne (by rw [WrittenField.start, hmarks])
        have hmem := hfield.mem _ field.name_mem
        refine ⟨field.name.val, List.mem_append_left _ hmem, by rw [hstart], rfl,
          message_naming (by rw [hstart]) rfl ?_, ?_, ?_⟩
        · exact fun found hfault => nomatch hfault
        · exact fun name hfault => nomatch hfault
        · intro name other hfault
          obtain ⟨-, rfl⟩ := SchemaFault.duplicateField.inj hfault
          exact ⟨field, hfield, rfl⟩

/-- An attribute is no name, so the error of a repeated field with one points at no name. -/
theorem not_pointsAt_of_atAttribute {source : String} {stream : TokenStream}
    (hscan : Token.scan source = .ok stream) (h : e.AtAttribute stream.tokens) :
    ¬ ∃ t ∈ stream.toList, e.PointsAt stream.tokens t := by
  rintro ⟨t, ht, hpoints⟩
  obtain ⟨record, field, hfield, hmarks, rfl⟩ := h
  obtain ⟨named, -, rfl⟩ := hpoints.second_field _ _ rfl
  obtain ⟨mark, marks, hcons⟩ := List.exists_cons_of_ne_nil hmarks
  have hstart : field.start = mark.1.val := by rw [WrittenField.start, hcons]
  have hmem : field.start ∈ stream.toList := by
    obtain ⟨rest, htokens⟩ := field.tokens_eq_cons
    exact List.mem_append_left _ (hfield.mem _ (by rw [htokens]; exact List.mem_cons_self))
  have hsame : field.start = named.name.val :=
    Token.eq_of_position hscan hmem ht hpoints.position
  have hsign : named.name.val.kind = .atSign := by
    rw [← hsame, hstart]
    exact List.mem_singleton.1 mark.1.property
  exact absurd hsign (ne_of_mem_of_not_mem named.name.property (by decide))

/-- Errors point at what they complain about.  An error is reported at the place of a token of the
source; and it points at a token, quotes that one, and for a repeated name the name of the second
occurrence, exactly if it is not about a repeated field that has an attribute. -/
theorem parse_points_iff {source : String} {stream : TokenStream} {e : SchemaError}
    (hscan : Token.scan source = .ok stream) (h : parse source = .error (.malformed e)) :
    (∃ t ∈ stream.toList, e.position = t.position) ∧
      ((∃ t ∈ stream.toList, e.PointsAt stream.tokens t) ↔ ¬ e.AtAttribute stream.tokens) := by
  have hread : readDeclarations stream.stop [] stream.tokens = .error e := by
    rcases parse_eq_error_iff.1 h with ⟨cause, -, hcause⟩ | ⟨stream', e', hscan', hread, he⟩
    · cases hcause
    · cases he
      rw [hscan] at hscan'
      cases hscan'
      exact map_eq_error.1 hread
  obtain ⟨t, ht, hreported⟩ := readDeclarations_error hread
  refine ⟨⟨t, ht, hreported.position⟩, ?_, pointsAt_of_not_atAttribute hread⟩
  intro hpoints hattribute
  exact not_pointsAt_of_atAttribute hscan hattribute hpoints

/-- A name of a type that is declared again, after a mirror request and on a line of its own. -/
theorem parse_points_iff_again :
    let source := "enum Pen \x7b \x7d\n@mirror record\n  Pen \x7b \x7d"
    parse source = .error (.malformed ⟨.duplicateType "Pen", ⟨3, 3⟩⟩) ∧
      ∃ stream, Token.scan source = .ok stream ∧ ∃ t ∈ stream.toList,
        SchemaError.PointsAt ⟨.duplicateType "Pen", ⟨3, 3⟩⟩ stream.tokens t := by
  intro source
  have hparse : parse source = .error (.malformed ⟨.duplicateType "Pen", ⟨3, 3⟩⟩) := by
    decide +kernel
  have hlexemes : (Token.scan source).map TokenStream.lexemes =
      .ok [(.enum, "enum"), (.identifier, "Pen"), (.leftBrace, "\x7b"), (.rightBrace, "\x7d"),
        (.atSign, "@"), (.identifier, "mirror"), (.record, "record"), (.identifier, "Pen"),
        (.leftBrace, "\x7b"), (.rightBrace, "\x7d")] := by decide +kernel
  obtain ⟨stream, hscan, -⟩ := map_eq_ok.1 hlexemes
  refine ⟨hparse, stream, hscan, (parse_points_iff hscan hparse).2.2 ?_⟩
  rintro ⟨record, field, -, -, he⟩
  cases he

/-- A repeated field with an attribute: the error names `x`, the token at its place is the sign of
the attribute, and the second `x` stands behind it. -/
theorem parse_points_elsewhere :
    let source := "record A \x7b @persisted x: Int @persisted x: Int \x7d"
    ∃ stream e, Token.scan source = .ok stream ∧ parse source = .error (.malformed e) ∧
      e.message = "Line 1, column 30: Duplicate field 'x' in record 'A'" ∧
      (∃ t ∈ stream.toList, t.text = "x" ∧ t.position = ⟨1, 41⟩) ∧
      (∀ t ∈ stream.toList, t.position = e.position → t.text = "@") ∧
      ¬ ∃ t ∈ stream.toList, e.PointsAt stream.tokens t := by
  intro source
  have hparse : parse source = .error (.malformed ⟨.duplicateField "x" "A", ⟨1, 30⟩⟩) := by
    decide +kernel
  have htokens : (Token.scan source).map (fun stream => stream.toList.filter fun t =>
      t.position ∈ [(⟨1, 30⟩ : Position), ⟨1, 41⟩]) =
        .ok [⟨.atSign, "@", ⟨1, 30⟩⟩, ⟨.identifier, "x", ⟨1, 41⟩⟩] := by decide +kernel
  obtain ⟨stream, hscan, hplaces⟩ := map_eq_ok.1 htokens
  have hsign : ∀ t ∈ stream.toList, t.position = ⟨1, 30⟩ → t.text = "@" := by
    intro t ht hplace
    have hmem : t ∈ stream.toList.filter fun t =>
        t.position ∈ [(⟨1, 30⟩ : Position), ⟨1, 41⟩] :=
      List.mem_filter.2 ⟨ht, by simp [hplace]⟩
    rw [hplaces] at hmem
    simp only [List.mem_cons, List.not_mem_nil, or_false] at hmem
    rcases hmem with rfl | rfl
    · rfl
    · cases hplace
  refine ⟨stream, _, hscan, hparse, by decide +kernel, ?_, hsign, ?_⟩
  · have hname : (⟨.identifier, "x", ⟨1, 41⟩⟩ : Token) ∈
        stream.toList.filter fun t => t.position ∈ [(⟨1, 30⟩ : Position), ⟨1, 41⟩] := by
      rw [hplaces]
      simp
    exact ⟨_, List.mem_of_mem_filter hname, rfl, rfl⟩
  · rintro ⟨t, ht, hpoints⟩
    have hfound : "x" = t.text := hpoints.found
    rw [hsign t ht hpoints.position.symm] at hfound
    exact absurd hfound (by decide)

end Schema

end RecordMirror
