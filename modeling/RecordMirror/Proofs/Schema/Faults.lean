import RecordMirror.Proofs.Schema.Reading
/-!
Where the faults of a schema are reported.  A reader looks at the tokens that are left to it and at
nothing behind them, so every error is reported at one of them, or at the end of the source, and it
quotes the token it is reported at.
-/

namespace RecordMirror

/-- The text of the source that a fault quotes. -/
def SchemaFault.found : SchemaFault → String
  | expected _ found => found
  | expectedFieldName found => found
  | reservedField name => name
  | methodField name => name
  | notARecord found => found.text
  | notADeclaration found => found
  | unknownRequest name => name
  | unknownFieldAttribute name => name
  | reservedType name => name
  | importedType name => name
  | builtinType name => name
  | duplicateType name => name
  | duplicateField name _ => name
  | openTypeArguments found => found

/-- An error is reported at a token: it names the place of the token and quotes its text.  Only a
repeated field is reported at the token the field begins with, which need not be its name. -/
structure SchemaError.ReportedAt (e : SchemaError) (t : Token) : Prop where
  position : e.position = t.position
  quotes : (∃ name record, e.fault = .duplicateField name record) ∨ e.fault.found = t.text

namespace Schema

variable {stop : Position} {kinds : List TokenKind} {tokens left : List Token} {e : SchemaError}

/-- An error is reported at one of some tokens, or at the end of the source. -/
def FaultIn (stop : Position) (tokens : List Token) (e : SchemaError) : Prop :=
  ∃ t ∈ tokens ++ [TokenStream.eofAt stop], e.ReportedAt t

theorem FaultIn.of_suffix (h : FaultIn stop left e) (hleft : left <:+ tokens) :
    FaultIn stop tokens e := by
  obtain ⟨t, ht, hreported⟩ := h
  refine ⟨t, ?_, hreported⟩
  rcases List.mem_append.1 ht with hmem | hend
  · exact List.mem_append_left _ (hleft.subset hmem)
  · exact List.mem_append_right _ hend

theorem currentToken_mem (stop : Position) (tokens : List Token) :
    currentToken stop tokens ∈ tokens ++ [TokenStream.eofAt stop] := by
  cases tokens with
  | nil => exact List.mem_singleton_self _
  | cons t rest => exact List.mem_cons_self

/-- Most faults are found at the token a reader looks at. -/
theorem faultIn_current {fault : SchemaFault}
    (hfound : fault.found = (currentToken stop tokens).text) :
    FaultIn stop tokens ⟨fault, (currentToken stop tokens).position⟩ :=
  ⟨currentToken stop tokens, currentToken_mem stop tokens, rfl, Or.inr hfound⟩

theorem Passes.suffix (h : Passes tokens left) : left <:+ tokens := by
  obtain ⟨read, rfl, -⟩ := h
  exact List.suffix_append read left

theorem expect_suffix {t : Token} (h : expect stop kinds tokens = .ok (t, left)) :
    left <:+ tokens := by
  obtain ⟨rfl, -⟩ := expect_ok h
  exact List.suffix_cons t left

theorem expect_error (h : expect stop kinds tokens = .error e) : FaultIn stop tokens e := by
  unfold expect at h
  split at h
  · cases h
    exact faultIn_current rfl
  · split at h
    · cases h
    · cases h
      exact faultIn_current rfl

/-! ### Declared types -/

theorem readGroup_error {depth : Nat} (h : readGroup stop depth tokens = .error e) :
    FaultIn stop tokens e := by
  induction tokens generalizing depth with
  | nil =>
      have hend : e = ⟨.openTypeArguments "", stop⟩ := by
        cases depth <;> exact (Except.error.inj h).symm
      rw [hend]
      exact faultIn_current rfl
  | cons t rest ih =>
      have hrest := List.suffix_cons t rest
      simp only [readGroup] at h
      split at h
      · cases h
      · exact (ih (map_eq_error.1 h)).of_suffix hrest
      · exact (ih (map_eq_error.1 h)).of_suffix hrest
      · exact (ih (map_eq_error.1 h)).of_suffix hrest
      · exact (ih (map_eq_error.1 h)).of_suffix hrest
      · exact (ih (map_eq_error.1 h)).of_suffix hrest
      · cases h
        exact faultIn_current rfl

theorem readOptionalGroup_error (h : readOptionalGroup stop tokens = .error e) :
    FaultIn stop tokens e := by
  unfold readOptionalGroup at h
  split at h
  · cases h
  · split at h
    · exact (readGroup_error (map_eq_error.1 h)).of_suffix (List.suffix_cons _ _)
    · cases h

theorem readTypeTokens_error (h : readTypeTokens stop tokens = .error e) :
    FaultIn stop tokens e := by
  rcases bind_eq_error.1 h with h | ⟨⟨name, rest⟩, hname, h⟩
  · exact expect_error h
  rcases bind_eq_error.1 h with h | ⟨group, hgroup, h⟩
  · exact (readOptionalGroup_error h).of_suffix (expect_suffix hname)
  · cases h

/-! ### Fields -/

theorem readPersisted_error {persisted : Bool}
    (h : readPersisted stop persisted tokens = .error e) :
    FaultIn stop tokens e := by
  fun_induction readPersisted stop persisted tokens with
  | case1 persisted sign place position rest ih =>
      exact (ih h).of_suffix (List.suffix_append [_, _] rest)
  | case2 persisted sign place name position rest hname =>
      cases h
      exact ⟨⟨.identifier, name, position⟩, by simp, rfl, Or.inr rfl⟩
  | case3 persisted sign place rest =>
      cases h
      have hfault : FaultIn stop rest (unexpected stop rest [.identifier]) := faultIn_current rfl
      exact hfault.of_suffix (List.suffix_cons _ _)
  | case4 => cases h

theorem readFieldName_error (h : readFieldName stop tokens = .error e) : FaultIn stop tokens e := by
  simp only [readFieldName] at h
  split at h
  · cases h
    exact faultIn_current rfl
  split at h
  · cases h
    exact faultIn_current rfl
  split at h
  · cases h
    exact faultIn_current rfl
  · cases h

theorem readField_error (h : readField stop tokens = .error e) : FaultIn stop tokens e := by
  rcases bind_eq_error.1 h with h | ⟨⟨persisted, rest⟩, hpersisted, h⟩
  · exact readPersisted_error h
  have hmarks := (readPersisted_passes hpersisted).suffix
  rcases bind_eq_error.1 h with h | ⟨⟨name, rest'⟩, hname, h⟩
  · exact (readFieldName_error h).of_suffix hmarks
  have hhead := (readFieldName_passes hname).suffix.trans hmarks
  rcases bind_eq_error.1 h with h | ⟨⟨colon, inside⟩, hcolon, h⟩
  · exact (expect_error h).of_suffix hhead
  rcases bind_eq_error.1 h with h | ⟨type, htype, h⟩
  · exact (readTypeTokens_error h).of_suffix ((expect_suffix hcolon).trans hhead)
  · cases h

theorem readField_suffix {field : Field} (h : readField stop tokens = .ok (field, left)) :
    left <:+ tokens := by
  obtain ⟨written, rfl, -⟩ := readField_sound h
  exact List.suffix_append _ _

theorem readFields_error {record : String} {seen : List String}
    (h : readFields stop record seen tokens = .error e) : FaultIn stop tokens e := by
  fun_induction readFields stop record seen tokens with
  | case1 =>
      cases h
      exact faultIn_current rfl
  | case2 => cases h
  | case3 seen first rest hfirst error hfield =>
      cases h
      exact readField_error ((@attachShorter_eq_error _ _ _ _ _ readField_length _).1 hfield)
  | case4 seen first rest hfirst field after hfield hseen =>
      cases h
      exact ⟨first, List.mem_cons_self, rfl, Or.inl ⟨_, _, rfl⟩⟩
  | case5 seen first rest hfirst field after hfield hseen error hmore ih =>
      cases h
      have hread := (@attachShorter_eq_ok _ _ _ _ _ readField_length _ _).1 hfield
      exact (ih hmore).of_suffix (readField_suffix hread)
  | case6 => cases h

/-! ### Enumerations and mirror requests -/

theorem readValues_error (h : readValues stop tokens = .error e) : FaultIn stop tokens e := by
  fun_induction readValues stop tokens with
  | case1 =>
      cases h
      exact faultIn_current rfl
  | case2 => cases h
  | case3 first rest _ hfirst error hmore ih =>
      cases h
      exact (ih hmore).of_suffix (List.suffix_cons first rest)
  | case4 => cases h
  | case5 =>
      cases h
      exact faultIn_current rfl

theorem readMode_error (h : readMode stop tokens = .error e) : FaultIn stop tokens e := by
  unfold readMode at h
  split at h
  · have hopening := List.drop_suffix 1 tokens
    rcases bind_eq_error.1 h with h | ⟨⟨text, rest⟩, htext, h⟩
    · exact (expect_error h).of_suffix hopening
    rcases bind_eq_error.1 h with h | ⟨close, hclose, h⟩
    · exact (expect_error h).of_suffix ((expect_suffix htext).trans hopening)
    · cases h
  · cases h

theorem readRequest_error (h : readRequest stop tokens = .error e) : FaultIn stop tokens e := by
  rcases bind_eq_error.1 h with h | ⟨⟨sign, rest⟩, hsign, h⟩
  · exact expect_error h
  rcases bind_eq_error.1 h with h | ⟨⟨name, rest'⟩, hname, h⟩
  · exact (expect_error h).of_suffix (expect_suffix hsign)
  simp only at h
  split at h
  · cases h
    obtain ⟨rfl, -⟩ := expect_ok hsign
    obtain ⟨rfl, -⟩ := expect_ok hname
    exact ⟨name, by simp, rfl, Or.inr rfl⟩
  · rcases bind_eq_error.1 h with h | ⟨mode, hmode, h⟩
    · exact (readMode_error h).of_suffix ((expect_suffix hname).trans (expect_suffix hsign))
    · cases h

theorem readRequests_error (h : readRequests stop tokens = .error e) : FaultIn stop tokens e := by
  fun_induction readRequests stop tokens with
  | case1 tokens hsign error hrequest =>
      cases h
      exact readRequest_error (attachShorter_eq_error.1 hrequest)
  | case2 tokens hsign request rest hrequest error hmore ih =>
      cases h
      have hread := (readRequest_passes (attachShorter_eq_ok.1 hrequest)).suffix
      exact (ih hmore).of_suffix hread
  | case3 => cases h
  | case4 => cases h

/-! ### Declarations -/

theorem checkTypeName_error {declared : List String} {name : Token}
    (h : checkTypeName declared name = .error e) : e.ReportedAt name := by
  simp only [checkTypeName] at h
  split at h
  · cases h
    exact ⟨rfl, Or.inr rfl⟩
  split at h
  · cases h
    exact ⟨rfl, Or.inr rfl⟩
  split at h
  · cases h
    exact ⟨rfl, Or.inr rfl⟩
  split at h
  · cases h
    exact ⟨rfl, Or.inr rfl⟩
  · cases h

theorem readTypeName_error {declared : List String}
    (h : readTypeName stop declared tokens = .error e) : FaultIn stop tokens e := by
  rcases bind_eq_error.1 h with h | ⟨⟨name, rest⟩, hname, h⟩
  · exact expect_error h
  rcases bind_eq_error.1 h with hcheck | ⟨⟨⟩, -, h⟩
  · obtain ⟨rfl, -⟩ := expect_ok hname
    exact ⟨name, List.mem_cons_self, checkTypeName_error hcheck⟩
  rcases bind_eq_error.1 h with h | ⟨brace, hbrace, h⟩
  · exact (expect_error h).of_suffix (expect_suffix hname)
  · cases h

theorem readDeclaration_error {declared : List String} {mirrors : List MirrorRequest}
    (h : readDeclaration stop declared mirrors tokens = .error e) : FaultIn stop tokens e := by
  have hword := List.drop_suffix 1 tokens
  simp only [readDeclaration] at h
  split at h
  · cases h
    exact faultIn_current rfl
  split at h
  · rcases bind_eq_error.1 h with h | ⟨⟨name, rest⟩, hname, h⟩
    · exact (readTypeName_error h).of_suffix hword
    rcases bind_eq_error.1 h with h | ⟨fields, hfields, h⟩
    · exact (readFields_error h).of_suffix ((readTypeName_passes hname).suffix.trans hword)
    · cases h
  · rcases bind_eq_error.1 h with h | ⟨⟨name, rest⟩, hname, h⟩
    · exact (readTypeName_error h).of_suffix hword
    rcases bind_eq_error.1 h with h | ⟨values, hvalues, h⟩
    · exact (readValues_error h).of_suffix ((readTypeName_passes hname).suffix.trans hword)
    · cases h
  · cases h
    exact faultIn_current rfl

theorem readRequested_error {declared : List String}
    (h : readRequested stop declared tokens = .error e) : FaultIn stop tokens e := by
  unfold readRequested at h
  split at h
  · rename_i hrequests
    cases h
    exact readRequests_error hrequests
  · rename_i hrequests
    exact (readDeclaration_error h).of_suffix (readRequests_passes hrequests).suffix

theorem readRequested_suffix {declared : List String} {declaration : Declaration}
    (h : readRequested stop declared tokens = .ok (declaration, left)) : left <:+ tokens := by
  obtain ⟨written, rfl, -⟩ := readRequested_sound h
  exact List.suffix_append _ _

theorem readDeclarations_error {declared : List String}
    (h : readDeclarations stop declared tokens = .error e) : FaultIn stop tokens e := by
  fun_induction readDeclarations stop declared tokens with
  | case1 => cases h
  | case2 declared tokens _ error hrequested =>
      cases h
      exact readRequested_error (attachShorter_eq_error.1 hrequested)
  | case3 declared tokens _ declaration rest hrequested error hmore ih =>
      cases h
      have hread := readRequested_suffix (attachShorter_eq_ok.1 hrequested)
      exact (ih hmore).of_suffix hread
  | case4 => cases h

/-- A source is refused where no token can be read, or for a fault at one of its tokens. -/
theorem parse_error {source : String} {error : SourceError} (h : parse source = .error error) :
    (∃ cause, Token.scan source = .error cause ∧ error = .unscannable cause) ∨
      ∃ stream e, Token.scan source = .ok stream ∧ error = .malformed e ∧
        ∃ t ∈ stream.toList, e.ReportedAt t := by
  rcases parse_eq_error_iff.1 h with ⟨cause, hscan, rfl⟩ | ⟨stream, e, hscan, hread, rfl⟩
  · exact Or.inl ⟨cause, hscan, rfl⟩
  · exact Or.inr ⟨stream, e, hscan, rfl, readDeclarations_error (map_eq_error.1 hread)⟩

end Schema

end RecordMirror
