import RecordMirror.Proofs.Schema.Capture
import RecordMirror.Proofs.Schema.Derivation
/-!
Reading schemas against their grammar.  What each reader gives has a tree that derives the tokens
that were read, and the tokens of every tree whose names are free are read as what it writes.
-/

namespace RecordMirror.Schema

variable {stop : Position} {kinds : List TokenKind} {tokens left : List Token}

theorem currentToken_kind (stop : Position) (tokens : List Token) :
    (currentToken stop tokens).kind = headKind tokens := by
  cases tokens <;> rfl

theorem expect_token (t : TokenOf kinds) :
    expect stop kinds (t.val :: left) = .ok (t.val, left) := by
  have hkind := t.property
  simp [expect, hkind]

/-! ### Declared types -/

/-- Tokens that close all open brackets, `depth` and one more, and only with the last of them. -/
structure ClosesAfter (depth : Nat) (tokens : List Token) : Prop where
  kinds : TypeTokens tokens
  balanced : bracketBalance tokens = -(depth + 1)
  stays_open : ∀ read more, tokens = read ++ more → more ≠ [] →
    -(depth + 1 : Int) < bracketBalance read

theorem not_closesAfter_nil {depth : Nat} : ¬ ClosesAfter depth [] := by
  intro h
  have hbalanced := h.balanced
  rw [bracketBalance_nil] at hbalanced
  omega

theorem closesAfter_singleton {t : Token} (ht : t.kind = .rightAngle) : ClosesAfter 0 [t] where
  kinds := TypeTokens.cons (by simp [ht, typeKinds]) (by simp [TypeTokens])
  balanced := by simp [bracketTurn, ht]
  stays_open := by
    intro read more hsplit hmore
    have hread : read = [] := by
      rcases List.append_eq_singleton_iff.1 hsplit.symm with ⟨h, -⟩ | ⟨-, h⟩
      · exact h
      · exact absurd h hmore
    simp [hread]

theorem ClosesAfter.cons {depth next : Nat} {t : Token} (ht : t.kind ∈ typeKinds)
    (hnext : (next : Int) = depth + bracketTurn t) (h : ClosesAfter next tokens) :
    ClosesAfter depth (t :: tokens) where
  kinds := .cons ht h.kinds
  balanced := by
    rw [bracketBalance_cons, h.balanced]
    omega
  stays_open := by
    intro read more hsplit hmore
    rcases List.cons_eq_append_iff.1 hsplit with ⟨rfl, -⟩ | ⟨read, rfl, hread⟩
    · rw [bracketBalance_nil]
      omega
    · have hopen := h.stays_open read more hread hmore
      rw [bracketBalance_cons]
      omega

/-- After its first token a group is closed, or goes on with the brackets that are then open. -/
theorem ClosesAfter.of_cons {depth : Nat} {t : Token} (h : ClosesAfter depth (t :: tokens)) :
    (t.kind = .rightAngle ∧ depth = 0 ∧ tokens = []) ∨
      ∃ next : Nat, (next : Int) = depth + bracketTurn t ∧ ClosesAfter next tokens := by
  have hbalanced := h.balanced
  rw [bracketBalance_cons] at hbalanced
  by_cases hnil : tokens = []
  · subst hnil
    rw [bracketBalance_nil] at hbalanced
    by_cases hclose : t.kind = .rightAngle
    · simp only [bracketTurn, hclose] at hbalanced
      exact Or.inl ⟨hclose, by omega, rfl⟩
    · have hturn : 0 ≤ bracketTurn t := by
        unfold bracketTurn
        split <;> first | decide | contradiction
      omega
  · have hturn := h.stays_open [t] tokens rfl hnil
    rw [bracketBalance_cons, bracketBalance_nil] at hturn
    refine Or.inr ⟨(depth + bracketTurn t).toNat, by omega, ?_, by omega, ?_⟩
    · exact fun u hu => h.kinds u (List.mem_cons_of_mem _ hu)
    · intro read more hsplit hmore
      have hopen := h.stays_open (t :: read) more (by rw [hsplit]; rfl) hmore
      rw [bracketBalance_cons] at hopen
      omega

theorem readGroup_sound {depth : Nat} {group : List Token}
    (h : readGroup stop depth tokens = .ok (group, left)) : ClosesAfter depth group := by
  induction tokens generalizing depth group with
  | nil => cases depth <;> cases h
  | cons t rest ih =>
      have more : ∀ {next : Nat}, t.kind ∈ typeKinds → (next : Int) = depth + bracketTurn t →
          ((readGroup stop next rest).map fun read => (t :: read.1, read.2)) =
            .ok (group, left) → ClosesAfter depth group := by
        intro next ht hnext hmore
        obtain ⟨⟨inner, after⟩, hinner, hparts⟩ := map_eq_ok.1 hmore
        cases hparts
        exact (ih hinner).cons ht hnext
      simp only [readGroup] at h
      split at h
      · rename_i hkind
        cases h
        exact closesAfter_singleton hkind
      · rename_i hkind
        refine more (by simp [hkind, typeKinds]) ?_ h
        simp only [bracketTurn, hkind]
        omega
      · rename_i hkind
        exact more (by simp [hkind, typeKinds]) (by simp [bracketTurn, hkind]) h
      · rename_i hkind
        exact more (by simp [hkind, typeKinds]) (by simp [bracketTurn, hkind]) h
      · rename_i hkind
        exact more (by simp [hkind, typeKinds]) (by simp [bracketTurn, hkind]) h
      · rename_i hkind
        exact more (by simp [hkind, typeKinds]) (by simp [bracketTurn, hkind]) h
      · cases h

theorem readGroup_append {depth : Nat} {group : List Token} (h : ClosesAfter depth group) :
    readGroup stop depth (group ++ left) = .ok (group, left) := by
  induction group generalizing depth with
  | nil => exact absurd h not_closesAfter_nil
  | cons t rest ih =>
      have hkind := h.kinds t List.mem_cons_self
      obtain ⟨kind, text, position⟩ := t
      rcases h.of_cons with ⟨hclose, rfl, rfl⟩ | ⟨next, hnext, hrest⟩
      · cases (show kind = .rightAngle from hclose)
        rfl
      · have hinner := ih hrest
        simp only [typeKinds, List.mem_cons, List.not_mem_nil, or_false] at hkind
        rcases hkind with rfl | rfl | rfl | rfl | rfl
        · obtain rfl : next = depth := by
            simp only [bracketTurn] at hnext
            omega
          simp [readGroup, hinner, Except.map]
        · obtain rfl : next = depth + 1 := by
            simp only [bracketTurn] at hnext
            omega
          simp [readGroup, hinner, Except.map]
        · obtain rfl : depth = next + 1 := by
            simp only [bracketTurn] at hnext
            omega
          simp [readGroup, hinner, Except.map]
        · obtain rfl : next = depth := by
            simp only [bracketTurn] at hnext
            omega
          simp [readGroup, hinner, Except.map]
        · obtain rfl : next = depth := by
            simp only [bracketTurn] at hnext
            omega
          simp [readGroup, hinner, Except.map]

theorem exists_bracketGroup {t : Token} {inside : List Token} (ht : t.kind = .leftAngle)
    (h : ClosesAfter 0 inside) : ∃ group : BracketGroup, group.tokens = t :: inside := by
  have hturn : bracketTurn t = 1 := by simp [bracketTurn, ht]
  have hbalanced : bracketBalance (t :: inside) = 0 := by
    rw [bracketBalance_cons, hturn, h.balanced]
    rfl
  refine ⟨⟨t :: inside, .cons (by simp [ht, typeKinds]) h.kinds, ht, hbalanced, ?_⟩, rfl⟩
  intro read more hsplit hread hmore
  rcases List.cons_eq_append_iff.1 hsplit with ⟨rfl, -⟩ | ⟨read, rfl, hinside⟩
  · exact absurd rfl hread
  · have hopen := h.stays_open read more hinside hmore
    rw [bracketBalance_cons, hturn]
    omega

theorem BracketGroup.exists_closesAfter (group : BracketGroup) :
    ∃ t inside, group.tokens = t :: inside ∧ t.kind = .leftAngle ∧ ClosesAfter 0 inside := by
  obtain ⟨tokens, kinds, opens, balanced, stays_open⟩ := group
  cases tokens with
  | nil => cases opens
  | cons t inside =>
      have hturn : bracketTurn t = 1 := by simp [bracketTurn, show t.kind = .leftAngle from opens]
      rw [bracketBalance_cons, hturn] at balanced
      refine ⟨t, inside, rfl, opens, ?_, by omega, ?_⟩
      · exact fun u hu => kinds u (List.mem_cons_of_mem _ hu)
      · intro read more hsplit hmore
        have hopen := stays_open (t :: read) more (by rw [hsplit]; rfl) (List.cons_ne_nil _ _) hmore
        rw [bracketBalance_cons, hturn] at hopen
        omega

theorem readOptionalGroup_sound {read : List Token}
    (h : readOptionalGroup stop tokens = .ok (read, left)) :
    ∃ group : Option BracketGroup, group.elim [] BracketGroup.tokens = read := by
  unfold readOptionalGroup at h
  split at h
  · cases h
    exact ⟨none, rfl⟩
  · split at h
    · rename_i hopening
      obtain ⟨⟨inside, after⟩, hinside, hparts⟩ := map_eq_ok.1 h
      cases hparts
      obtain ⟨group, hgroup⟩ := exists_bracketGroup hopening (readGroup_sound hinside)
      exact ⟨some group, hgroup⟩
    · cases h
      exact ⟨none, rfl⟩

theorem readOptionalGroup_append (group : BracketGroup) :
    readOptionalGroup stop (group.tokens ++ left) = .ok (group.tokens, left) := by
  obtain ⟨t, inside, hgroup, ht, hinside⟩ := group.exists_closesAfter
  rw [hgroup, List.cons_append, readOptionalGroup, if_pos ht, readGroup_append hinside]
  rfl

theorem readOptionalGroup_of_ne (h : headKind tokens ≠ .leftAngle) :
    readOptionalGroup stop tokens = .ok ([], tokens) := by
  cases tokens with
  | nil => rfl
  | cons t rest =>
      have ht : ¬ t.kind = .leftAngle := h
      rw [readOptionalGroup, if_neg ht]

theorem exists_tokens_val (h : ∀ t ∈ tokens, t.kind ∈ kinds) :
    ∃ items : List (TokenOf kinds), (items.flatMap fun t => [t.val]) = tokens := by
  induction tokens with
  | nil => exact ⟨[], rfl⟩
  | cons t rest ih =>
      obtain ⟨items, hitems⟩ := ih fun u hu => h u (List.mem_cons_of_mem _ hu)
      exact ⟨⟨t, h t List.mem_cons_self⟩ :: items, by rw [List.flatMap_cons, hitems]; rfl⟩

theorem readTypeTokens_sound {read : List Token}
    (h : readTypeTokens stop tokens = .ok (read, left)) :
    ∃ type : WrittenType, type.tokens = read := by
  obtain ⟨⟨name, rest⟩, hname, h⟩ := bind_eq_ok.1 h
  obtain ⟨⟨read', rest'⟩, hgroup, h⟩ := bind_eq_ok.1 h
  cases h
  obtain ⟨group, hgroup⟩ := readOptionalGroup_sound hgroup
  have hmarks : ∀ t ∈ rest'.takeWhile isMark, t.kind ∈ [TokenKind.question] := by
    intro t ht
    simpa [isMark] using List.mem_takeWhile_imp ht
  obtain ⟨marks, hmarks⟩ := exists_tokens_val hmarks
  refine ⟨⟨⟨name, (expect_ok hname).2⟩, group, marks⟩, ?_⟩
  simp only [WrittenType.tokens, WrittenType.groupTokens, hgroup, hmarks]

theorem takeWhile_isMark_append (marks : List (TokenOf [.question]))
    (hleft : headKind left ≠ .question) :
    ((marks.flatMap fun mark => [mark.val]) ++ left).takeWhile isMark =
        (marks.flatMap fun mark => [mark.val]) ∧
      ((marks.flatMap fun mark => [mark.val]) ++ left).dropWhile isMark = left := by
  have hmarks : ∀ t ∈ (marks.flatMap fun mark => [mark.val]), isMark t = true := by
    intro t ht
    obtain ⟨mark, -, hmark⟩ := List.mem_flatMap.1 ht
    rw [List.mem_singleton.1 hmark]
    simpa [isMark] using mark.property
  have hend : left.takeWhile isMark = [] ∧ left.dropWhile isMark = left := by
    cases left with
    | nil => exact ⟨rfl, rfl⟩
    | cons t rest =>
        have ht : isMark t = false := decide_eq_false hleft
        simp [ht]
  rw [List.takeWhile_append_of_pos hmarks, List.dropWhile_append_of_pos hmarks, hend.1, hend.2]
  exact ⟨List.append_nil _, rfl⟩

theorem readTypeTokens_append (type : WrittenType) (hleft : headKind left ∈ fieldFollows) :
    readTypeTokens stop (type.tokens ++ left) = .ok (type.tokens, left) := by
  have hquestion : headKind left ≠ .question := ne_of_mem_of_not_mem hleft (by decide)
  obtain ⟨name, group, marks⟩ := type
  obtain ⟨htake, hdrop⟩ := takeWhile_isMark_append marks hquestion
  have hgroup : readOptionalGroup stop
      (group.elim [] BracketGroup.tokens ++ ((marks.flatMap fun mark => [mark.val]) ++ left)) =
        .ok (group.elim [] BracketGroup.tokens,
          (marks.flatMap fun mark => [mark.val]) ++ left) := by
    cases group with
    | some group => exact readOptionalGroup_append group
    | none =>
        have hmarks := headKind_marks_append marks hleft
        exact readOptionalGroup_of_ne (ne_of_mem_of_not_mem hmarks (by decide))
  simp only [WrittenType.tokens, WrittenType.groupTokens, List.cons_append, List.append_assoc,
    readTypeTokens, expect_token, hgroup, bind, Except.bind, htake, hdrop]
  rfl

/-! ### Fields -/

theorem isReserved_iff {word : String} : isReserved word = true ↔ word ∈ reservedWords :=
  List.contains_iff_mem

theorem readPersisted_sound {persisted result : Bool}
    (h : readPersisted stop persisted tokens = .ok (result, left)) :
    ∃ marks : List (TokenOf [.atSign] × WordToken "persisted"),
      tokens = (marks.flatMap fun mark => [mark.1.val, mark.2.val]) ++ left ∧
        result = (persisted || !marks.isEmpty) := by
  fun_induction readPersisted stop persisted tokens with
  | case1 persisted sign place position rest ih =>
      obtain ⟨marks, rfl, hresult⟩ := ih h
      refine ⟨(⟨⟨.atSign, sign, place⟩, by simp⟩,
        ⟨⟨.identifier, "persisted", position⟩, rfl, rfl⟩) :: marks, rfl, ?_⟩
      rw [hresult]
      simp
  | case2 => cases h
  | case3 => cases h
  | case4 =>
      cases h
      exact ⟨[], rfl, by simp⟩

theorem readPersisted_append (marks : List (TokenOf [.atSign] × WordToken "persisted"))
    (hleft : headKind left ≠ .atSign) (persisted : Bool) :
    readPersisted stop persisted
        ((marks.flatMap fun mark => [mark.1.val, mark.2.val]) ++ left) =
      .ok (persisted || !marks.isEmpty, left) := by
  induction marks generalizing persisted with
  | nil =>
      rw [List.flatMap_nil, List.nil_append, readPersisted]
      · simp
      · rintro sign place name position rest rfl
        exact hleft rfl
      · rintro sign place rest rfl
        exact hleft rfl
  | cons mark marks ih =>
      obtain ⟨⟨⟨kind, sign, place⟩, hsign⟩, ⟨⟨kind', name, position⟩, hname⟩⟩ := mark
      obtain rfl : kind = .atSign := List.mem_singleton.1 hsign
      obtain ⟨rfl, rfl⟩ : kind' = .identifier ∧ name = "persisted" := hname
      rw [List.flatMap_cons, List.append_assoc, List.cons_append, List.cons_append, List.nil_append,
        readPersisted, if_pos rfl, ih]
      simp

theorem readFieldName_sound {name : String} (h : readFieldName stop tokens = .ok (name, left)) :
    ∃ t : TokenOf [.identifier, .record, .enum],
      tokens = t.val :: left ∧ t.val.text = name ∧ FreeFieldName name := by
  simp only [readFieldName] at h
  split at h
  · cases h
  rename_i hkind
  split at h
  · cases h
  rename_i hreserved
  split at h
  · cases h
  rename_i hmethod
  cases h
  rw [not_not] at hkind
  cases tokens with
  | nil => exact absurd hkind (by simp [currentToken, TokenStream.eofAt])
  | cons t rest =>
      refine ⟨⟨t, hkind⟩, rfl, rfl, ?_, hmethod⟩
      rwa [← isReserved_iff]

theorem readFieldName_token (t : TokenOf [.identifier, .record, .enum])
    (hfree : FreeFieldName t.val.text) :
    readFieldName stop (t.val :: left) = .ok (t.val.text, left) := by
  have hfound : currentToken stop (t.val :: left) = t.val := rfl
  have hreserved : ¬ isReserved t.val.text = true := by
    rw [isReserved_iff]
    exact hfree.not_reserved
  simp only [readFieldName, hfound]
  rw [if_neg (not_not.2 t.property), if_neg hreserved, if_neg hfree.not_method]
  rfl

/-- What is read as a field is written as one, and its name is free. -/
theorem readField_sound {field : Field} (h : readField stop tokens = .ok (field, left)) :
    ∃ written : WrittenField, tokens = written.tokens ++ left ∧ written.field = field ∧
      FreeFieldName field.name := by
  obtain ⟨⟨persisted, rest⟩, hpersisted, h⟩ := bind_eq_ok.1 h
  obtain ⟨⟨name, rest'⟩, hname, h⟩ := bind_eq_ok.1 h
  obtain ⟨⟨colon, inside⟩, hcolon, h⟩ := bind_eq_ok.1 h
  obtain ⟨⟨read, after⟩, htype, h⟩ := bind_eq_ok.1 h
  cases h
  obtain ⟨marks, rfl, hmarks⟩ := readPersisted_sound hpersisted
  obtain ⟨t, rfl, rfl, hfree⟩ := readFieldName_sound hname
  obtain ⟨rfl, hkind⟩ := expect_ok hcolon
  obtain ⟨rfl, -⟩ := readTypeTokens_ok htype
  obtain ⟨type, rfl⟩ := readTypeTokens_sound htype
  refine ⟨⟨marks, t, ⟨colon, hkind⟩, type⟩, ?_, ?_, hfree⟩
  · simp [WrittenField.tokens]
  · simp [WrittenField.field, hmarks]

theorem readField_append (field : WrittenField) (hfree : FreeFieldName field.name.val.text)
    (hleft : headKind left ∈ fieldFollows) :
    readField stop (field.tokens ++ left) = .ok (field.field, left) := by
  obtain ⟨marks, name, colon, type⟩ := field
  have hname : ∀ rest, headKind (name.val :: rest) ≠ .atSign :=
    fun rest => ne_of_mem_of_not_mem (headKind_token name rest) (by decide)
  simp only [WrittenField.tokens, List.append_assoc, List.cons_append, readField,
    readPersisted_append marks (hname _), readFieldName_token name hfree, expect_token,
    readTypeTokens_append type hleft, bind, Except.bind, pure, Except.pure, Bool.false_or]
  rfl

/-- Names that are distinct and none of those seen stay so with the one that is seen next. -/
theorem distinct_cons {Item : Type} {name : Item → String} {first : Item} {items : List Item}
    {seen : List String} (hfirst : name first ∉ seen) (hdistinct : (items.map name).Nodup)
    (hnew : ∀ item ∈ items, name item ∉ name first :: seen) :
    ((first :: items).map name).Nodup ∧ ∀ item ∈ first :: items, name item ∉ seen := by
  constructor
  · rw [List.map_cons, List.nodup_cons]
    refine ⟨?_, hdistinct⟩
    intro hmem
    obtain ⟨item, hitem, hname⟩ := List.mem_map.1 hmem
    exact hnew item hitem (List.mem_cons.2 (Or.inl hname))
  · exact List.forall_mem_cons.2
      ⟨hfirst, fun item hitem hseen => hnew item hitem (List.mem_cons_of_mem _ hseen)⟩

/-- The fields of a record are written one after the other.  Their names are free, distinct, and
none of those seen before. -/
theorem readFields_sound {record : String} {seen : List String} {fields : List Field}
    (h : readFields stop record seen tokens = .ok (fields, left)) :
    ∃ (written : List WrittenField) (closing : TokenOf [.rightBrace]),
      tokens = written.flatMap WrittenField.tokens ++ closing.val :: left ∧
        written.map WrittenField.field = fields ∧
        (∀ field ∈ written, FreeFieldName field.name.val.text ∧ field.name.val.text ∉ seen) ∧
        (written.map (·.name.val.text)).Nodup := by
  fun_induction readFields stop record seen tokens generalizing fields with
  | case1 => cases h
  | case2 seen first rest hfirst =>
      cases h
      exact ⟨[], ⟨first, List.mem_singleton.2 hfirst⟩, rfl, rfl, by simp, List.nodup_nil⟩
  | case3 => cases h
  | case4 => cases h
  | case5 => cases h
  | case6 seen first rest hfirst field after hfield hseen others left' hmore ih =>
      cases h
      have hread := (@attachShorter_eq_ok _ _ _ _ _ readField_length _ _).1 hfield
      obtain ⟨written, htokens, rfl, hfree⟩ := readField_sound hread
      obtain ⟨more, closing, hafter, rfl, hnames, hdistinct⟩ := ih hmore
      obtain ⟨hdistinct, hnew⟩ := @distinct_cons WrittenField (·.name.val.text) written more seen
        hseen hdistinct fun field hfield => (hnames field hfield).2
      have hallFree : ∀ field ∈ written :: more, FreeFieldName field.name.val.text :=
        List.forall_mem_cons.2 ⟨hfree, fun field hfield => (hnames field hfield).1⟩
      refine ⟨written :: more, closing, ?_, rfl, ?_, hdistinct⟩
      · rw [htokens, hafter, List.flatMap_cons, List.append_assoc]
      · exact fun field hfield => ⟨hallFree field hfield, hnew field hfield⟩

/-- One round of the loop over fields. -/
theorem readFields_step {record : String} {seen : List String} {first : Token} {rest : List Token}
    (hopen : ¬ first.kind = .rightBrace) :
    readFields stop record seen (first :: rest) =
      match readField stop (first :: rest) with
      | .error e => .error e
      | .ok (field, left) =>
        if field.name ∈ seen then .error ⟨.duplicateField field.name record, first.position⟩
        else (readFields stop record (field.name :: seen) left).map fun read =>
          (field :: read.1, read.2) := by
  rw [readFields, if_neg hopen]
  rcases error_or_ok (readField stop (first :: rest)) with ⟨e, hread⟩ | ⟨⟨field, left⟩, hread⟩
  · simp only [(@attachShorter_eq_error _ _ _ _ _ readField_length _).2 hread]
    simp only [hread]
  · have hattach : attachShorter (readField stop (first :: rest)) readField_length =
        .ok (field, ⟨left, readField_length hread⟩) :=
      (@attachShorter_eq_ok _ _ _ _ _ readField_length _ _).2 hread
    simp only [hattach]
    simp only [hread]
    split
    · rfl
    · cases readFields stop record (field.name :: seen) left <;> rfl

/-- A field that is read is the first one of a record. -/
theorem readFields_cons {record : String} {seen : List String} {field : Field}
    {fields : List Field} {middle : List Token}
    (hopen : headKind tokens ≠ .rightBrace) (hread : readField stop tokens = .ok (field, middle))
    (hnew : field.name ∉ seen)
    (hmore : readFields stop record (field.name :: seen) middle = .ok (fields, left)) :
    readFields stop record seen tokens = .ok (field :: fields, left) := by
  cases tokens with
  | nil => exact absurd (readField_length hread) (Nat.not_lt_zero _)
  | cons first rest =>
      have hfirst : ¬ first.kind = .rightBrace := hopen
      rw [readFields_step hfirst, hread]
      simp only [if_neg hnew, hmore]
      rfl

theorem headKind_fields_append (fields : List WrittenField) (closing : TokenOf [.rightBrace]) :
    headKind (fields.flatMap WrittenField.tokens ++ closing.val :: left) ∈ fieldFollows := by
  cases fields with
  | nil =>
      change closing.val.kind ∈ fieldFollows
      rw [List.mem_singleton.1 closing.property]
      exact List.mem_cons_self
  | cons field fields =>
      rw [List.flatMap_cons, List.append_assoc]
      exact List.mem_cons_of_mem _ (field.headKind_append _)

theorem readFields_append {record : String} (written : List WrittenField)
    (closing : TokenOf [.rightBrace]) {seen : List String}
    (hnames : ∀ field ∈ written, FreeFieldName field.name.val.text ∧ field.name.val.text ∉ seen)
    (hdistinct : (written.map (·.name.val.text)).Nodup) :
    readFields stop record seen (written.flatMap WrittenField.tokens ++ closing.val :: left) =
      .ok (written.map WrittenField.field, left) := by
  induction written generalizing seen with
  | nil =>
      have hclose := List.mem_singleton.1 closing.property
      rw [List.flatMap_nil, List.nil_append, readFields, if_pos hclose]
      rfl
  | cons field others ih =>
      rw [List.map_cons, List.nodup_cons] at hdistinct
      obtain ⟨hfree, hnew⟩ := hnames field List.mem_cons_self
      have hseen : ∀ other ∈ others, FreeFieldName other.name.val.text ∧
          other.name.val.text ∉ field.name.val.text :: seen := by
        intro other hother
        obtain ⟨hfree, hnew⟩ := hnames other (List.mem_cons_of_mem _ hother)
        refine ⟨hfree, ?_⟩
        intro hmem
        rcases List.mem_cons.1 hmem with heq | hmem
        · exact hdistinct.1 (heq ▸ List.mem_map_of_mem hother)
        · exact hnew hmem
      rw [List.flatMap_cons, List.append_assoc]
      refine readFields_cons ?_ ?_ hnew (ih hseen hdistinct.2)
      · exact ne_of_mem_of_not_mem (field.headKind_append _) (by decide)
      · exact readField_append field hfree (headKind_fields_append others closing)

/-! ### Enumerations -/

theorem readValues_sound {values : List String}
    (h : readValues stop tokens = .ok (values, left)) :
    ∃ (written : List (TokenOf [.identifier])) (closing : TokenOf [.rightBrace]),
      tokens = (written.flatMap fun value => [value.val]) ++ closing.val :: left ∧
        written.map (·.val.text) = values := by
  fun_induction readValues stop tokens generalizing values with
  | case1 => cases h
  | case2 first rest hfirst =>
      cases h
      exact ⟨[], ⟨first, List.mem_singleton.2 hfirst⟩, rfl, rfl⟩
  | case3 => cases h
  | case4 first rest _ hfirst others left' hmore ih =>
      cases h
      obtain ⟨written, closing, rfl, rfl⟩ := ih hmore
      exact ⟨⟨first, List.mem_singleton.2 hfirst⟩ :: written, closing, rfl, rfl⟩
  | case5 => cases h

theorem readValues_append (written : List (TokenOf [.identifier]))
    (closing : TokenOf [.rightBrace]) :
    readValues stop ((written.flatMap fun value => [value.val]) ++ closing.val :: left) =
      .ok (written.map (·.val.text), left) := by
  induction written with
  | nil =>
      have hclose := List.mem_singleton.1 closing.property
      rw [List.flatMap_nil, List.nil_append, readValues, if_pos hclose]
      rfl
  | cons value others ih =>
      have hword := List.mem_singleton.1 value.property
      have hopen : ¬ value.val.kind = .rightBrace := by
        rw [hword]
        decide
      rw [List.flatMap_cons, List.append_assoc, List.cons_append, List.nil_append, readValues,
        if_neg hopen, if_pos hword, ih]
      rfl

/-! ### Mirror requests -/

theorem readMode_sound {mode : Option String} (h : readMode stop tokens = .ok (mode, left)) :
    ∃ written : Option WrittenMode, tokens = written.elim [] WrittenMode.tokens ++ left ∧
      written.map (·.mode.val.text) = mode := by
  unfold readMode at h
  split at h
  · rename_i hkind
    obtain ⟨⟨text, rest⟩, htext, h⟩ := bind_eq_ok.1 h
    obtain ⟨⟨close, rest'⟩, hclose, h⟩ := bind_eq_ok.1 h
    cases h
    cases tokens with
    | nil => cases hkind
    | cons first tokens =>
        obtain ⟨hrest, hmode⟩ := expect_ok htext
        obtain ⟨rfl, hclosing⟩ := expect_ok hclose
        refine ⟨some ⟨⟨first, List.mem_singleton.2 hkind⟩, ⟨text, hmode⟩, ⟨close, hclosing⟩⟩, ?_,
          rfl⟩
        exact congrArg (first :: ·) hrest
  · cases h
    exact ⟨none, rfl, rfl⟩

theorem readMode_append (mode : Option WrittenMode) (hleft : headKind left ≠ .leftParen) :
    readMode stop (mode.elim [] WrittenMode.tokens ++ left) =
      .ok (mode.map (·.mode.val.text), left) := by
  cases mode with
  | none =>
      change readMode stop left = .ok (none, left)
      rw [readMode, if_neg (by rwa [currentToken_kind])]
  | some mode =>
      obtain ⟨opening, mode, closing⟩ := mode
      have hopening : (currentToken stop (opening.val :: mode.val :: closing.val :: left)).kind =
          .leftParen := List.mem_singleton.1 opening.property
      change readMode stop (opening.val :: mode.val :: closing.val :: left) =
        .ok (some mode.val.text, left)
      rw [readMode, if_pos hopening, List.drop_one, List.tail_cons, expect_token]
      change (expect stop [.rightParen] (closing.val :: left) >>= _) = _
      rw [expect_token]
      rfl

theorem readRequest_sound {request : MirrorRequest}
    (h : readRequest stop tokens = .ok (request, left)) :
    ∃ written : WrittenRequest, tokens = written.tokens ++ left ∧ written.request = request := by
  obtain ⟨⟨sign, rest⟩, hsign, h⟩ := bind_eq_ok.1 h
  obtain ⟨⟨name, rest'⟩, hname, h⟩ := bind_eq_ok.1 h
  simp only at h
  split at h
  · cases h
  rename_i hword
  obtain ⟨⟨mode, rest''⟩, hmode, h⟩ := bind_eq_ok.1 h
  cases h
  obtain ⟨rfl, hat⟩ := expect_ok hsign
  obtain ⟨rfl, hidentifier⟩ := expect_ok hname
  obtain ⟨mode, rfl, rfl⟩ := readMode_sound hmode
  exact ⟨⟨⟨sign, hat⟩, ⟨name, List.mem_singleton.1 hidentifier, not_not.1 hword⟩, mode⟩, rfl, rfl⟩

theorem expect_word {word : String} (t : WordToken word) :
    expect stop [.identifier] (t.val :: left) = .ok (t.val, left) :=
  expect_token ⟨t.val, List.mem_singleton.2 t.property.1⟩

theorem readRequest_append (request : WrittenRequest) (hleft : headKind left ≠ .leftParen) :
    readRequest stop (request.tokens ++ left) = .ok (request.request, left) := by
  obtain ⟨sign, name, mode⟩ := request
  have hname : ¬ name.val.text ≠ "mirror" := not_not.2 name.property.2
  simp only [WrittenRequest.tokens, List.cons_append, readRequest, expect_token, expect_word, bind,
    Except.bind, if_neg hname, readMode_append mode hleft]
  rfl

theorem readRequests_sound {requests : List MirrorRequest}
    (h : readRequests stop tokens = .ok (requests, left)) :
    ∃ written : List WrittenRequest, tokens = written.flatMap WrittenRequest.tokens ++ left ∧
      written.map WrittenRequest.request = requests := by
  fun_induction readRequests stop tokens generalizing requests with
  | case1 => cases h
  | case2 => cases h
  | case3 tokens hsign request rest hrequest others left' hmore ih =>
      cases h
      obtain ⟨written, htokens, rfl⟩ := readRequest_sound (attachShorter_eq_ok.1 hrequest)
      obtain ⟨more, hrest, rfl⟩ := ih hmore
      refine ⟨written :: more, ?_, rfl⟩
      rw [htokens, hrest, List.flatMap_cons, List.append_assoc]
  | case4 =>
      cases h
      exact ⟨[], rfl, rfl⟩

/-- One round of the loop over requests. -/
theorem readRequests_step (hsign : (currentToken stop tokens).kind = .atSign) :
    readRequests stop tokens =
      match readRequest stop tokens with
      | .error e => .error e
      | .ok (request, left) =>
        (readRequests stop left).map fun read => (request :: read.1, read.2) := by
  rw [readRequests, if_pos hsign]
  rcases error_or_ok (readRequest stop tokens) with ⟨e, hread⟩ | ⟨⟨request, left⟩, hread⟩
  · simp only [attachShorter_eq_error.2 hread]
    simp only [hread]
  · have hattach : attachShorter (readRequest stop tokens) readRequest_length =
        .ok (request, ⟨left, readRequest_length hread⟩) := attachShorter_eq_ok.2 hread
    simp only [hattach]
    simp only [hread]
    cases readRequests stop left <;> rfl

theorem readRequests_cons {request : MirrorRequest} {requests : List MirrorRequest}
    {middle : List Token} (hsign : headKind tokens = .atSign)
    (hread : readRequest stop tokens = .ok (request, middle))
    (hmore : readRequests stop middle = .ok (requests, left)) :
    readRequests stop tokens = .ok (request :: requests, left) := by
  rw [readRequests_step (by rwa [currentToken_kind]), hread]
  simp only [hmore]
  rfl

theorem readRequests_append (written : List WrittenRequest)
    (hleft : headKind left ∈ [TokenKind.record, .enum]) :
    readRequests stop (written.flatMap WrittenRequest.tokens ++ left) =
      .ok (written.map WrittenRequest.request, left) := by
  induction written with
  | nil =>
      have hend : ¬ (currentToken stop left).kind = .atSign := by
        rw [currentToken_kind]
        exact ne_of_mem_of_not_mem hleft (by decide)
      rw [List.flatMap_nil, List.nil_append, readRequests, if_neg hend]
      rfl
  | cons request others ih =>
      have hparen : headKind (others.flatMap WrittenRequest.tokens ++ left) ≠ .leftParen := by
        cases others with
        | nil => exact ne_of_mem_of_not_mem hleft (by decide)
        | cons other others => exact ne_of_mem_of_not_mem other.sign.property (by decide)
      rw [List.flatMap_cons, List.append_assoc]
      exact readRequests_cons (List.mem_singleton.1 request.sign.property)
        (readRequest_append request hparen) ih

/-! ### Declarations -/

theorem checkTypeName_eq_ok_iff {declared : List String} {t : Token} :
    checkTypeName declared t = .ok () ↔ FreeTypeName t.text ∧ t.text ∉ declared := by
  simp only [checkTypeName]
  constructor
  · intro h
    split at h
    · cases h
    rename_i hreserved
    split at h
    · cases h
    rename_i himported
    split at h
    · cases h
    rename_i hbuiltin
    split at h
    · cases h
    rename_i hnew
    simp only [Bool.or_eq_true, not_or, Bool.not_eq_true, Option.isSome_eq_false_iff,
      Option.isNone_iff_eq_none] at hbuiltin
    rw [isReserved_iff] at hreserved
    exact ⟨⟨hreserved, himported, Primitive.ofName?_eq_none_iff.1 hbuiltin.2,
      Wrapper.ofName?_eq_none_iff.1 hbuiltin.1⟩, hnew⟩
  · rintro ⟨⟨hreserved, himported, hprimitive, hwrapper⟩, hnew⟩
    rw [← isReserved_iff] at hreserved
    rw [if_neg hreserved, if_neg himported, Wrapper.ofName?_eq_none_iff.2 hwrapper,
      Primitive.ofName?_eq_none_iff.2 hprimitive, if_neg (by simp), if_neg hnew]

theorem readTypeName_sound {declared : List String} {name : String}
    (h : readTypeName stop declared tokens = .ok (name, left)) :
    ∃ (t : TokenOf [.identifier]) (opening : TokenOf [.leftBrace]),
      tokens = t.val :: opening.val :: left ∧ t.val.text = name ∧ FreeTypeName name ∧
        name ∉ declared := by
  obtain ⟨⟨t, rest⟩, ht, h⟩ := bind_eq_ok.1 h
  obtain ⟨⟨⟩, hcheck, h⟩ := bind_eq_ok.1 h
  obtain ⟨⟨brace, rest'⟩, hbrace, h⟩ := bind_eq_ok.1 h
  cases h
  obtain ⟨rfl, hkind⟩ := expect_ok ht
  obtain ⟨rfl, hopening⟩ := expect_ok hbrace
  obtain ⟨hfree, hnew⟩ := checkTypeName_eq_ok_iff.1 hcheck
  exact ⟨⟨t, hkind⟩, ⟨brace, hopening⟩, rfl, rfl, hfree, hnew⟩

theorem readTypeName_append {declared : List String} (t : TokenOf [.identifier])
    (opening : TokenOf [.leftBrace]) (hfree : FreeTypeName t.val.text)
    (hnew : t.val.text ∉ declared) :
    readTypeName stop declared (t.val :: opening.val :: left) = .ok (t.val.text, left) := by
  simp only [readTypeName, expect_token, checkTypeName_eq_ok_iff.2 ⟨hfree, hnew⟩, bind, Except.bind]
  rfl

/-- What is read as a declaration is written as one.  Its names are free, and it introduces a new
one. -/
theorem readRequested_sound {declared : List String} {declaration : Declaration}
    (h : readRequested stop declared tokens = .ok (declaration, left)) :
    ∃ written : WrittenDeclaration, tokens = written.tokens ++ left ∧
      written.declaration = declaration ∧ written.UsesFreeNames ∧ written.name ∉ declared := by
  unfold readRequested at h
  split at h
  · cases h
  rename_i mirrors rest hrequests
  obtain ⟨requests, rfl, rfl⟩ := readRequests_sound hrequests
  simp only [readDeclaration] at h
  split at h
  · cases h
  rename_i hmirrors
  cases rest with
  | nil => cases h
  | cons word rest =>
      split at h
      · rename_i hword
        obtain ⟨⟨name, inside⟩, hname, h⟩ := bind_eq_ok.1 h
        obtain ⟨⟨fields, after⟩, hfields, h⟩ := bind_eq_ok.1 h
        cases h
        obtain ⟨t, opening, hrest, rfl, hfree, hnew⟩ := readTypeName_sound hname
        obtain ⟨written, closing, rfl, rfl, hnames, hdistinct⟩ := readFields_sound hfields
        refine ⟨.record requests ⟨⟨word, List.mem_singleton.2 hword⟩, t, opening, written, closing⟩,
          ?_, rfl, ⟨hfree, fun field hfield => (hnames field hfield).1, hdistinct⟩, hnew⟩
        rw [show rest = _ from hrest]
        simp [WrittenDeclaration.tokens, WrittenBlock.tokens]
      · rename_i hword
        obtain ⟨⟨name, inside⟩, hname, h⟩ := bind_eq_ok.1 h
        obtain ⟨⟨values, after⟩, hvalues, h⟩ := bind_eq_ok.1 h
        cases h
        obtain ⟨t, opening, hrest, rfl, hfree, hnew⟩ := readTypeName_sound hname
        obtain ⟨written, closing, rfl, rfl⟩ := readValues_sound hvalues
        have hnone : requests = [] := by
          by_contra hne
          refine hmirrors ⟨fun hmap => hne (List.map_eq_nil_iff.1 hmap), ?_⟩
          rw [hword]
          decide
        subst hnone
        refine ⟨.enum ⟨⟨word, List.mem_singleton.2 hword⟩, t, opening, written, closing⟩, ?_, rfl,
          ⟨hfree, fun _ hfield => absurd hfield List.not_mem_nil, List.nodup_nil⟩, hnew⟩
        rw [show rest = _ from hrest]
        simp [WrittenDeclaration.tokens, WrittenBlock.tokens]
      · cases h

theorem readDeclaration_record {declared : List String} {mirrors : List MirrorRequest}
    (block : WrittenBlock .record WrittenField) (htype : FreeTypeName block.name.val.text)
    (hfields : ∀ field ∈ block.items, FreeFieldName field.name.val.text)
    (hdistinct : (block.items.map (·.name.val.text)).Nodup)
    (hnew : block.name.val.text ∉ declared) :
    readDeclaration stop declared mirrors (block.tokens WrittenField.tokens ++ left) =
      .ok (.record ⟨block.name.val.text, block.items.map WrittenField.field, mirrors⟩, left) := by
  obtain ⟨word, name, opening, fields, closing⟩ := block
  have hword : (currentToken stop (word.val :: name.val :: opening.val ::
      (fields.flatMap WrittenField.tokens ++ closing.val :: left))).kind = .record :=
    List.mem_singleton.1 word.property
  have hread : readFields stop name.val.text []
      (fields.flatMap WrittenField.tokens ++ closing.val :: left) =
        .ok (fields.map WrittenField.field, left) := by
    refine readFields_append fields closing ?_ hdistinct
    intro field hfield
    exact ⟨hfields field hfield, List.not_mem_nil⟩
  have hrecord : ¬ (mirrors ≠ [] ∧ TokenKind.record ≠ .record) := fun h => h.2 rfl
  simp only [WrittenBlock.tokens, List.cons_append, List.append_assoc, List.nil_append,
    readDeclaration, hword, if_neg hrecord, List.drop_one, List.tail_cons,
    readTypeName_append name opening htype hnew, hread, bind, Except.bind]
  rfl

theorem readDeclaration_enum {declared : List String}
    (block : WrittenBlock .enum (TokenOf [.identifier])) (htype : FreeTypeName block.name.val.text)
    (hnew : block.name.val.text ∉ declared) :
    readDeclaration stop declared [] (block.tokens (fun value => [value.val]) ++ left) =
      .ok (.enum ⟨block.name.val.text, block.items.map (·.val.text)⟩, left) := by
  obtain ⟨word, name, opening, values, closing⟩ := block
  have hword : (currentToken stop (word.val :: name.val :: opening.val ::
      ((values.flatMap fun value => [value.val]) ++ closing.val :: left))).kind = .enum :=
    List.mem_singleton.1 word.property
  simp only [WrittenBlock.tokens, List.cons_append, List.append_assoc, List.nil_append,
    readDeclaration, hword, List.drop_one, List.tail_cons,
    readTypeName_append name opening htype hnew, readValues_append values closing, bind,
    Except.bind]
  rfl

/-- The requests before a record are read, and then its block. -/
theorem readRequested_record {declared : List String} (requests : List WrittenRequest)
    (block : WrittenBlock .record WrittenField) :
    readRequested stop declared ((WrittenDeclaration.record requests block).tokens ++ left) =
      readDeclaration stop declared (requests.map WrittenRequest.request)
        (block.tokens WrittenField.tokens ++ left) := by
  have hhead : headKind (block.tokens WrittenField.tokens ++ left) ∈ [TokenKind.record, .enum] := by
    rw [block.headKind_append]
    decide
  rw [readRequested, WrittenDeclaration.tokens, List.append_assoc,
    readRequests_append requests hhead]

/-- Before an enumeration there are no requests to be read. -/
theorem readRequested_enum {declared : List String}
    (block : WrittenBlock .enum (TokenOf [.identifier])) :
    readRequested stop declared ((WrittenDeclaration.enum block).tokens ++ left) =
      readDeclaration stop declared [] (block.tokens (fun value => [value.val]) ++ left) := by
  have hhead : headKind (block.tokens (fun value => [value.val]) ++ left) ∈
      [TokenKind.record, .enum] := by
    rw [block.headKind_append]
    decide
  have hnone : readRequests stop _ = _ := readRequests_append [] hhead
  rw [List.flatMap_nil, List.nil_append] at hnone
  rw [readRequested, WrittenDeclaration.tokens, hnone]
  rfl

theorem readRequested_append {declared : List String} (d : WrittenDeclaration)
    (hfree : d.UsesFreeNames) (hnew : d.name ∉ declared) :
    readRequested stop declared (d.tokens ++ left) = .ok (d.declaration, left) := by
  obtain ⟨htype, hfields, hdistinct⟩ := hfree
  cases d with
  | record requests block =>
      rw [readRequested_record]
      exact readDeclaration_record block htype hfields hdistinct hnew
  | enum block =>
      rw [readRequested_enum]
      exact readDeclaration_enum block htype hnew

theorem WrittenDeclaration.declaration_name (d : WrittenDeclaration) :
    d.declaration.name = d.name := by
  cases d <;> rfl

theorem WrittenDeclaration.tokens_ne_nil (d : WrittenDeclaration) (rest : List Token) :
    d.tokens ++ rest ≠ [] := by
  intro hnil
  have hhead := ne_of_mem_of_not_mem (d.headKind_append rest) (by decide : TokenKind.eof ∉ _)
  exact hhead (by rw [hnil, headKind])

theorem readDeclarations_sound {declared : List String} {declarations : List Declaration}
    (h : readDeclarations stop declared tokens = .ok declarations) :
    ∃ file : List WrittenDeclaration, tokens = fileTokens file ∧
      file.map WrittenDeclaration.declaration = declarations ∧
      (∀ d ∈ file, d.UsesFreeNames ∧ d.name ∉ declared) ∧
      (file.map WrittenDeclaration.name).Nodup := by
  fun_induction readDeclarations stop declared tokens generalizing declarations with
  | case1 =>
      cases h
      exact ⟨[], rfl, rfl, by simp, List.nodup_nil⟩
  | case2 => cases h
  | case3 => cases h
  | case4 declared tokens _ declaration rest hrequested others hmore ih =>
      cases h
      obtain ⟨d, htokens, rfl, hfree, hnew⟩ :=
        readRequested_sound (attachShorter_eq_ok.1 hrequested)
      obtain ⟨file, hrest, rfl, hnames, hdistinct⟩ := ih hmore
      rw [d.declaration_name] at hnames
      obtain ⟨hdistinct, hnew⟩ :=
        distinct_cons hnew hdistinct fun other hother => (hnames other hother).2
      have hallFree := List.forall_mem_cons.2 ⟨hfree, fun other hother => (hnames other hother).1⟩
      refine ⟨d :: file, ?_, rfl, ?_, hdistinct⟩
      · rw [htokens, hrest, fileTokens, fileTokens, List.flatMap_cons]
      · exact fun other hother => ⟨hallFree other hother, hnew other hother⟩

theorem readDeclarations_nil (declared : List String) :
    readDeclarations stop declared [] = .ok [] := by
  rw [readDeclarations, if_pos rfl]

/-- One round of the loop over declarations. -/
theorem readDeclarations_step {declared : List String} (hmore : tokens ≠ []) :
    readDeclarations stop declared tokens =
      match readRequested stop declared tokens with
      | .error e => .error e
      | .ok (declaration, left) =>
        (readDeclarations stop (declaration.name :: declared) left).map (declaration :: ·) := by
  rw [readDeclarations, if_neg hmore]
  rcases error_or_ok (readRequested stop declared tokens) with
    ⟨e, hread⟩ | ⟨⟨declaration, left⟩, hread⟩
  · simp only [attachShorter_eq_error.2 hread]
    simp only [hread]
  · have hattach : attachShorter (readRequested stop declared tokens) readRequested_length =
        .ok (declaration, ⟨left, readRequested_length hread⟩) := attachShorter_eq_ok.2 hread
    simp only [hattach]
    simp only [hread]
    cases readDeclarations stop (declaration.name :: declared) left <;> rfl

/-- The declarations of a file are read first, whatever follows them.  To what follows they leave
their names. -/
theorem readDeclarations_append {declared : List String} (file : List WrittenDeclaration)
    (hnames : ∀ d ∈ file, d.UsesFreeNames ∧ d.name ∉ declared)
    (hdistinct : (file.map WrittenDeclaration.name).Nodup) :
    readDeclarations stop declared (fileTokens file ++ left) =
      (readDeclarations stop ((file.map WrittenDeclaration.name).reverse ++ declared) left).map
        (file.map WrittenDeclaration.declaration ++ ·) := by
  induction file generalizing declared with
  | nil =>
      change readDeclarations stop declared left = (readDeclarations stop declared left).map id
      cases readDeclarations stop declared left <;> rfl
  | cons d file ih =>
      rw [List.map_cons, List.nodup_cons] at hdistinct
      obtain ⟨hfree, hnew⟩ := hnames d List.mem_cons_self
      have hdeclared : ∀ other ∈ file, other.UsesFreeNames ∧ other.name ∉ d.name :: declared := by
        intro other hother
        obtain ⟨hfree, hnew⟩ := hnames other (List.mem_cons_of_mem _ hother)
        refine ⟨hfree, ?_⟩
        intro hmem
        rcases List.mem_cons.1 hmem with heq | hmem
        · exact hdistinct.1 (heq ▸ List.mem_map_of_mem hother)
        · exact hnew hmem
      rw [fileTokens, List.flatMap_cons, List.append_assoc, ← fileTokens,
        readDeclarations_step (d.tokens_ne_nil _), readRequested_append d hfree hnew]
      simp only [d.declaration_name, ih hdeclared hdistinct.2, List.map_cons, List.reverse_cons,
        List.append_assoc, List.singleton_append]
      cases readDeclarations stop _ left <;> rfl

/-! ### Sources -/

/-- The tokens of a source are read as a schema exactly if a file derives them whose names are free,
and the schema is the one that the file writes. -/
theorem ofTokens_eq_ok_iff {stream : TokenStream} {schema : Schema} :
    ofTokens stream = .ok schema ↔
      ∃ file, fileTokens file = stream.tokens ∧ UsesFreeNames file ∧ ofFile file = schema := by
  constructor
  · intro h
    obtain ⟨declarations, hread, rfl⟩ := map_eq_ok.1 h
    obtain ⟨file, htokens, rfl, hnames, hdistinct⟩ := readDeclarations_sound hread
    exact ⟨file, htokens.symm, ⟨fun d hd => (hnames d hd).1, hdistinct⟩, rfl⟩
  · rintro ⟨file, htokens, ⟨hfree, hdistinct⟩, rfl⟩
    have hnames : ∀ d ∈ file, d.UsesFreeNames ∧ d.name ∉ ([] : List String) :=
      fun d hd => ⟨hfree d hd, List.not_mem_nil⟩
    have hread : readDeclarations stream.stop [] (fileTokens file ++ []) = _ :=
      readDeclarations_append file hnames hdistinct
    rw [List.append_nil, readDeclarations_nil] at hread
    rw [ofTokens, ← htokens, hread]
    simp [Except.map, ofFile]

theorem parse_eq_ok_iff {source : String} {schema : Schema} :
    parse source = .ok schema ↔
      ∃ stream, Token.scan source = .ok stream ∧ ofTokens stream = .ok schema := by
  unfold parse
  cases hscan : Token.scan source with
  | error cause => simp
  | ok stream => cases hread : ofTokens stream <;> simp [Except.mapError, hread]

theorem parse_eq_error_iff {source : String} {error : SourceError} :
    parse source = .error error ↔
      (∃ cause, Token.scan source = .error cause ∧ .unscannable cause = error) ∨
        ∃ stream e, Token.scan source = .ok stream ∧ ofTokens stream = .error e ∧
          .malformed e = error := by
  unfold parse
  cases hscan : Token.scan source with
  | error cause => simp
  | ok stream => cases hread : ofTokens stream <;> simp [Except.mapError, hread]

/-- Reading schemas is exact.  It gives what the grammar derives from the tokens of a source with
free names, there is one derivation at most, and every other source that scans is refused. -/
theorem parse_accepts_grammar (source : String) :
    (∀ schema, parse source = .ok schema ↔
        ∃ stream, Token.scan source = .ok stream ∧
          ∃ file, fileTokens file = stream.tokens ∧ UsesFreeNames file ∧ ofFile file = schema) ∧
      (∀ stream, Token.scan source = .ok stream → ∀ file file' : List WrittenDeclaration,
        fileTokens file = stream.tokens → fileTokens file' = stream.tokens → file = file') ∧
      ∀ stream, Token.scan source = .ok stream →
        (∀ file, fileTokens file = stream.tokens → ¬ UsesFreeNames file) →
          ∃ error, parse source = .error (.malformed error) := by
  refine ⟨?_, ?_, ?_⟩
  · intro schema
    rw [parse_eq_ok_iff]
    constructor
    · rintro ⟨stream, hscan, hread⟩
      exact ⟨stream, hscan, ofTokens_eq_ok_iff.1 hread⟩
    · rintro ⟨stream, hscan, hfile⟩
      exact ⟨stream, hscan, ofTokens_eq_ok_iff.2 hfile⟩
  · intro stream _ file file' hfile hfile'
    exact fileTokens_injective (hfile.trans hfile'.symm)
  · intro stream hscan hnone
    cases hread : ofTokens stream with
    | ok schema =>
        obtain ⟨file, htokens, hfree, -⟩ := ofTokens_eq_ok_iff.1 hread
        exact absurd hfree (hnone file htokens)
    | error error => exact ⟨error, parse_eq_error_iff.2 (Or.inr ⟨stream, error, hscan, hread, rfl⟩)⟩

/-- A source with a request, a group inside a group, a keyword for a field name, and an
enumeration. -/
def teamSource : String :=
  "@mirror('observable') record Team \x7b @persisted record: Map<Key, List<A ?>>? \x7d " ++
    "enum Key \x7b low high \x7d"

theorem parse_accepts_grammar_team :
    ∃ stream, Token.scan teamSource = .ok stream ∧
      ∃ file, fileTokens file = stream.tokens ∧ UsesFreeNames file ∧
        ofFile file =
          ⟨[⟨"Team", [⟨"record", "Map<Key, List<A?>>?", true⟩], [⟨some "observable", 1⟩]⟩],
            [⟨"Key", ["low", "high"]⟩]⟩ := by
  refine ((parse_accepts_grammar teamSource).1 _).1 ?_
  decide +kernel

end RecordMirror.Schema
