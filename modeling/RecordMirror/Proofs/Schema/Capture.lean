import RecordMirror.Proofs.Outcomes
import RecordMirror.Proofs.Schema.TypeText
/-!
Which tokens the declared type of a field is kept from.  A colon stands in a schema only before a
declared type, so the types can be found in the stream without the declarations around them.
-/

namespace RecordMirror

namespace Schema

/-- The tokens that are read as a declared type after each colon of some tokens. -/
def typeSlices (stop : Position) : List Token → List (List Token)
  | [] => []
  | t :: rest =>
    match t.kind, readTypeTokens stop rest with
    | .colon, .ok (type, _) => type :: typeSlices stop rest
    | _, _ => typeSlices stop rest

/-- The tokens up to those left hold no colon. -/
def Passes (tokens left : List Token) : Prop :=
  ∃ read, tokens = read ++ left ∧ ∀ t ∈ read, t.kind ≠ .colon

namespace Passes

variable {tokens middle left : List Token} {t : Token}

theorem refl (tokens : List Token) : Passes tokens tokens :=
  ⟨[], rfl, by simp⟩

theorem cons (ht : t.kind ≠ .colon) (h : Passes tokens left) : Passes (t :: tokens) left := by
  obtain ⟨read, rfl, hread⟩ := h
  refine ⟨t :: read, rfl, ?_⟩
  simp only [List.mem_cons, forall_eq_or_imp]
  exact ⟨ht, hread⟩

theorem trans (hfirst : Passes tokens middle) (hsecond : Passes middle left) :
    Passes tokens left := by
  obtain ⟨first, rfl, hfirst⟩ := hfirst
  obtain ⟨second, rfl, hsecond⟩ := hsecond
  refine ⟨first ++ second, by simp, ?_⟩
  intro t ht
  rcases List.mem_append.1 ht with ht | ht
  · exact hfirst t ht
  · exact hsecond t ht

theorem drop_one (stop : Position) (h : (currentToken stop tokens).kind ≠ .colon) :
    Passes tokens (tokens.drop 1) := by
  cases tokens with
  | nil => exact refl []
  | cons t rest => exact cons h (refl rest)

end Passes

section

variable {stop : Position} {kinds : List TokenKind} {tokens left : List Token}

theorem typeSlices_of_passes (h : Passes tokens left) :
    typeSlices stop tokens = typeSlices stop left := by
  obtain ⟨read, rfl, hread⟩ := h
  induction read with
  | nil => rfl
  | cons t rest ih =>
      simp only [List.mem_cons, forall_eq_or_imp] at hread
      rw [← ih hread.2, List.cons_append, typeSlices]
      split
      · exact absurd (by assumption) hread.1
      · rfl

theorem typeSlices_cons_colon {t : Token} {type : List Token} (ht : t.kind = .colon)
    (htype : readTypeTokens stop tokens = .ok (type, left)) :
    typeSlices stop (t :: tokens) = type :: typeSlices stop tokens := by
  simp only [typeSlices, ht, htype]

theorem expect_ok {t : Token} (h : expect stop kinds tokens = .ok (t, left)) :
    tokens = t :: left ∧ t.kind ∈ kinds := by
  unfold expect at h
  split at h
  · cases h
  · split at h
    · cases h
      exact ⟨rfl, by assumption⟩
    · cases h

theorem expect_passes {t : Token} (hkinds : TokenKind.colon ∉ kinds)
    (h : expect stop kinds tokens = .ok (t, left)) : Passes tokens left := by
  obtain ⟨rfl, ht⟩ := expect_ok h
  exact .cons (fun hcolon => hkinds (hcolon ▸ ht)) (.refl left)

/-! ### The tokens of declared types -/

theorem TypeTokens.cons {t : Token} (ht : t.kind ∈ typeKinds) (h : TypeTokens tokens) :
    TypeTokens (t :: tokens) := by
  simp only [TypeTokens, List.mem_cons, forall_eq_or_imp]
  exact ⟨ht, h⟩

theorem readGroup_ok {depth : Nat} {group : List Token}
    (h : readGroup stop depth tokens = .ok (group, left)) :
    tokens = group ++ left ∧ TypeTokens group := by
  induction tokens generalizing depth group with
  | nil => cases depth <;> cases h
  | cons found rest ih =>
      have more : ∀ {depth : Nat}, found.kind ∈ typeKinds →
          ((readGroup stop depth rest).map fun read => (found :: read.1, read.2)) =
            .ok (group, left) → found :: rest = group ++ left ∧ TypeTokens group := by
        intro depth hfound hmore
        obtain ⟨⟨inner, after⟩, hinner, hparts⟩ := map_eq_ok.1 hmore
        cases hparts
        obtain ⟨rfl, htype⟩ := ih hinner
        exact ⟨rfl, .cons hfound htype⟩
      simp only [readGroup] at h
      split at h
      · rename_i hkind
        cases h
        refine ⟨rfl, .cons ?_ (by simp [TypeTokens])⟩
        simp [hkind, typeKinds]
      · rename_i hkind
        exact more (by simp [hkind, typeKinds]) h
      · rename_i hkind
        exact more (by simp [hkind, typeKinds]) h
      · rename_i hkind
        exact more (by simp [hkind, typeKinds]) h
      · rename_i hkind
        exact more (by simp [hkind, typeKinds]) h
      · rename_i hkind
        exact more (by simp [hkind, typeKinds]) h
      · cases h

theorem readOptionalGroup_ok {group : List Token}
    (h : readOptionalGroup stop tokens = .ok (group, left)) :
    tokens = group ++ left ∧ TypeTokens group := by
  unfold readOptionalGroup at h
  split at h
  · cases h
    exact ⟨rfl, by simp [TypeTokens]⟩
  · split at h
    · rename_i hopening
      obtain ⟨⟨inner, after⟩, hinner, hparts⟩ := map_eq_ok.1 h
      cases hparts
      obtain ⟨rfl, htype⟩ := readGroup_ok hinner
      exact ⟨rfl, .cons (by simp [hopening, typeKinds]) htype⟩
    · cases h
      exact ⟨rfl, by simp [TypeTokens]⟩

/-- A declared type is kept from the tokens that are read, and only some kinds are. -/
theorem readTypeTokens_ok {type : List Token}
    (h : readTypeTokens stop tokens = .ok (type, left)) :
    tokens = type ++ left ∧ TypeTokens type := by
  obtain ⟨⟨name, rest⟩, hname, h⟩ := bind_eq_ok.1 h
  obtain ⟨⟨group, rest'⟩, hgroup, h⟩ := bind_eq_ok.1 h
  cases h
  obtain ⟨rfl, hkind⟩ := expect_ok hname
  obtain ⟨rfl, hkinds⟩ := readOptionalGroup_ok hgroup
  constructor
  · simp
  · refine .cons (by simp_all [typeKinds]) ?_
    intro t ht
    rcases List.mem_append.1 ht with ht | ht
    · exact hkinds t ht
    · have hmark := List.mem_takeWhile_imp ht
      simp only [isMark, decide_eq_true_eq] at hmark
      simp [hmark, typeKinds]

theorem TypeTokens.passes {type : List Token} (h : TypeTokens type) :
    Passes (type ++ left) left := by
  refine ⟨type, rfl, ?_⟩
  intro t ht hcolon
  have hkind := h t ht
  rw [hcolon] at hkind
  exact absurd hkind (by decide)

theorem mem_typeSlices {slice : List Token} (h : slice ∈ typeSlices stop tokens) :
    slice <:+: tokens ∧ TypeTokens slice := by
  induction tokens with
  | nil => cases h
  | cons t rest ih =>
      simp only [typeSlices] at h
      split at h
      · rename_i htype
        rcases List.mem_cons.1 h with rfl | h
        · obtain ⟨rfl, hkinds⟩ := readTypeTokens_ok htype
          exact ⟨((List.prefix_append _ _).isInfix).trans (List.suffix_cons _ _).isInfix, hkinds⟩
        · exact ⟨(ih h).1.trans (List.suffix_cons _ _).isInfix, (ih h).2⟩
      · exact ⟨(ih h).1.trans (List.suffix_cons _ _).isInfix, (ih h).2⟩

/-! ### What the other readers pass -/

theorem readPersisted_passes {persisted result : Bool}
    (h : readPersisted stop persisted tokens = .ok (result, left)) : Passes tokens left := by
  fun_induction readPersisted stop persisted tokens with
  | case1 persisted _ _ position rest ih =>
      exact .cons (by simp) (.cons (by simp) (ih h))
  | case2 => cases h
  | case3 => cases h
  | case4 =>
      cases h
      exact .refl _

theorem readFieldName_passes {name : String}
    (h : readFieldName stop tokens = .ok (name, left)) : Passes tokens left := by
  simp only [readFieldName] at h
  split at h
  · cases h
  · rename_i hkind
    split at h
    · cases h
    · split at h
      · cases h
      · cases h
        refine .drop_one stop ?_
        intro hcolon
        rw [hcolon] at hkind
        exact hkind (by decide)

theorem readMode_passes {mode : Option String}
    (h : readMode stop tokens = .ok (mode, left)) : Passes tokens left := by
  unfold readMode at h
  split at h
  · rename_i hkind
    obtain ⟨⟨text, rest⟩, htext, h⟩ := bind_eq_ok.1 h
    obtain ⟨⟨close, rest'⟩, hclose, h⟩ := bind_eq_ok.1 h
    cases h
    have hopen : Passes tokens (tokens.drop 1) := .drop_one stop (by simp [hkind])
    exact (hopen.trans (expect_passes (by decide) htext)).trans (expect_passes (by decide) hclose)
  · cases h
    exact .refl _

theorem readRequest_passes {request : MirrorRequest}
    (h : readRequest stop tokens = .ok (request, left)) : Passes tokens left := by
  obtain ⟨⟨sign, rest⟩, hsign, h⟩ := bind_eq_ok.1 h
  obtain ⟨⟨name, rest'⟩, hname, h⟩ := bind_eq_ok.1 h
  simp only at h
  split at h
  · cases h
  · obtain ⟨⟨mode, rest''⟩, hmode, h⟩ := bind_eq_ok.1 h
    cases h
    have hhead := (expect_passes (by decide) hsign).trans (expect_passes (by decide) hname)
    exact hhead.trans (readMode_passes hmode)

theorem readRequests_passes {requests : List MirrorRequest}
    (h : readRequests stop tokens = .ok (requests, left)) : Passes tokens left := by
  fun_induction readRequests stop tokens generalizing requests with
  | case1 => cases h
  | case2 => cases h
  | case3 _ _ _ rest hrequest _ _ hmore ih =>
      cases h
      exact (readRequest_passes (attachShorter_eq_ok.1 hrequest)).trans (ih hmore)
  | case4 =>
      cases h
      exact .refl _

theorem readTypeName_passes {declared : List String} {name : String}
    (h : readTypeName stop declared tokens = .ok (name, left)) : Passes tokens left := by
  obtain ⟨⟨name, rest⟩, hname, h⟩ := bind_eq_ok.1 h
  obtain ⟨⟨⟩, -, h⟩ := bind_eq_ok.1 h
  obtain ⟨⟨brace, rest'⟩, hbrace, h⟩ := bind_eq_ok.1 h
  cases h
  exact (expect_passes (by decide) hname).trans (expect_passes (by decide) hbrace)

theorem readValues_passes {values : List String}
    (h : readValues stop tokens = .ok (values, left)) : Passes tokens left := by
  fun_induction readValues stop tokens generalizing values with
  | case1 => cases h
  | case2 first rest hfirst =>
      cases h
      exact .cons (by simp [hfirst]) (.refl left)
  | case3 => cases h
  | case4 first rest _ hfirst _ _ hmore ih =>
      cases h
      exact .cons (by simp [hfirst]) (ih hmore)
  | case5 => cases h

/-! ### The slice of each field -/

/-- A field is kept from some tokens. -/
def KeptFrom (field : Field) (slice : List Token) : Prop :=
  field.declaredType = typeText slice

theorem readField_slice {field : Field} (h : readField stop tokens = .ok (field, left)) :
    ∃ slice, typeSlices stop tokens = slice :: typeSlices stop left ∧ KeptFrom field slice := by
  obtain ⟨⟨persisted, rest⟩, hpersisted, h⟩ := bind_eq_ok.1 h
  obtain ⟨⟨name, rest'⟩, hname, h⟩ := bind_eq_ok.1 h
  obtain ⟨⟨colon, inside⟩, hcolon, h⟩ := bind_eq_ok.1 h
  obtain ⟨⟨slice, after⟩, hslice, h⟩ := bind_eq_ok.1 h
  cases h
  obtain ⟨rfl, hkind⟩ := expect_ok hcolon
  have hhead := (readPersisted_passes hpersisted).trans (readFieldName_passes hname)
  obtain ⟨rfl, htype⟩ := readTypeTokens_ok hslice
  refine ⟨slice, ?_, rfl⟩
  rw [typeSlices_of_passes hhead, typeSlices_cons_colon (by simpa using hkind) hslice,
    typeSlices_of_passes htype.passes]

theorem readFields_slices {record : String} {seen : List String} {fields : List Field}
    (h : readFields stop record seen tokens = .ok (fields, left)) :
    ∃ slices, typeSlices stop tokens = slices ++ typeSlices stop left ∧
      List.Forall₂ KeptFrom fields slices := by
  fun_induction readFields stop record seen tokens generalizing fields with
  | case1 => cases h
  | case2 seen first rest hfirst =>
      cases h
      refine ⟨[], ?_, .nil⟩
      exact typeSlices_of_passes (.cons (by simp [hfirst]) (.refl left))
  | case3 => cases h
  | case4 => cases h
  | case5 => cases h
  | case6 _ _ _ _ field rest hfield _ _ _ hmore ih =>
      cases h
      have hread := (@attachShorter_eq_ok _ _ _ _ _ readField_length _ _).1 hfield
      obtain ⟨slice, hslice, hkept⟩ := readField_slice hread
      obtain ⟨slices, hslices, hothers⟩ := ih hmore
      refine ⟨slice :: slices, ?_, .cons hkept hothers⟩
      rw [hslice, hslices, List.cons_append]

/-- The fields of a declaration, which are none for an enumeration. -/
def declaredFields (declaration : Declaration) : List Field :=
  (declaration.record?.map Record.fields).getD []

theorem readDeclaration_slices {declared : List String} {mirrors : List MirrorRequest}
    {declaration : Declaration}
    (h : readDeclaration stop declared mirrors tokens = .ok (declaration, left)) :
    ∃ slices, typeSlices stop tokens = slices ++ typeSlices stop left ∧
      List.Forall₂ KeptFrom (declaredFields declaration) slices := by
  simp only [readDeclaration] at h
  split at h
  · cases h
  · split at h
    · rename_i hkind
      obtain ⟨⟨name, inside⟩, hname, h⟩ := bind_eq_ok.1 h
      obtain ⟨⟨fields, after⟩, hfields, h⟩ := bind_eq_ok.1 h
      cases h
      have hhead : Passes tokens inside :=
        (Passes.drop_one stop (by simp [hkind])).trans (readTypeName_passes hname)
      rw [typeSlices_of_passes hhead]
      exact readFields_slices hfields
    · rename_i hkind
      obtain ⟨⟨name, inside⟩, hname, h⟩ := bind_eq_ok.1 h
      obtain ⟨⟨values, after⟩, hvalues, h⟩ := bind_eq_ok.1 h
      cases h
      have hhead : Passes tokens inside :=
        (Passes.drop_one stop (by simp [hkind])).trans (readTypeName_passes hname)
      refine ⟨[], ?_, .nil⟩
      exact typeSlices_of_passes (hhead.trans (readValues_passes hvalues))
    · cases h

theorem readDeclarations_slices {declared : List String} {declarations : List Declaration}
    (h : readDeclarations stop declared tokens = .ok declarations) :
    List.Forall₂ KeptFrom (declarations.flatMap declaredFields) (typeSlices stop tokens) := by
  fun_induction readDeclarations stop declared tokens generalizing declarations with
  | case1 =>
      cases h
      exact .nil
  | case2 => cases h
  | case3 => cases h
  | case4 declared tokens _ declaration rest hrequested _ hmore ih =>
      cases h
      have hread := attachShorter_eq_ok.1 hrequested
      unfold readRequested at hread
      split at hread
      · cases hread
      · rename_i hrequests
        obtain ⟨slices, hslices, hkept⟩ := readDeclaration_slices hread
        rw [typeSlices_of_passes (readRequests_passes hrequests), hslices, List.flatMap_cons]
        exact List.rel_append hkept (ih hmore)

end

theorem flatMap_declaredFields (declarations : List Declaration) :
    declarations.flatMap declaredFields =
      (ofDeclarations declarations).records.flatMap Record.fields := by
  induction declarations with
  | nil => rfl
  | cons declaration rest ih =>
      simp only [ofDeclarations] at ih
      cases declaration with
      | record r => simp [ofDeclarations, declaredFields, Declaration.record?, ih]
      | enum e =>
          simp [ofDeclarations, declaredFields, Declaration.record?, List.filterMap_cons, ih]

theorem parse_keptFrom {source : String} {schema : Schema} (h : Schema.parse source = .ok schema) :
    ∃ stream, Token.scan source = .ok stream ∧
      List.Forall₂ KeptFrom (schema.records.flatMap Record.fields)
        (typeSlices stream.stop stream.tokens) := by
  unfold Schema.parse at h
  cases hscan : Token.scan source with
  | error cause => rw [hscan] at h; cases h
  | ok stream =>
      rw [hscan] at h
      simp only [ofTokens] at h
      cases hread : readDeclarations stream.stop [] stream.tokens with
      | error e => rw [hread] at h; cases h
      | ok declarations =>
          rw [hread] at h
          cases h
          refine ⟨stream, rfl, ?_⟩
          rw [← flatMap_declaredFields]
          exact readDeclarations_slices hread

/-- What a field keeps of the tokens its declared type is written with. -/
structure Captured (field : Field) (written : List Lexeme) : Prop where
  /-- The text kept has the lexemes written, each run of neighbouring words joined into one. -/
  scan_iff : ∀ lexemes, (∃ stream, Token.scan field.declaredType = .ok stream ∧
    stream.lexemes = lexemes) ↔ lexemes = joinWords written
  /-- Nothing is lost exactly if no two words are neighbours. -/
  lossless_iff : (∃ stream, Token.scan field.declaredType = .ok stream ∧
    stream.lexemes = written) ↔ WordsApart written
  /-- The text kept is read as a type as the joined lexemes are. -/
  parse_iff : ∀ e, TypeExpr.parse field.declaredType = .ok e ↔ Denotes (joinWords written) e
  /-- It is read as the type that was written exactly if no two words are neighbours, or if it is
  no type with them joined either. -/
  faithful_iff : (∀ e, TypeExpr.parse field.declaredType = .ok e ↔ Denotes written e) ↔
    (WordsApart written ∨ ∀ e, ¬ Denotes (joinWords written) e)

theorem KeptFrom.captured {field : Field} {slice : List Token} (h : KeptFrom field slice)
    (htype : TypeTokens slice) (hspelled : SpelledTokens slice) :
    Captured field (slice.map Token.lexeme) := by
  have htext := hasLexemes_typeText htype hspelled
  rw [← h] at htext
  obtain ⟨kept, hkept, hlexemes⟩ := hasLexemes_iff_scan.1 htext
  have hscan : ∀ lexemes, (∃ stream, Token.scan field.declaredType = .ok stream ∧
      stream.lexemes = lexemes) ↔ lexemes = joinWords (slice.map Token.lexeme) := by
    intro lexemes
    constructor
    · rintro ⟨stream, hstream, rfl⟩
      rw [hkept] at hstream
      cases hstream
      exact hlexemes
    · rintro rfl
      exact ⟨kept, hkept, hlexemes⟩
  have hparse : ∀ e, TypeExpr.parse field.declaredType = .ok e ↔
      Denotes (joinWords (slice.map Token.lexeme)) e := by
    intro e
    rw [TypeExpr.parse_eq_ok_iff, ← hlexemes]
    constructor
    · rintro ⟨stream, hstream, hdenotes⟩
      rw [hkept] at hstream
      cases hstream
      exact hdenotes
    · intro hdenotes
      exact ⟨kept, hkept, hdenotes⟩
  refine ⟨hscan, ?_, hparse, ?_⟩
  · rw [hscan, eq_comm, joinWords_eq_self_iff]
  · constructor
    · intro hfaithful
      by_cases hapart : WordsApart (slice.map Token.lexeme)
      · exact Or.inl hapart
      · refine Or.inr fun e hdenotes => hapart ?_
        exact ((hfaithful e).1 ((hparse e).2 hdenotes)).wordsApart
    · rintro (hapart | hnone) e
      · rw [hparse, joinWords_eq_self_iff.2 hapart]
      · rw [hparse]
        constructor
        · intro hdenotes
          exact absurd hdenotes (hnone e)
        · intro hdenotes
          rwa [joinWords_eq_self_iff.2 hdenotes.wordsApart]

/-- Each field of a schema keeps what is written after its own colon. -/
theorem parse_captured {source : String} {schema : Schema} (h : Schema.parse source = .ok schema) :
    ∃ stream, Token.scan source = .ok stream ∧
      List.Forall₂ (fun field slice => Captured field (slice.map Token.lexeme))
        (schema.records.flatMap Record.fields) (typeSlices stream.stop stream.tokens) := by
  obtain ⟨stream, hscan, hkept⟩ := parse_keptFrom h
  refine ⟨stream, hscan, List.forall₂_iff_zip.2 ⟨hkept.length_eq, ?_⟩⟩
  intro field slice hpair
  obtain ⟨hwithin, htype⟩ := mem_typeSlices (List.of_mem_zip hpair).2
  have hspelled : SpelledTokens slice :=
    fun t ht => spelledTokens_of_scan hscan t (hwithin.subset ht)
  exact (List.forall₂_iff_zip.1 hkept).2 hpair |>.captured htype hspelled

theorem parse_captured_nested :
    Schema.parse "record R \x7b tags: Map<String , List<R ?>>? \x7d" =
        .ok ⟨[⟨"R", [⟨"tags", "Map<String, List<R?>>?", false⟩], []⟩], []⟩ ∧
      ∃ stream, Token.scan "record R \x7b tags: Map<String , List<R ?>>? \x7d" = .ok stream ∧
        List.Forall₂ (fun field slice => Captured field (slice.map Token.lexeme))
          [⟨"tags", "Map<String, List<R?>>?", false⟩] (typeSlices stream.stop stream.tokens) := by
  have hparse : Schema.parse "record R \x7b tags: Map<String , List<R ?>>? \x7d" =
      .ok ⟨[⟨"R", [⟨"tags", "Map<String, List<R?>>?", false⟩], []⟩], []⟩ := by
    decide +kernel
  exact ⟨hparse, parse_captured hparse⟩

/-- Two names that are apart where they are written are one name in the text kept, which is then a
type although none was written. -/
theorem parse_joins_names :
    Schema.parse "record R \x7b @persisted x: List<A B> \x7d" =
        .ok ⟨[⟨"R", [⟨"x", "List<AB>", true⟩], []⟩], []⟩ ∧
      ((Token.scan "record R \x7b @persisted x: List<A B> \x7d").map fun stream =>
          (typeSlices stream.stop stream.tokens).map (List.map Token.lexeme)) =
        .ok [[(.identifier, "List"), (.leftAngle, "<"), (.identifier, "A"), (.identifier, "B"),
          (.rightAngle, ">")]] ∧
      (Token.scan "List<AB>").map TokenStream.lexemes =
        .ok [(.identifier, "List"), (.leftAngle, "<"), (.identifier, "AB"), (.rightAngle, ">")] ∧
      TypeExpr.parse "List<AB>" = .ok (.list (.reference "AB")) ∧
      ∀ e, ¬ Denotes [(.identifier, "List"), (.leftAngle, "<"), (.identifier, "A"),
        (.identifier, "B"), (.rightAngle, ">")] e := by
  refine ⟨by decide +kernel, by decide +kernel, by decide +kernel, by decide +kernel, ?_⟩
  intro e hdenotes
  have hapart := hdenotes.wordsApart
  simp [WordsApart, TokenKind.isWord] at hapart

end Schema

end RecordMirror
