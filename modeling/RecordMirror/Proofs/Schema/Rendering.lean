import RecordMirror.Proofs.Schema.DeclaredType
import RecordMirror.Proofs.Token.Written
/-!
Rendering schemas in their grammar, one request, field, value or brace on a line.  What is rendered
is read back, but for the lines that requests stand in.
-/

namespace RecordMirror

/-! ### Rendering -/

section

variable (quote : String → Char)

/-- A request, its mode between two quotes. -/
def MirrorRequest.render (request : MirrorRequest) : String :=
  match request.mode with
  | none => "@mirror\n"
  | some mode =>
    "@mirror(" ++ (String.singleton (quote mode) ++ mode ++ String.singleton (quote mode)) ++ ")\n"

def Field.render (field : Field) : String :=
  (if field.persisted then "    @persisted " else "    ") ++ field.name ++ ": " ++
    field.declaredType ++ "\n"

/-- A block of lines between braces, after a keyword and a name. -/
def renderBlock (keyword : TokenKind) (name : String) (lines : List String) : String :=
  keyword.label ++ " " ++ name ++ " \x7b\n" ++ String.join lines ++ "\x7d\n"

def Declaration.render : Declaration → String
  | record r => String.join (r.mirrors.map (MirrorRequest.render quote)) ++
      renderBlock .record r.name (r.fields.map Field.render)
  | enum e => renderBlock .enum e.name (e.values.map fun value => "    " ++ value ++ "\n")

/-- The declarations of a schema, records first. -/
def Schema.declarations (schema : Schema) : List Declaration :=
  schema.records.map .record ++ schema.enums.map .enum

def Schema.render (schema : Schema) : String :=
  String.join (schema.declarations.map (Declaration.render quote))

end

/-! ### Lines -/

/-- A request that stands in no line. -/
def MirrorRequest.withoutLine (request : MirrorRequest) : MirrorRequest :=
  { request with line := 0 }

def Record.withoutLines (record : Record) : Record :=
  { record with mirrors := record.mirrors.map MirrorRequest.withoutLine }

def Declaration.withoutLines : Declaration → Declaration
  | record r => record r.withoutLines
  | enum e => enum e

def Schema.withoutLines (schema : Schema) : Schema :=
  { schema with records := schema.records.map Record.withoutLines }

/-! ### What can be rendered -/

/-- A name that a declaration can introduce. -/
def IsTypeName (name : String) : Prop :=
  IsIdentifier name ∧ Schema.FreeTypeName name

/-- A mode that can stand between quotes. -/
def IsQuotable (mode : String) : Prop :=
  '\n' ∉ mode.toList ∧ ('"' ∉ mode.toList ∨ '\x27' ∉ mode.toList)

/-- A quote that a mode can stand between. -/
def Quotes (quote : Char) (mode : String) : Prop :=
  (quote = '"' ∨ quote = '\x27') ∧ quote ∉ mode.toList

theorem quotes_quoteFor {mode : String} (h : IsQuotable mode) :
    Quotes (quoteFor mode.toList) mode := by
  by_cases hsingle : '\x27' ∈ mode.toList
  · have hdouble : '"' ∉ mode.toList := h.2.resolve_right (not_not.2 hsingle)
    simp [Quotes, quoteFor, hsingle, hdouble]
  · simp [Quotes, quoteFor, hsingle]

/-- A field with a name that is scanned as a word and a type that is put together as types are. -/
structure Field.Renderable (field : Field) : Prop where
  name_isWord : isWord field.name.toList = true
  name_free : Schema.FreeFieldName field.name
  type_proper : ∃ type : DeclaredType, type.Proper ∧ type.text = field.declaredType

structure Record.Renderable (record : Record) : Prop where
  name : IsTypeName record.name
  fields : ∀ field ∈ record.fields, field.Renderable
  fields_distinct : (record.fields.map Field.name).Nodup
  modes : ∀ request ∈ record.mirrors, ∀ mode ∈ request.mode, IsQuotable mode

structure Enumeration.Renderable (enum : Enumeration) : Prop where
  name : IsTypeName enum.name
  values : ∀ value ∈ enum.values, IsIdentifier value

structure Schema.Renderable (schema : Schema) : Prop where
  records : ∀ record ∈ schema.records, record.Renderable
  enums : ∀ enum ∈ schema.enums, enum.Renderable
  types_distinct : (schema.records.map Record.name ++ schema.enums.map Enumeration.name).Nodup

namespace Schema

/-! ### Texts that trees derive -/

/-- A text that is scanned, whatever follows it, to tokens that are derived by a tree with a
property. -/
def Yields {Tree : Type} (text : String) (tokensOf : Tree → List Token) (P : Tree → Prop) : Prop :=
  ∃ lexemes : List Lexeme,
    (∀ {rest : List Char} {left : List Lexeme}, HasLexemes rest left →
      HasLexemes (text.toList ++ rest) (lexemes ++ left)) ∧
    ∀ tokens : List Token, tokens.map Token.lexeme = lexemes →
      ∃ tree, tokensOf tree = tokens ∧ P tree

namespace Yields

variable {Tree Tree' : Type} {text text' : String} {tokensOf : Tree → List Token}
  {tokensOf' : Tree' → List Token} {P : Tree → Prop} {Q : Tree' → Prop}

theorem map (h : Yields text tokensOf P) (f : Tree → Tree')
    (htokens : ∀ tree, tokensOf' (f tree) = tokensOf tree) (hP : ∀ tree, P tree → Q (f tree)) :
    Yields text tokensOf' Q := by
  obtain ⟨lexemes, hscan, hread⟩ := h
  refine ⟨lexemes, hscan, fun tokens hlexemes => ?_⟩
  obtain ⟨tree, rfl, htree⟩ := hread tokens hlexemes
  exact ⟨f tree, htokens tree, hP tree htree⟩

theorem append (h : Yields text tokensOf P) (h' : Yields text' tokensOf' Q) :
    Yields (text ++ text') (fun trees : Tree × Tree' => tokensOf trees.1 ++ tokensOf' trees.2)
      fun trees => P trees.1 ∧ Q trees.2 := by
  obtain ⟨lexemes, hscan, hread⟩ := h
  obtain ⟨lexemes', hscan', hread'⟩ := h'
  refine ⟨lexemes ++ lexemes', ?_, ?_⟩
  · intro rest left hrest
    rw [String.toList_append, List.append_assoc, List.append_assoc]
    exact hscan (hscan' hrest)
  · intro tokens hlexemes
    obtain ⟨first, second, rfl, hfirst, hsecond⟩ := List.map_eq_append_iff.1 hlexemes
    obtain ⟨tree, rfl, htree⟩ := hread first hfirst
    obtain ⟨tree', rfl, htree'⟩ := hread' second hsecond
    exact ⟨(tree, tree'), rfl, htree, htree'⟩

/-- Texts one after the other are read as a list of trees. -/
theorem join {Item : Type} {render : Item → String} {P : Item → Tree → Prop} {items : List Item}
    (h : ∀ item ∈ items, Yields (render item) tokensOf (P item)) :
    Yields (String.join (items.map render)) (fun trees => trees.flatMap tokensOf)
      (List.Forall₂ P items) := by
  induction items with
  | nil =>
      refine ⟨[], fun hrest => hrest, fun tokens htokens => ⟨[], ?_, .nil⟩⟩
      exact (List.map_eq_nil_iff.1 htokens).symm
  | cons item items ih =>
      rw [List.map_cons, String.join_cons]
      have hitem := h item List.mem_cons_self
      have hitems := ih fun other hother => h other (List.mem_cons_of_mem _ hother)
      exact (hitem.append hitems).map (fun trees => trees.1 :: trees.2)
        (fun _ => List.flatMap_cons) fun _ htrees => .cons htrees.1 htrees.2

end Yields

theorem text_of_lexeme {t : Token} {l : Lexeme} (h : t.lexeme = l) : t.text = l.2 :=
  congrArg Prod.snd h

theorem mem_of_lexeme {t : Token} {kind : TokenKind} {text : String} (h : t.lexeme = (kind, text)) :
    t.kind ∈ [kind] :=
  List.mem_singleton.2 (kind_of_lexeme h)

theorem head?_blank {c : Char} (hc : isWordPart c = false) (rest : List Char) :
    ∀ d ∈ (c :: rest).head?, isWordPart d = false := by
  rintro d hd
  cases hd
  exact hc

/-! ### Values, fields and requests -/

theorem yields_value {value : String} (h : IsIdentifier value) :
    Yields ("    " ++ value ++ "\n") (fun t : TokenOf [.identifier] => [t.val])
      (fun t => t.val.text = value) := by
  refine ⟨[(.identifier, value)], ?_, ?_⟩
  · intro rest left hrest
    have hline : HasLexemes ('\n' :: rest) left := hrest.blank (by decide)
    have hvalue := HasLexemes.word h.1 (head?_blank (by decide) _) hline
    rw [h.2] at hvalue
    simpa using hvalue.space.space.space.space
  · intro tokens htokens
    obtain ⟨t, rfl, ht⟩ := List.map_eq_singleton_iff.1 htokens
    exact ⟨⟨t, mem_of_lexeme ht⟩, rfl, text_of_lexeme ht⟩

/-- The lexemes of the mark of a persisted field. -/
def markLexemes (persisted : Bool) : List Lexeme :=
  if persisted then [(.atSign, "@"), (.identifier, "persisted")] else []

theorem hasLexemes_mark (persisted : Bool) {rest : List Char} {left : List Lexeme}
    (hrest : HasLexemes rest left) :
    HasLexemes ((if persisted then "    @persisted " else "    ").toList ++ rest)
      (markLexemes persisted ++ left) := by
  cases persisted with
  | false => simpa [markLexemes] using hrest.space.space.space.space
  | true =>
      have hword : isWord "persisted".toList = true := by decide
      have hkind : TokenKind.ofWord "persisted" = .identifier := by decide
      have hsign : TokenKind.ofSign? '@' = some .atSign := rfl
      have hmark := HasLexemes.sign hsign (.word hword (head?_blank (by decide) rest) hrest.space)
      simpa [markLexemes, hkind] using hmark.space.space.space.space

theorem exists_marks {persisted : Bool} {tokens : List Token}
    (htokens : tokens.map Token.lexeme = markLexemes persisted) :
    ∃ marks : List (TokenOf [.atSign] × WordToken "persisted"),
      (marks.flatMap fun mark => [mark.1.val, mark.2.val]) = tokens ∧
        (!marks.isEmpty) = persisted := by
  cases persisted with
  | false => exact ⟨[], (List.map_eq_nil_iff.1 htokens).symm, rfl⟩
  | true =>
      obtain ⟨sign, others, rfl, hsign, hothers⟩ := List.map_eq_cons_iff.1 htokens
      obtain ⟨word, rfl, hword⟩ := List.map_eq_singleton_iff.1 hothers
      exact ⟨[(⟨sign, mem_of_lexeme hsign⟩, ⟨word, kind_of_lexeme hword, text_of_lexeme hword⟩)],
        rfl, rfl⟩

theorem yields_field {field : Field} (h : field.Renderable) :
    Yields field.render WrittenField.tokens (·.field = field) := by
  obtain ⟨type, hproper, htext⟩ := h.type_proper
  refine ⟨markLexemes field.persisted ++
    (TokenKind.ofWord field.name, field.name) :: (.colon, ":") :: type.parts.map TypePart.lexeme,
    ?_, ?_⟩
  · intro rest left hrest
    have hline : HasLexemes ('\n' :: rest) left := hrest.blank (by decide)
    have htype := TypePart.hasLexemes_textOf hproper.names hproper.apart
      (head?_blank (by decide) rest) hline
    have hsign : TokenKind.ofSign? ':' = some .colon := rfl
    have hname := HasLexemes.word h.name_isWord (head?_blank (by decide) _)
      (HasLexemes.sign hsign htype.space)
    have hmark := hasLexemes_mark field.persisted hname
    change type.text = _ at htext
    simpa [Field.render, ← htext, DeclaredType.text] using hmark
  · intro tokens htokens
    obtain ⟨marks, others, rfl, hmarks, hothers⟩ := List.map_eq_append_iff.1 htokens
    obtain ⟨name, others, rfl, hname, hothers⟩ := List.map_eq_cons_iff.1 hothers
    obtain ⟨colon, typeTokens, rfl, hcolon, htype⟩ := List.map_eq_cons_iff.1 hothers
    obtain ⟨marks, rfl, hpersisted⟩ := exists_marks hmarks
    obtain ⟨written, rfl, hwritten⟩ := exists_writtenType hproper htype
    have hkind : name.kind ∈ [TokenKind.identifier, .record, .enum] := by
      rw [kind_of_lexeme hname]
      rcases TokenKind.ofWord_cases field.name with ⟨-, hword⟩ | ⟨-, hword⟩ | ⟨-, -, hword⟩ <;>
        simp [hword]
    refine ⟨⟨marks, ⟨name, hkind⟩, ⟨colon, mem_of_lexeme hcolon⟩, written⟩, rfl, ?_⟩
    simp only [WrittenField.field, hpersisted, hwritten, htext, text_of_lexeme hname]

/-- The lexemes of the mode of a request, with its parentheses. -/
def modeLexemes (mode : Option String) : List Lexeme :=
  mode.elim [] fun mode => [(.leftParen, "("), (.string, mode), (.rightParen, ")")]

theorem hasLexemes_request {quote : String → Char} {request : MirrorRequest}
    (h : ∀ mode ∈ request.mode, IsQuotable mode ∧ Quotes (quote mode) mode) {rest : List Char}
    {left : List Lexeme} (hrest : HasLexemes rest left) :
    HasLexemes ((request.render quote).toList ++ rest)
      ((.atSign, "@") :: (.identifier, "mirror") :: (modeLexemes request.mode ++ left)) := by
  have hword : isWord "mirror".toList = true := by decide
  have hkind : TokenKind.ofWord "mirror" = .identifier := by decide
  have hsign : TokenKind.ofSign? '@' = some .atSign := rfl
  have hline : HasLexemes ('\n' :: rest) left := hrest.blank (by decide)
  unfold MirrorRequest.render
  cases hmode : request.mode with
  | none =>
      have hmirror := HasLexemes.sign hsign (.word hword (head?_blank (by decide) rest) hline)
      simpa [modeLexemes, hkind] using hmirror
  | some mode =>
      obtain ⟨⟨hnewline, -⟩, hquote, hinside⟩ := h mode hmode
      have hopening : TokenKind.ofSign? '(' = some .leftParen := rfl
      have hclosing : TokenKind.ofSign? ')' = some .rightParen := rfl
      have hstring := HasLexemes.written (.string hquote hinside hnewline) (fun hquoted => by
        rcases hquote with hquote | hquote <;> rw [hquote] at hquoted <;> cases hquoted)
        (HasLexemes.sign hclosing hline)
      have hmirror := HasLexemes.sign hsign
        (.word hword (head?_blank (by decide) _) (.sign hopening hstring))
      simpa [modeLexemes, hkind] using hmirror

theorem yields_request {quote : String → Char} {request : MirrorRequest}
    (h : ∀ mode ∈ request.mode, IsQuotable mode ∧ Quotes (quote mode) mode) :
    Yields (request.render quote) WrittenRequest.tokens (·.request.mode = request.mode) := by
  refine ⟨(.atSign, "@") :: (.identifier, "mirror") :: modeLexemes request.mode,
    hasLexemes_request h, ?_⟩
  intro tokens htokens
  obtain ⟨sign, others, rfl, hsign, hothers⟩ := List.map_eq_cons_iff.1 htokens
  obtain ⟨name, others, rfl, hname, hothers⟩ := List.map_eq_cons_iff.1 hothers
  have hmode : ∃ mode : Option WrittenMode, mode.elim [] WrittenMode.tokens = others ∧
      mode.map (·.mode.val.text) = request.mode := by
    cases hmode : request.mode with
    | none =>
        rw [hmode] at hothers
        exact ⟨none, (List.map_eq_nil_iff.1 hothers).symm, rfl⟩
    | some mode =>
        rw [hmode] at hothers
        obtain ⟨opening, others, rfl, hopening, hothers⟩ := List.map_eq_cons_iff.1 hothers
        obtain ⟨string, others, rfl, hstring, hothers⟩ := List.map_eq_cons_iff.1 hothers
        obtain ⟨closing, rfl, hclosing⟩ := List.map_eq_singleton_iff.1 hothers
        have hkind : string.kind ∈ [TokenKind.identifier, .string] :=
          List.mem_cons_of_mem _ (mem_of_lexeme hstring)
        exact ⟨some ⟨⟨opening, mem_of_lexeme hopening⟩, ⟨string, hkind⟩,
          ⟨closing, mem_of_lexeme hclosing⟩⟩, rfl, congrArg some (text_of_lexeme hstring)⟩
  obtain ⟨mode, rfl, htext⟩ := hmode
  exact ⟨⟨⟨sign, mem_of_lexeme hsign⟩, ⟨name, kind_of_lexeme hname, text_of_lexeme hname⟩, mode⟩,
    rfl, htext⟩

/-! ### Declarations -/

/-- A block is read as its keyword, its name and what its lines are read as. -/
theorem yields_block (keyword : TokenKind) {name : String} {lines : List String} {Item : Type}
    {itemTokens : Item → List Token} {P : List Item → Prop}
    (hkeyword : isWord keyword.label.toList = true ∧ TokenKind.ofWord keyword.label = keyword)
    (hname : IsIdentifier name)
    (hlines : Yields (String.join lines) (fun items => items.flatMap itemTokens) P) :
    Yields (renderBlock keyword name lines) (WrittenBlock.tokens itemTokens)
      fun block : WrittenBlock keyword Item => block.name.val.text = name ∧ P block.items := by
  obtain ⟨lexemes, hscan, hread⟩ := hlines
  refine ⟨(keyword, keyword.label) :: (.identifier, name) :: (.leftBrace, "\x7b") ::
    (lexemes ++ [(.rightBrace, "\x7d")]), ?_, ?_⟩
  · intro rest left hrest
    have hopening : TokenKind.ofSign? '\x7b' = some .leftBrace := rfl
    have hclosing : TokenKind.ofSign? '\x7d' = some .rightBrace := rfl
    have hline : HasLexemes ('\n' :: rest) left := hrest.blank (by decide)
    have hitems := hscan (HasLexemes.sign hclosing hline)
    have hbody : HasLexemes ('\n' :: _) _ := hitems.blank (by decide)
    have hblock := HasLexemes.word hname.1 (head?_blank (by decide) _)
      (HasLexemes.sign hopening hbody).space
    have hhead := HasLexemes.word hkeyword.1 (head?_blank (by decide) _) hblock.space
    rw [hkeyword.2, hname.2] at hhead
    simpa [renderBlock] using hhead
  · intro tokens htokens
    obtain ⟨word, others, rfl, hword, hothers⟩ := List.map_eq_cons_iff.1 htokens
    obtain ⟨nameToken, others, rfl, hnameToken, hothers⟩ := List.map_eq_cons_iff.1 hothers
    obtain ⟨opening, others, rfl, hopening, hothers⟩ := List.map_eq_cons_iff.1 hothers
    obtain ⟨itemsTokens, last, rfl, hitems, hlast⟩ := List.map_eq_append_iff.1 hothers
    obtain ⟨closing, rfl, hclosing⟩ := List.map_eq_singleton_iff.1 hlast
    obtain ⟨items, rfl, hP⟩ := hread itemsTokens hitems
    exact ⟨⟨⟨word, mem_of_lexeme hword⟩, ⟨nameToken, mem_of_lexeme hnameToken⟩,
      ⟨opening, mem_of_lexeme hopening⟩, items, ⟨closing, mem_of_lexeme hclosing⟩⟩,
      rfl, text_of_lexeme hnameToken, hP⟩

theorem yields_record {quote : String → Char} {record : Record} (h : record.Renderable)
    (hquote : ∀ request ∈ record.mirrors, ∀ mode ∈ request.mode, Quotes (quote mode) mode) :
    Yields ((Declaration.record record).render quote) WrittenDeclaration.tokens fun d =>
      d.declaration.withoutLines = (Declaration.record record).withoutLines ∧ d.UsesFreeNames := by
  have hrequests := Yields.join fun request hrequest => yields_request fun mode hmode =>
    ⟨h.modes request hrequest mode hmode, hquote request hrequest mode hmode⟩
  have hfields := Yields.join fun field hfield => yields_field (h.fields field hfield)
  have hblock := yields_block .record (by decide) h.name.1 hfields
  refine (hrequests.append hblock).map (fun trees => .record trees.1 trees.2) (fun _ => rfl) ?_
  rintro ⟨requests, block⟩ ⟨hmodes, hname, hitems⟩
  dsimp only at hmodes hname hitems
  have hfields : block.items.map WrittenField.field = record.fields := by
    rw [← map_eq_map_of_forall₂ (f := id) hitems fun _ _ hitem => hitem.symm, List.map_id]
  have hmirrors : (requests.map WrittenRequest.request).map MirrorRequest.withoutLine =
      record.mirrors.map MirrorRequest.withoutLine := by
    rw [List.map_map]
    exact (map_eq_map_of_forall₂ hmodes fun _ _ hmode =>
      congrArg (MirrorRequest.mk · 0) hmode.symm).symm
  refine ⟨?_, ?_, ?_, ?_⟩
  · simp only [WrittenDeclaration.declaration, Declaration.withoutLines, Record.withoutLines, hname,
      hfields, hmirrors]
  · change FreeTypeName block.name.val.text
    exact hname.symm ▸ h.name.2
  · intro field hfield
    exact (h.fields _ (hfields ▸ List.mem_map_of_mem hfield)).name_free
  · have hdistinct := h.fields_distinct
    rwa [← hfields, List.map_map] at hdistinct

theorem yields_enum {quote : String → Char} {enum : Enumeration} (h : enum.Renderable) :
    Yields ((Declaration.enum enum).render quote) WrittenDeclaration.tokens fun d =>
      d.declaration.withoutLines = (Declaration.enum enum).withoutLines ∧ d.UsesFreeNames := by
  have hvalues := Yields.join fun value hvalue => yields_value (h.values value hvalue)
  have hblock := yields_block .enum (by decide) h.name.1 hvalues
  refine hblock.map .enum (fun _ => rfl) ?_
  rintro block ⟨hname, hitems⟩
  have htexts : block.items.map (·.val.text) = enum.values := by
    rw [← map_eq_map_of_forall₂ (f := id) hitems fun _ _ hitem => hitem.symm, List.map_id]
  refine ⟨?_, ?_, fun _ hfield => absurd hfield List.not_mem_nil, List.nodup_nil⟩
  · simp only [WrittenDeclaration.declaration, Declaration.withoutLines, hname, htexts]
  · change FreeTypeName block.name.val.text
    exact hname.symm ▸ h.name.2

/-! ### Schemas -/

theorem ofDeclarations_declarations (schema : Schema) :
    ofDeclarations schema.declarations = schema := by
  simp [ofDeclarations, declarations, List.filterMap_append, List.filterMap_map,
    Function.comp_def, Declaration.record?, Declaration.enum?]

theorem withoutLines_ofDeclarations (declarations : List Declaration) :
    (ofDeclarations declarations).withoutLines =
      ofDeclarations (declarations.map Declaration.withoutLines) := by
  simp only [ofDeclarations, withoutLines, List.map_filterMap, List.filterMap_map]
  congr 1
  · apply List.filterMap_congr
    rintro (record | enum) - <;> rfl
  · apply List.filterMap_congr
    rintro (record | enum) - <;> rfl

theorem map_name_withoutLines (declarations : List Declaration) :
    (declarations.map Declaration.withoutLines).map Declaration.name =
      declarations.map Declaration.name := by
  rw [List.map_map]
  apply List.map_congr_left
  rintro (record | enum) - <;> rfl

theorem map_name_declarations (schema : Schema) :
    schema.declarations.map Declaration.name =
      schema.records.map Record.name ++ schema.enums.map Enumeration.name := by
  rw [declarations, List.map_append, List.map_map, List.map_map]
  rfl

theorem yields_render {schema : Schema} {quote : String → Char} (h : schema.Renderable)
    (hquote : ∀ record ∈ schema.records, ∀ request ∈ record.mirrors, ∀ mode ∈ request.mode,
      Quotes (quote mode) mode) :
    Yields (schema.render quote) fileTokens
      (List.Forall₂ (fun declaration d => d.declaration.withoutLines = declaration.withoutLines ∧
        d.UsesFreeNames) schema.declarations) := by
  apply Yields.join
  intro declaration hdeclaration
  rcases List.mem_append.1 hdeclaration with hmem | hmem
  · obtain ⟨record, hrecord, rfl⟩ := List.mem_map.1 hmem
    exact yields_record (h.records record hrecord) (hquote record hrecord)
  · obtain ⟨enum, henum, rfl⟩ := List.mem_map.1 hmem
    exact yields_enum (h.enums enum henum)

/-- A schema that is rendered is read back, but for the lines that requests stand in. -/
theorem parse_undoes_render {schema : Schema} {quote : String → Char} (h : schema.Renderable)
    (hquote : ∀ record ∈ schema.records, ∀ request ∈ record.mirrors, ∀ mode ∈ request.mode,
      Quotes (quote mode) mode) :
    (parse (schema.render quote)).map withoutLines = .ok schema.withoutLines := by
  obtain ⟨lexemes, hscan, hread⟩ := yields_render h hquote
  have htext : HasLexemes (schema.render quote).toList lexemes := by
    simpa using hscan .nil
  obtain ⟨stream, hstream, hlexemes⟩ := hasLexemes_iff_scan.1 htext
  obtain ⟨file, htokens, hfile⟩ := hread stream.tokens hlexemes
  have hdeclarations : (file.map WrittenDeclaration.declaration).map Declaration.withoutLines =
      schema.declarations.map Declaration.withoutLines := by
    rw [List.map_map]
    exact (map_eq_map_of_forall₂ hfile fun _ _ hd => hd.1.symm).symm
  have hfree : ∀ d ∈ file, d.UsesFreeNames := by
    intro d hd
    obtain ⟨-, -, -, hfree⟩ := exists_of_forall₂ hfile hd
    exact hfree
  have hnames : UsesFreeNames file := by
    refine ⟨hfree, ?_⟩
    have hdistinct := h.types_distinct
    rw [← map_name_declarations, ← map_name_withoutLines, ← hdeclarations, map_name_withoutLines,
      List.map_map] at hdistinct
    rwa [List.map_congr_left fun d _ => d.declaration_name.symm]
  have hparse : parse (schema.render quote) = .ok (ofFile file) :=
    parse_eq_ok_iff.2 ⟨stream, hstream, ofTokens_eq_ok_iff.2 ⟨file, htokens, hnames, rfl⟩⟩
  rw [hparse, Except.map, ofFile, withoutLines_ofDeclarations, hdeclarations,
    ← withoutLines_ofDeclarations, ofDeclarations_declarations]

/-- A schema with a keyword for a field name, a group inside a group, and a mode that holds a
quote. -/
def archive : Schema where
  records := [⟨"Box", [⟨"record", "Map<Key, List<Item?>>?", true⟩, ⟨"weight", "Int", false⟩],
    [⟨none, 4⟩, ⟨some "keeper\x27s", 9⟩]⟩]
  enums := [⟨"Key", ["low", "high"]⟩]

theorem archive_typeName {name : String} (hname : name ∈ ["Box", "Key"]) : IsTypeName name := by
  have hchecked : IsIdentifier name ∧ name ∉ reservedWords ∧ name ∉ importedNames ∧
      Primitive.ofName? name = none ∧ Wrapper.ofName? name = none := by
    revert name
    decide
  obtain ⟨hidentifier, hreserved, himported, hprimitive, hwrapper⟩ := hchecked
  exact ⟨hidentifier, hreserved, himported, Primitive.ofName?_eq_none_iff.1 hprimitive,
    Wrapper.ofName?_eq_none_iff.1 hwrapper⟩

theorem archive_record_proper : DeclaredType.Proper ⟨"Map",
    some [.name "Key", .comma, .name "List", .opening, .name "Item", .mark, .closing], 1⟩ where
  names word hword := by
    have hwords : ∀ word ∈ ["Map", "Key", "List", "Item"], IsIdentifier word := by decide
    apply hwords
    simpa [DeclaredType.parts, DeclaredType.groupParts] using hword
  apart := by decide
  balanced inside hinside := by
    cases hinside
    have hitem : TypePart.Balanced [.name "Item", .mark] :=
      .plain (by decide) (by decide) (.plain (by decide) (by decide) .nil)
    exact .plain (by decide) (by decide) (.plain (by decide) (by decide)
      (.plain (by decide) (by decide) (.nest hitem .nil)))

theorem archive_weight_proper : DeclaredType.Proper ⟨"Int", none, 0⟩ where
  names word hword := by
    have hwords : ∀ word ∈ ["Int"], IsIdentifier word := by decide
    apply hwords
    simpa [DeclaredType.parts, DeclaredType.groupParts] using hword
  apart := by decide
  balanced inside hinside := nomatch hinside

theorem archive_renderable : archive.Renderable := by
  refine ⟨List.forall_mem_singleton.2 ⟨archive_typeName (by decide), ?_, by decide, ?_⟩,
    List.forall_mem_singleton.2 ⟨archive_typeName (by decide), by decide⟩, by decide⟩
  · simp only [List.forall_mem_cons]
    exact ⟨⟨by decide, ⟨by decide, by decide⟩, _, archive_record_proper, by decide⟩,
      ⟨by decide, ⟨by decide, by decide⟩, _, archive_weight_proper, by decide⟩,
      fun _ h => nomatch h⟩
  · simp [IsQuotable]

theorem parse_undoes_render_archive :
    (parse (archive.render fun mode => quoteFor mode.toList)).map withoutLines =
      .ok archive.withoutLines :=
  parse_undoes_render archive_renderable fun record hrecord request hrequest mode hmode =>
    quotes_quoteFor ((archive_renderable.records record hrecord).modes request hrequest mode hmode)

end Schema

end RecordMirror
