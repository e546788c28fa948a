import RecordMirror.Proofs.Schema.TypeText
/-!
The grammar of schemas, as trees over the tokens of a source.  A tree derives a list of tokens and
writes a schema; the same tokens are derived by one tree at most.

* file := declaration*
* declaration := request* record | enumeration
* request := `@` `mirror` [`(` (identifier | string) `)`]
* record := `record` identifier `{` field* `}`
* enumeration := `enum` identifier `{` identifier* `}`
* field := (`@` `persisted`)* (identifier | `record` | `enum`) `:` type
* type := identifier [group] `?`*

A group stands between angle brackets and ends with the bracket that closes its first one.
-/

namespace RecordMirror.Schema

/-- A token of one of some kinds. -/
abbrev TokenOf (kinds : List TokenKind) : Type :=
  { t : Token // t.kind ∈ kinds }

/-- A token that is a certain identifier. -/
abbrev WordToken (word : String) : Type :=
  { t : Token // t.kind = .identifier ∧ t.text = word }

/-- The kind of the token that some tokens begin with. -/
def headKind : List Token → TokenKind
  | [] => .eof
  | t :: _ => t.kind

/-! ### Bracket groups -/

/-- What a token adds to the number of open brackets. -/
def bracketTurn (t : Token) : Int :=
  match t.kind with
  | .leftAngle => 1
  | .rightAngle => -1
  | _ => 0

/-- How many more brackets some tokens open than they close. -/
def bracketBalance : List Token → Int
  | [] => 0
  | t :: tokens => bracketTurn t + bracketBalance tokens

@[simp] theorem bracketBalance_nil : bracketBalance [] = 0 := rfl

@[simp] theorem bracketBalance_cons (t : Token) (tokens : List Token) :
    bracketBalance (t :: tokens) = bracketTurn t + bracketBalance tokens := rfl

/-- A group between angle brackets.  Its first bracket stays open up to its last token. -/
@[ext] structure BracketGroup where
  tokens : List Token
  kinds : TypeTokens tokens
  opens : headKind tokens = .leftAngle
  balanced : bracketBalance tokens = 0
  stays_open : ∀ read more, tokens = read ++ more → read ≠ [] → more ≠ [] →
    0 < bracketBalance read

/-! ### Trees -/

/-- A declared type as it is written. -/
@[ext] structure WrittenType where
  name : TokenOf [.identifier]
  group : Option BracketGroup
  marks : List (TokenOf [.question])

/-- A field as it is written.  Each of its marks is an at sign and a word. -/
@[ext] structure WrittenField where
  marks : List (TokenOf [.atSign] × WordToken "persisted")
  name : TokenOf [.identifier, .record, .enum]
  colon : TokenOf [.colon]
  type : WrittenType

/-- The mode of a mirror request as it is written. -/
@[ext] structure WrittenMode where
  opening : TokenOf [.leftParen]
  mode : TokenOf [.identifier, .string]
  closing : TokenOf [.rightParen]

/-- A mirror request as it is written. -/
@[ext] structure WrittenRequest where
  sign : TokenOf [.atSign]
  name : WordToken "mirror"
  mode : Option WrittenMode

/-- A block that declares a name, as it is written: a keyword, the name, and items in braces. -/
@[ext] structure WrittenBlock (keyword : TokenKind) (Item : Type) where
  word : TokenOf [keyword]
  name : TokenOf [.identifier]
  opening : TokenOf [.leftBrace]
  items : List Item
  closing : TokenOf [.rightBrace]

/-- A declaration as it is written. -/
inductive WrittenDeclaration
  | record (requests : List WrittenRequest) (block : WrittenBlock .record WrittenField)
  | enum (block : WrittenBlock .enum (TokenOf [.identifier]))

/-! ### The tokens a tree derives -/

namespace WrittenType

/-- The tokens of the group of a type, which are none without one. -/
def groupTokens (type : WrittenType) : List Token :=
  type.group.elim [] BracketGroup.tokens

def tokens (type : WrittenType) : List Token :=
  type.name.val :: (type.groupTokens ++ type.marks.flatMap fun mark => [mark.val])

end WrittenType

def WrittenField.tokens (field : WrittenField) : List Token :=
  (field.marks.flatMap fun mark => [mark.1.val, mark.2.val]) ++
    field.name.val :: field.colon.val :: field.type.tokens

def WrittenMode.tokens (mode : WrittenMode) : List Token :=
  [mode.opening.val, mode.mode.val, mode.closing.val]

def WrittenRequest.tokens (request : WrittenRequest) : List Token :=
  request.sign.val :: request.name.val :: request.mode.elim [] WrittenMode.tokens

def WrittenBlock.tokens {keyword : TokenKind} {Item : Type} (itemTokens : Item → List Token)
    (block : WrittenBlock keyword Item) : List Token :=
  block.word.val :: block.name.val :: block.opening.val ::
    (block.items.flatMap itemTokens ++ [block.closing.val])

namespace WrittenDeclaration

def tokens : WrittenDeclaration → List Token
  | record requests block =>
    requests.flatMap WrittenRequest.tokens ++ block.tokens WrittenField.tokens
  | enum block => block.tokens fun value => [value.val]

/-- The fields of a declaration, which are none for an enumeration. -/
def fields : WrittenDeclaration → List WrittenField
  | record _ block => block.items
  | enum _ => []

/-- The name that a declaration introduces. -/
def name : WrittenDeclaration → String
  | record _ block => block.name.val.text
  | enum block => block.name.val.text

end WrittenDeclaration

/-! ### The schema a tree writes -/

/-- The field that is written.  It is persisted if it has a mark. -/
def WrittenField.field (field : WrittenField) : Field :=
  ⟨field.name.val.text, typeText field.type.tokens, !field.marks.isEmpty⟩

/-- The request that is written.  It stands in the line of its at sign. -/
def WrittenRequest.request (request : WrittenRequest) : MirrorRequest :=
  ⟨request.mode.map (·.mode.val.text), request.sign.val.position.line⟩

/-- The declaration that is written. -/
def WrittenDeclaration.declaration : WrittenDeclaration → Declaration
  | record requests block =>
    .record ⟨block.name.val.text, block.items.map WrittenField.field,
      requests.map WrittenRequest.request⟩
  | enum block => .enum ⟨block.name.val.text, block.items.map (·.val.text)⟩

/-- The tokens that a file derives. -/
def fileTokens (file : List WrittenDeclaration) : List Token :=
  file.flatMap WrittenDeclaration.tokens

/-- The schema that a file writes. -/
def ofFile (file : List WrittenDeclaration) : Schema :=
  ofDeclarations (file.map WrittenDeclaration.declaration)

/-! ### Names -/

/-- A name that a declaration can introduce: it is no reserved word, is not imported by generated
modules, and no built-in type has it. -/
structure FreeTypeName (name : String) : Prop where
  not_reserved : name ∉ reservedWords
  not_imported : name ∉ importedNames
  not_primitive : ∀ p : Primitive, p.name ≠ name
  not_wrapper : ∀ w : Wrapper, w.name ≠ name

/-- A name that a field can have: it is no reserved word, and no method of a mirror has it. -/
structure FreeFieldName (name : String) : Prop where
  not_reserved : name ∉ reservedWords
  not_method : name ∉ mirrorMethods

/-- The names in a declaration can be used there. -/
structure WrittenDeclaration.UsesFreeNames (d : WrittenDeclaration) : Prop where
  type_free : FreeTypeName d.name
  fields_free : ∀ field ∈ d.fields, FreeFieldName field.name.val.text
  fields_distinct : (d.fields.map (·.name.val.text)).Nodup

/-- The names in a file can be used there, and no two declarations introduce the same name. -/
structure UsesFreeNames (file : List WrittenDeclaration) : Prop where
  declarations : ∀ d ∈ file, d.UsesFreeNames
  types_distinct : (file.map WrittenDeclaration.name).Nodup

/-! ### Where trees begin -/

/-- The kinds of token that begin a field. -/
def fieldStarts : List TokenKind :=
  [.atSign, .identifier, .record, .enum]

/-- The kinds of token that begin a declaration. -/
def declarationStarts : List TokenKind :=
  [.atSign, .record, .enum]

theorem headKind_token {kinds : List TokenKind} (t : TokenOf kinds) (rest : List Token) :
    headKind (t.val :: rest) ∈ kinds :=
  t.property

theorem BracketGroup.headKind_append (group : BracketGroup) (rest : List Token) :
    headKind (group.tokens ++ rest) = .leftAngle := by
  have hopens := group.opens
  cases htokens : group.tokens with
  | nil =>
      rw [htokens] at hopens
      cases hopens
  | cons t tokens =>
      rw [htokens] at hopens
      exact hopens

theorem WrittenField.headKind_append (field : WrittenField) (rest : List Token) :
    headKind (field.tokens ++ rest) ∈ fieldStarts := by
  obtain ⟨marks, ⟨name, hname⟩, colon, type⟩ := field
  cases marks with
  | nil =>
      change name.kind ∈ fieldStarts
      exact List.mem_cons_of_mem _ hname
  | cons mark marks =>
      change mark.1.val.kind ∈ fieldStarts
      rw [List.mem_singleton.1 mark.1.property]
      exact List.mem_cons_self

theorem WrittenRequest.headKind_append (request : WrittenRequest) (rest : List Token) :
    headKind (request.tokens ++ rest) ∈ [TokenKind.atSign] :=
  request.sign.property

theorem WrittenBlock.headKind_append {keyword : TokenKind} {Item : Type}
    (block : WrittenBlock keyword Item) (itemTokens : Item → List Token) (rest : List Token) :
    headKind (block.tokens itemTokens ++ rest) = keyword :=
  List.mem_singleton.1 block.word.property

theorem headKind_requests_append (requests : List WrittenRequest) {rest : List Token}
    (hrest : headKind rest = .record) :
    headKind (requests.flatMap WrittenRequest.tokens ++ rest) ∈ [TokenKind.atSign, .record] := by
  cases requests with
  | nil =>
      rw [List.flatMap_nil, List.nil_append, hrest]
      decide
  | cons request requests =>
      rw [List.flatMap_cons, List.append_assoc]
      have hhead := List.mem_singleton.1 (request.headKind_append
        (requests.flatMap WrittenRequest.tokens ++ rest))
      rw [hhead]
      decide

theorem WrittenDeclaration.headKind_append (d : WrittenDeclaration) (rest : List Token) :
    headKind (d.tokens ++ rest) ∈ declarationStarts := by
  cases d with
  | record requests block =>
      rw [tokens, List.append_assoc]
      have hhead := headKind_requests_append requests
        (block.headKind_append WrittenField.tokens rest)
      rcases List.mem_cons.1 hhead with h | h
      · rw [h]
        decide
      · rw [List.mem_singleton.1 h]
        decide
  | enum block =>
      rw [tokens, block.headKind_append]
      decide

/-! ### Uniqueness -/

section

variable {left left' : List Token}

/-- A list of items is determined by its tokens where an item is, and where what follows begins no
further item. -/
theorem flatMap_append_inj {Item : Type} {itemTokens : Item → List Token}
    (starts follows : List TokenKind)
    (hstarts : ∀ item rest, headKind (itemTokens item ++ rest) ∈ starts)
    (hitem : ∀ {item item' : Item} {rest rest' : List Token},
      headKind rest ∈ starts ++ follows → headKind rest' ∈ starts ++ follows →
      itemTokens item ++ rest = itemTokens item' ++ rest' → item = item' ∧ rest = rest')
    (hapart : ∀ kind ∈ follows, kind ∉ starts)
    (hleft : headKind left ∈ follows) (hleft' : headKind left' ∈ follows)
    {items items' : List Item}
    (h : items.flatMap itemTokens ++ left = items'.flatMap itemTokens ++ left') :
    items = items' ∧ left = left' := by
  have begins : ∀ items : List Item, ∀ {rest : List Token}, headKind rest ∈ follows →
      headKind (items.flatMap itemTokens ++ rest) ∈ starts ++ follows := by
    intro items rest hrest
    cases items with
    | nil => exact List.mem_append_right _ hrest
    | cons item items =>
        rw [List.flatMap_cons, List.append_assoc]
        exact List.mem_append_left _ (hstarts item _)
  induction items generalizing items' with
  | nil =>
      cases items' with
      | nil => exact ⟨rfl, h⟩
      | cons item' items' =>
          rw [List.flatMap_cons, List.append_assoc, List.flatMap_nil, List.nil_append] at h
          exact absurd (h ▸ hstarts item' _) (hapart _ hleft)
  | cons item items ih =>
      cases items' with
      | nil =>
          rw [List.flatMap_cons, List.append_assoc, List.flatMap_nil, List.nil_append] at h
          exact absurd (h.symm ▸ hstarts item _) (hapart _ hleft')
      | cons item' items' =>
          simp only [List.flatMap_cons, List.append_assoc] at h
          obtain ⟨rfl, hrest⟩ := hitem (begins items hleft) (begins items' hleft') h
          obtain ⟨rfl, hend⟩ := ih hrest
          exact ⟨rfl, hend⟩

theorem token_append_inj {kinds : List TokenKind} {t t' : TokenOf kinds}
    (h : [t.val] ++ left = [t'.val] ++ left') : t = t' ∧ left = left' := by
  obtain ⟨htoken, hrest⟩ := List.cons.inj h
  exact ⟨Subtype.ext htoken, hrest⟩

theorem BracketGroup.tokens_ne_nil (group : BracketGroup) : group.tokens ≠ [] := by
  intro hnil
  have hopens := group.opens
  rw [hnil] at hopens
  cases hopens

/-- A group that begins with another one is that one, which else would stay open where it ends. -/
theorem BracketGroup.eq_of_tokens_append {group longer : BracketGroup} {more : List Token}
    (h : longer.tokens = group.tokens ++ more) : longer = group ∧ more = [] := by
  have hmore : more = [] := by
    by_contra hne
    have hopen := longer.stays_open _ _ h group.tokens_ne_nil hne
    rw [group.balanced] at hopen
    exact Int.lt_irrefl 0 hopen
  rw [hmore, List.append_nil] at h
  exact ⟨BracketGroup.ext h, hmore⟩

theorem BracketGroup.tokens_append_inj {group group' : BracketGroup}
    (h : group.tokens ++ left = group'.tokens ++ left') : group = group' ∧ left = left' := by
  rcases List.append_eq_append_iff.1 h with ⟨more, hlonger, hleft⟩ | ⟨more, hlonger, hleft⟩
  · obtain ⟨rfl, rfl⟩ := BracketGroup.eq_of_tokens_append hlonger
    exact ⟨rfl, hleft⟩
  · obtain ⟨rfl, rfl⟩ := BracketGroup.eq_of_tokens_append hlonger
    exact ⟨rfl, hleft.symm⟩

/-- The kinds of token that follow a field. -/
def fieldFollows : List TokenKind :=
  .rightBrace :: fieldStarts

theorem headKind_marks_append (marks : List (TokenOf [.question]))
    (hleft : headKind left ∈ fieldFollows) :
    headKind ((marks.flatMap fun mark => [mark.val]) ++ left) ∈
      TokenKind.question :: fieldFollows := by
  cases marks with
  | nil => exact List.mem_cons_of_mem _ hleft
  | cons mark marks =>
      change mark.val.kind ∈ _
      rw [List.mem_singleton.1 mark.property]
      exact List.mem_cons_self

theorem WrittenType.tokens_append_inj {type type' : WrittenType}
    (hleft : headKind left ∈ fieldFollows) (hleft' : headKind left' ∈ fieldFollows)
    (h : type.tokens ++ left = type'.tokens ++ left') : type = type' ∧ left = left' := by
  have marks_inj : ∀ {marks marks' : List (TokenOf [.question])},
      (marks.flatMap fun mark => [mark.val]) ++ left =
        (marks'.flatMap fun mark => [mark.val]) ++ left' → marks = marks' ∧ left = left' :=
    flatMap_append_inj [.question] fieldFollows (fun mark _ => mark.property)
      (fun _ _ hrest => token_append_inj hrest) (by decide) hleft hleft'
  have opens_apart : ∀ (marks : List (TokenOf [.question])) (group : BracketGroup)
      {l rest : List Token}, headKind l ∈ fieldFollows →
      (marks.flatMap fun mark => [mark.val]) ++ l ≠ group.tokens ++ rest := by
    intro marks group l rest hl heq
    have hopening := ne_of_mem_of_not_mem (headKind_marks_append marks hl)
      (by decide : TokenKind.leftAngle ∉ _)
    exact hopening (by rw [heq, group.headKind_append])
  obtain ⟨name, group, marks⟩ := type
  obtain ⟨name', group', marks'⟩ := type'
  simp only [tokens, groupTokens, List.cons_append, List.append_assoc, List.cons.injEq] at h
  obtain ⟨hname, h⟩ := h
  obtain rfl : name = name' := Subtype.ext hname
  cases group with
  | none =>
      cases group' with
      | none =>
          obtain ⟨rfl, hrest⟩ := marks_inj h
          exact ⟨rfl, hrest⟩
      | some group' => exact absurd h (opens_apart marks group' hleft)
  | some group =>
      cases group' with
      | none => exact absurd h.symm (opens_apart marks' group hleft')
      | some group' =>
          obtain ⟨rfl, hmarks⟩ := BracketGroup.tokens_append_inj h
          obtain ⟨rfl, hrest⟩ := marks_inj hmarks
          exact ⟨rfl, hrest⟩

theorem WrittenField.tokens_append_inj {field field' : WrittenField}
    (hleft : headKind left ∈ fieldFollows) (hleft' : headKind left' ∈ fieldFollows)
    (h : field.tokens ++ left = field'.tokens ++ left') : field = field' ∧ left = left' := by
  obtain ⟨marks, name, colon, type⟩ := field
  obtain ⟨marks', name', colon', type'⟩ := field'
  simp only [tokens, List.append_assoc, List.cons_append] at h
  have hmark : ∀ {mark mark' : TokenOf [.atSign] × WordToken "persisted"} {rest rest' : List Token},
      [mark.1.val, mark.2.val] ++ rest = [mark'.1.val, mark'.2.val] ++ rest' →
        mark = mark' ∧ rest = rest' := by
    intro mark mark' rest rest' heq
    obtain ⟨hsign, heq⟩ := List.cons.inj heq
    obtain ⟨hword, hrest⟩ := List.cons.inj heq
    exact ⟨Prod.ext (Subtype.ext hsign) (Subtype.ext hword), hrest⟩
  obtain ⟨rfl, hrest⟩ := flatMap_append_inj [.atSign] [.identifier, .record, .enum]
    (fun mark _ => mark.1.property)
    (fun _ _ heq => hmark heq) (by decide) (headKind_token name _) (headKind_token name' _) h
  simp only [List.cons.injEq] at hrest
  obtain ⟨hname, hcolon, htype⟩ := hrest
  obtain rfl : name = name' := Subtype.ext hname
  obtain rfl : colon = colon' := Subtype.ext hcolon
  obtain ⟨rfl, hrest⟩ := WrittenType.tokens_append_inj hleft hleft' htype
  exact ⟨rfl, hrest⟩

theorem WrittenMode.tokens_append_inj {mode mode' : WrittenMode}
    (h : mode.tokens ++ left = mode'.tokens ++ left') : mode = mode' ∧ left = left' := by
  simp only [tokens, List.cons_append, List.nil_append, List.cons.injEq] at h
  obtain ⟨hopening, hmode, hclosing, hrest⟩ := h
  exact ⟨WrittenMode.ext (Subtype.ext hopening) (Subtype.ext hmode) (Subtype.ext hclosing), hrest⟩

theorem WrittenRequest.tokens_append_inj {request request' : WrittenRequest}
    (hleft : headKind left ≠ .leftParen) (hleft' : headKind left' ≠ .leftParen)
    (h : request.tokens ++ left = request'.tokens ++ left') :
    request = request' ∧ left = left' := by
  obtain ⟨sign, name, mode⟩ := request
  obtain ⟨sign', name', mode'⟩ := request'
  simp only [tokens, List.cons_append, List.cons.injEq] at h
  obtain ⟨hsign, hname, h⟩ := h
  obtain rfl : sign = sign' := Subtype.ext hsign
  obtain rfl : name = name' := Subtype.ext hname
  have hopening : ∀ (mode : WrittenMode) (rest : List Token),
      headKind (mode.tokens ++ rest) = .leftParen :=
    fun mode _ => List.mem_singleton.1 mode.opening.property
  cases mode with
  | none =>
      cases mode' with
      | none => exact ⟨rfl, h⟩
      | some mode' =>
          have hhead := hopening mode' left'
          change left = mode'.tokens ++ left' at h
          exact absurd (h ▸ hhead) hleft
  | some mode =>
      cases mode' with
      | none =>
          have hhead := hopening mode left
          change mode.tokens ++ left = left' at h
          exact absurd (h ▸ hhead) hleft'
      | some mode' =>
          obtain ⟨rfl, hrest⟩ := WrittenMode.tokens_append_inj h
          exact ⟨rfl, hrest⟩

/-- A block is determined by its tokens if its items are, up to the closing brace. -/
theorem WrittenBlock.tokens_append_inj {keyword : TokenKind} {Item : Type}
    {itemTokens : Item → List Token} {block block' : WrittenBlock keyword Item}
    (hitems : ∀ {items items' : List Item} {rest rest' : List Token},
      headKind rest ∈ [TokenKind.rightBrace] → headKind rest' ∈ [TokenKind.rightBrace] →
      items.flatMap itemTokens ++ rest = items'.flatMap itemTokens ++ rest' →
      items = items' ∧ rest = rest')
    (h : block.tokens itemTokens ++ left = block'.tokens itemTokens ++ left') :
    block = block' ∧ left = left' := by
  obtain ⟨word, name, opening, items, closing⟩ := block
  obtain ⟨word', name', opening', items', closing'⟩ := block'
  simp only [tokens, List.cons_append, List.append_assoc, List.nil_append, List.cons.injEq] at h
  obtain ⟨hword, hname, hopening, h⟩ := h
  obtain rfl : word = word' := Subtype.ext hword
  obtain rfl : name = name' := Subtype.ext hname
  obtain rfl : opening = opening' := Subtype.ext hopening
  obtain ⟨rfl, hend⟩ := hitems (headKind_token closing _) (headKind_token closing' _) h
  obtain ⟨rfl, hleft⟩ := token_append_inj hend
  exact ⟨rfl, hleft⟩

theorem requests_append_inj {requests requests' : List WrittenRequest}
    (hleft : headKind left = .record) (hleft' : headKind left' = .record)
    (h : requests.flatMap WrittenRequest.tokens ++ left =
      requests'.flatMap WrittenRequest.tokens ++ left') :
    requests = requests' ∧ left = left' := by
  have hparen : ∀ {rest : List Token}, headKind rest ∈ [TokenKind.atSign, .record] →
      headKind rest ≠ .leftParen :=
    fun hrest => ne_of_mem_of_not_mem hrest (by decide)
  exact flatMap_append_inj [.atSign] [.record] WrittenRequest.headKind_append
    (fun hrest hrest' => WrittenRequest.tokens_append_inj (hparen hrest) (hparen hrest'))
    (by decide) (by simp [hleft]) (by simp [hleft']) h

theorem fields_append_inj {fields fields' : List WrittenField}
    (hleft : headKind left ∈ [TokenKind.rightBrace])
    (hleft' : headKind left' ∈ [TokenKind.rightBrace])
    (h : fields.flatMap WrittenField.tokens ++ left =
      fields'.flatMap WrittenField.tokens ++ left') :
    fields = fields' ∧ left = left' := by
  have hfollows : ∀ {rest : List Token}, headKind rest ∈ fieldStarts ++ [TokenKind.rightBrace] →
      headKind rest ∈ fieldFollows := by
    intro rest hrest
    rwa [fieldFollows, ← List.singleton_append, List.mem_append, or_comm, ← List.mem_append]
  exact flatMap_append_inj fieldStarts [.rightBrace] WrittenField.headKind_append
    (fun hrest hrest' => WrittenField.tokens_append_inj (hfollows hrest) (hfollows hrest'))
    (by decide) hleft hleft' h

theorem values_append_inj {values values' : List (TokenOf [.identifier])}
    (hleft : headKind left ∈ [TokenKind.rightBrace])
    (hleft' : headKind left' ∈ [TokenKind.rightBrace])
    (h : (values.flatMap fun value => [value.val]) ++ left =
      (values'.flatMap fun value => [value.val]) ++ left') :
    values = values' ∧ left = left' :=
  flatMap_append_inj [.identifier] [.rightBrace] headKind_token (fun _ _ => token_append_inj)
    (by decide) hleft hleft' h

/-- A record with its requests does not begin as an enumeration does. -/
theorem requests_ne_enum {requests : List WrittenRequest} {rest rest' : List Token}
    (hrest : headKind rest = .record) (hrest' : headKind rest' = .enum) :
    requests.flatMap WrittenRequest.tokens ++ rest ≠ rest' := by
  intro heq
  have hhead := ne_of_mem_of_not_mem (headKind_requests_append requests hrest)
    (by decide : TokenKind.enum ∉ _)
  exact hhead (by rw [heq, hrest'])

theorem WrittenDeclaration.tokens_append_inj {d d' : WrittenDeclaration}
    (h : d.tokens ++ left = d'.tokens ++ left') : d = d' ∧ left = left' := by
  cases d with
  | record requests block =>
      rw [tokens, List.append_assoc] at h
      cases d' with
      | record requests' block' =>
          rw [tokens, List.append_assoc] at h
          obtain ⟨rfl, hblock⟩ := requests_append_inj (block.headKind_append _ _)
            (block'.headKind_append _ _) h
          obtain ⟨rfl, hleft⟩ := WrittenBlock.tokens_append_inj fields_append_inj hblock
          exact ⟨rfl, hleft⟩
      | enum block' =>
          exact absurd h (requests_ne_enum (block.headKind_append _ _) (block'.headKind_append _ _))
  | enum block =>
      cases d' with
      | record requests' block' =>
          rw [tokens, tokens, List.append_assoc] at h
          exact absurd h.symm
            (requests_ne_enum (block'.headKind_append _ _) (block.headKind_append _ _))
      | enum block' =>
          obtain ⟨rfl, hleft⟩ := WrittenBlock.tokens_append_inj values_append_inj h
          exact ⟨rfl, hleft⟩

/-- The derivation of a list of tokens is unique. -/
theorem fileTokens_injective {file file' : List WrittenDeclaration}
    (h : fileTokens file = fileTokens file') : file = file' := by
  have happend : fileTokens file ++ [] = fileTokens file' ++ [] := by rw [h]
  exact (flatMap_append_inj declarationStarts [.eof] WrittenDeclaration.headKind_append
    (fun _ _ => WrittenDeclaration.tokens_append_inj) (by decide) (by decide) (by decide) happend).1

end

end RecordMirror.Schema
