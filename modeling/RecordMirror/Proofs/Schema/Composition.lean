import RecordMirror.Proofs.Schema.Relocation
/-!
Sources one after the other.  A declaration leaves nothing to the next ones but its name, so two
sources with a line end between them declare what each declares by itself, unless a name is declared
in both.  Then the first declaration of the second source that uses such a name is refused.
-/

namespace RecordMirror.Schema

/-- The names of the types that a schema declares. -/
def typeNames (schema : Schema) : List String :=
  schema.records.map Record.name ++ schema.enums.map Enumeration.name

/-- The token of the name that a declaration introduces. -/
def WrittenDeclaration.nameToken : WrittenDeclaration → Token
  | record _ block => block.name.val
  | enum block => block.name.val

theorem mem_typeNames_ofFile {file : List WrittenDeclaration} {name : String} :
    name ∈ (ofFile file).typeNames ↔ ∃ d ∈ file, d.name = name := by
  simp only [typeNames, ofFile, ofDeclarations, List.mem_append, List.mem_map, List.mem_filterMap]
  constructor
  · rintro (⟨record, ⟨_, ⟨d, hd, rfl⟩, hrecord⟩, rfl⟩ | ⟨enum, ⟨_, ⟨d, hd, rfl⟩, henum⟩, rfl⟩)
    · cases d <;> cases hrecord
      exact ⟨_, hd, rfl⟩
    · cases d <;> cases henum
      exact ⟨_, hd, rfl⟩
  · rintro ⟨d, hd, rfl⟩
    cases d with
    | record requests block => exact Or.inl ⟨_, ⟨_, ⟨_, hd, rfl⟩, rfl⟩, rfl⟩
    | enum block => exact Or.inr ⟨_, ⟨_, ⟨_, hd, rfl⟩, rfl⟩, rfl⟩

theorem ofDeclarations_append (declarations others : List Declaration) :
    ofDeclarations (declarations ++ others) =
      ⟨(ofDeclarations declarations).records ++ (ofDeclarations others).records,
        (ofDeclarations declarations).enums ++ (ofDeclarations others).enums⟩ := by
  simp [ofDeclarations]

/-! ### Names that are declared already -/

variable {stop : Position} {declared : List String} {left : List Token}

/-- A free name that is declared already is refused at its token. -/
theorem readTypeName_duplicate (name : TokenOf [.identifier]) (hfree : FreeTypeName name.val.text)
    (hmem : name.val.text ∈ declared) :
    readTypeName stop declared (name.val :: left) =
      .error ⟨.duplicateType name.val.text, name.val.position⟩ := by
  have hcheck : checkTypeName declared name.val =
      .error ⟨.duplicateType name.val.text, name.val.position⟩ := by
    have hreserved : ¬ isReserved name.val.text = true := by
      rw [isReserved_iff]
      exact hfree.not_reserved
    simp only [checkTypeName]
    rw [if_neg hreserved, if_neg hfree.not_imported,
      Wrapper.ofName?_eq_none_iff.2 hfree.not_wrapper,
      Primitive.ofName?_eq_none_iff.2 hfree.not_primitive, if_neg (by simp), if_pos hmem]
  simp only [readTypeName, expect_token, hcheck, bind, Except.bind]

theorem readRequested_duplicate (d : WrittenDeclaration) (hfree : FreeTypeName d.name)
    (hmem : d.name ∈ declared) :
    readRequested stop declared (d.tokens ++ left) =
      .error ⟨.duplicateType d.name, d.nameToken.position⟩ := by
  cases d with
  | record requests block =>
      have hword := List.mem_singleton.1 block.word.property
      rw [readRequested_record]
      simp only [WrittenBlock.tokens, List.cons_append, readDeclaration, currentToken,
        List.headD_cons, hword, List.drop_one, List.tail_cons]
      rw [if_neg fun h => h.2 rfl, readTypeName_duplicate block.name hfree hmem]
      rfl
  | enum block =>
      have hword := List.mem_singleton.1 block.word.property
      rw [readRequested_enum]
      simp only [WrittenBlock.tokens, List.cons_append, readDeclaration, currentToken,
        List.headD_cons, hword, List.drop_one, List.tail_cons]
      rw [if_neg fun h => h.1 rfl, readTypeName_duplicate block.name hfree hmem]
      rfl

/-- The declarations of a file of free and distinct names, where some names are declared already:
the first that uses one of those is refused. -/
theorem readDeclarations_file {file : List WrittenDeclaration} (hfree : UsesFreeNames file) :
    readDeclarations stop declared (fileTokens file) =
      match file.find? (·.name ∈ declared) with
      | none => .ok (file.map WrittenDeclaration.declaration)
      | some d => .error ⟨.duplicateType d.name, d.nameToken.position⟩ := by
  cases hfind : file.find? (·.name ∈ declared) with
  | none =>
      have hnew : ∀ d ∈ file, d.UsesFreeNames ∧ d.name ∉ declared := by
        intro d hd
        exact ⟨hfree.declarations d hd, by simpa using List.find?_eq_none.1 hfind d hd⟩
      have hread : readDeclarations stop declared (fileTokens file ++ []) = _ :=
        readDeclarations_append file hnew hfree.types_distinct
      rw [List.append_nil, readDeclarations_nil] at hread
      simp [hread, Except.map]
  | some d =>
      obtain ⟨hd, before, after, rfl, hbefore⟩ := List.find?_eq_some_iff_append.1 hfind
      have hmem : d.name ∈ declared := by simpa using hd
      have hnew : ∀ e ∈ before, e.UsesFreeNames ∧ e.name ∉ declared := by
        intro e he
        refine ⟨hfree.declarations e (List.mem_append_left _ he), by simpa using hbefore e he⟩
      have hdistinct : (before.map WrittenDeclaration.name).Nodup := by
        have hall := hfree.types_distinct
        rw [List.map_append] at hall
        exact (List.nodup_append.1 hall).1
      have hd := (hfree.declarations d (by simp)).type_free
      have hstill : d.name ∈ (before.map WrittenDeclaration.name).reverse ++ declared :=
        List.mem_append_right _ hmem
      have htokens : fileTokens (before ++ d :: after) =
          fileTokens before ++ (d.tokens ++ fileTokens after) := by
        simp [fileTokens]
      rw [htokens, readDeclarations_append before hnew hdistinct,
        readDeclarations_step (d.tokens_ne_nil _), readRequested_duplicate d hd hstill]
      rfl

/-! ### Two sources -/

/-- A file and, moved behind it, the tokens of another file. -/
theorem ofTokens_joined (r : Relocation) {file file' : List WrittenDeclaration}
    {stream : TokenStream} (hfree : UsesFreeNames file) (hfree' : UsesFreeNames file')
    (htokens : fileTokens file' = stream.tokens) :
    ofTokens ⟨fileTokens file ++ (stream.relocate r).tokens, (stream.relocate r).stop⟩ =
      match file'.find? (·.name ∈ (ofFile file).typeNames) with
      | none =>
        .ok ⟨(ofFile file).records ++ (ofFile file').records.map (Record.relocate r),
          (ofFile file).enums ++ (ofFile file').enums⟩
      | some d => .error ⟨.duplicateType d.name, r.place d.nameToken.position⟩ := by
  have hnew : ∀ d ∈ file, d.UsesFreeNames ∧ d.name ∉ ([] : List String) :=
    fun d hd => ⟨hfree.declarations d hd, List.not_mem_nil⟩
  -- The declarations of the first file leave their names, the last one first.
  have hnames : file'.find? (·.name ∈ (file.map WrittenDeclaration.name).reverse ++ []) =
      file'.find? (·.name ∈ (ofFile file).typeNames) := by
    congr 1
    funext d
    simp [mem_typeNames_ofFile]
  simp only [ofTokens, TokenStream.relocate, ← htokens]
  rw [readDeclarations_append file hnew hfree.types_distinct, readDeclarations_relocate,
    readDeclarations_file hfree', hnames]
  cases file'.find? (·.name ∈ (ofFile file).typeNames) with
  | none =>
      simp only [Except.map, Except.mapError, ofDeclarations_append, ofDeclarations_relocate]
      rfl
  | some d => rfl

/-- Sources compose.  With a line end between them, they declare what the first declares and then
what the second declares, the lines of its requests moved down by those of the first.  Where they
share a name, the first declaration of the second source whose name the first one declares is
refused, at its name, which is moved down in the same way. -/
theorem parse_joined {first second : String} {one two : Schema} (hfirst : parse first = .ok one)
    (hsecond : parse second = .ok two) :
    let down := Relocation.down (first.toList.count '\n' + 1)
    (one.typeNames.Disjoint two.typeNames →
      parse (first ++ "\n" ++ second) =
        .ok ⟨one.records ++ two.records.map (Record.relocate down), one.enums ++ two.enums⟩) ∧
    (¬ one.typeNames.Disjoint two.typeNames →
      ∃ stream file d, Token.scan second = .ok stream ∧ fileTokens file = stream.tokens ∧
        file.find? (·.name ∈ one.typeNames) = some d ∧
        parse (first ++ "\n" ++ second) =
          .error (.malformed ⟨.duplicateType d.name, down.place d.nameToken.position⟩)) := by
  intro down
  obtain ⟨stream, hscan, hread⟩ := parse_eq_ok_iff.1 hfirst
  obtain ⟨stream', hscan', hread'⟩ := parse_eq_ok_iff.1 hsecond
  obtain ⟨file, htokens, hfree, rfl⟩ := ofTokens_eq_ok_iff.1 hread
  obtain ⟨file', htokens', hfree', rfl⟩ := ofTokens_eq_ok_iff.1 hread'
  have hjoined := ofTokens_joined down hfree hfree' htokens'
  rw [htokens] at hjoined
  rw [parse, Token.scan_joined hscan hscan']
  simp only
  rw [hjoined]
  cases hfind : file'.find? (·.name ∈ (ofFile file).typeNames) with
  | none =>
      refine ⟨fun _ => rfl, fun hshared => absurd ?_ hshared⟩
      intro name hname hname'
      obtain ⟨d, hd, rfl⟩ := mem_typeNames_ofFile.1 hname'
      exact List.find?_eq_none.1 hfind d hd (decide_eq_true hname)
  | some d =>
      refine ⟨fun hdisjoint => ?_, fun _ => ⟨stream', file', d, hscan', htokens', hfind, rfl⟩⟩
      have hname : d.name ∈ (ofFile file).typeNames := by simpa using List.find?_some hfind
      have hname' := mem_typeNames_ofFile.2 ⟨d, List.mem_of_find?_eq_some hfind, rfl⟩
      exact absurd hname' (hdisjoint hname)

/-- A first source that ends inside a line comment, then sources with and without a name of its
own. -/
theorem parse_joined_colors :
    let first := "record Pen \x7b ink: Color \x7d\nenum Color \x7b red \x7d // both"
    let apart := "@mirror record Box \x7b pens: List<Pen> \x7d"
    let shared := "enum Size \x7b small \x7d\n\nrecord Color \x7b \x7d enum Pen \x7b \x7d"
    parse (first ++ "\n" ++ apart) =
      .ok ⟨[⟨"Pen", [⟨"ink", "Color", false⟩], []⟩,
          ⟨"Box", [⟨"pens", "List<Pen>", false⟩], [⟨none, 3⟩]⟩], [⟨"Color", ["red"]⟩]⟩ ∧
    ∃ stream file d, Token.scan shared = .ok stream ∧ fileTokens file = stream.tokens ∧
      file.find? (·.name ∈ ["Pen", "Color"]) = some d ∧
      parse (first ++ "\n" ++ shared) =
        .error (.malformed ⟨.duplicateType d.name,
          (Relocation.down 2).place d.nameToken.position⟩) := by
  intro first apart shared
  have hfirst : parse first =
      .ok ⟨[⟨"Pen", [⟨"ink", "Color", false⟩], []⟩], [⟨"Color", ["red"]⟩]⟩ := by decide +kernel
  have hapart : parse apart =
      .ok ⟨[⟨"Box", [⟨"pens", "List<Pen>", false⟩], [⟨none, 1⟩]⟩], []⟩ := by decide +kernel
  have hshared : parse shared = .ok ⟨[⟨"Color", [], []⟩], [⟨"Size", ["small"]⟩, ⟨"Pen", []⟩]⟩ := by
    decide +kernel
  have hlines : first.toList.count '\n' = 1 := by decide +kernel
  have hjoined := parse_joined hfirst hapart
  have hrefused := parse_joined hfirst hshared
  rw [hlines] at hjoined hrefused
  exact ⟨hjoined.1 (by simp [typeNames]), hrefused.2 (by simp [typeNames])⟩

end RecordMirror.Schema
