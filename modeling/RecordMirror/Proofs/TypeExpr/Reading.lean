import RecordMirror.Proofs.TypeExpr.Derivation
/-!
Reading declared types against their grammar.  What the reader gives has a derivation from the
lexemes that were read, every derivation is read, and faults are reported at a token of the text.
-/

namespace RecordMirror

variable {stop : Position} {bound : Nat} {tokens left : List Token}

theorem Token.eq_mk {t : Token} {kind : TokenKind} {text : String}
    (ht : t.lexeme = (kind, text)) : t = ⟨kind, text, t.position⟩ := by
  obtain ⟨k, s, p⟩ := t
  cases ht
  rfl

/-- Tokens that are spelled as their kinds ask. -/
def SpelledTokens (tokens : List Token) : Prop :=
  ∀ t ∈ tokens, Lexeme.Spelled t.lexeme

theorem SpelledTokens.of_suffix (htokens : SpelledTokens tokens) (hleft : left <:+ tokens) :
    SpelledTokens left :=
  fun t ht => htokens t (hleft.subset ht)

namespace TypeExpr

/-! ### What a reader leaves -/

theorem readMark_suffix {base e : TypeExpr} (h : readMark stop base tokens = .ok (e, left)) :
    left <:+ tokens := by
  unfold readMark at h
  split at h
  · split at h
    · cases h
    · split at h
      · cases h
      · cases h
        exact List.suffix_cons _ _
  · cases h
    exact List.suffix_rfl

theorem readWrapped_ok {wrapper : Wrapper} {arguments : List TypeExpr} {e : TypeExpr}
    (h : readWrapped stop wrapper arguments tokens = .ok (e, left)) :
    ∃ base, wrapper.apply arguments = .ok base ∧ readMark stop base tokens = .ok (e, left) := by
  unfold readWrapped at h
  cases happly : wrapper.apply arguments with
  | error fault => rw [happly] at h; cases h
  | ok base => rw [happly] at h; exact ⟨base, rfl, h⟩

/-- The ways in which a type is read. -/
theorem read_ok {e : TypeExpr} (h : read stop bound tokens = .ok (e, left)) :
    ∃ depth name position rest, bound = depth + 1 ∧
      tokens = ⟨.identifier, name, position⟩ :: rest ∧
      ((Wrapper.ofName? name = none ∧ readMark stop (ofName name) rest = .ok (e, left)) ∨
        ∃ wrapper text place, Wrapper.ofName? name = some wrapper ∧
          ((∃ closing at_ rest', rest = ⟨.leftAngle, text, place⟩ ::
              ⟨.rightAngle, closing, at_⟩ :: rest' ∧
              readWrapped stop wrapper [] rest' = .ok (e, left)) ∨
            ∃ inside first middle others after,
              rest = ⟨.leftAngle, text, place⟩ :: inside ∧
              read stop depth inside = .ok (first, middle) ∧
              readArguments stop depth middle = .ok (others, after) ∧
              readWrapped stop wrapper (first :: others) after = .ok (e, left))) := by
  cases bound with
  | zero => cases h
  | succ depth =>
      unfold read at h
      split at h
      · rename_i name position rest
        refine ⟨depth, name, position, rest, rfl, rfl, ?_⟩
        cases hwrapper : Wrapper.ofName? name with
        | none =>
            rw [hwrapper] at h
            exact Or.inl ⟨rfl, h⟩
        | some wrapper =>
            rw [hwrapper] at h
            simp only at h
            split at h
            · exact Or.inr ⟨wrapper, _, _, rfl, Or.inl ⟨_, _, _, rfl, h⟩⟩
            · rename_i text place inside _
              refine Or.inr ⟨wrapper, text, place, rfl, Or.inr ?_⟩
              cases hfirst : read stop depth inside with
              | error e => rw [hfirst] at h; cases h
              | ok parts =>
                  obtain ⟨first, middle⟩ := parts
                  rw [hfirst] at h
                  simp only at h
                  cases hothers : readArguments stop depth middle with
                  | error e => rw [hothers] at h; cases h
                  | ok parts =>
                      obtain ⟨others, after⟩ := parts
                      rw [hothers] at h
                      exact ⟨inside, first, middle, others, after, rfl, hfirst, hothers, h⟩
            · cases h
      · cases h

/-- The ways in which further arguments are read. -/
theorem readArguments_ok {es : List TypeExpr}
    (h : readArguments stop bound tokens = .ok (es, left)) :
    ∃ depth, bound = depth + 1 ∧
      ((∃ text position, tokens = ⟨.rightAngle, text, position⟩ :: left ∧ es = []) ∨
        ∃ text position rest argument middle others,
          tokens = ⟨.comma, text, position⟩ :: rest ∧
          read stop depth rest = .ok (argument, middle) ∧
          readArguments stop depth middle = .ok (others, left) ∧ es = argument :: others) := by
  cases bound with
  | zero => cases h
  | succ depth =>
      refine ⟨depth, rfl, ?_⟩
      unfold readArguments at h
      split at h
      · rename_i text position rest
        cases hargument : read stop depth rest with
        | error e => rw [hargument] at h; cases h
        | ok parts =>
            obtain ⟨argument, middle⟩ := parts
            rw [hargument] at h
            simp only at h
            cases hothers : readArguments stop depth middle with
            | error e => rw [hothers] at h; cases h
            | ok parts =>
                obtain ⟨others, after⟩ := parts
                rw [hothers] at h
                cases h
                exact Or.inr ⟨text, position, rest, argument, middle, others, rfl, hargument,
                  hothers, rfl⟩
      · cases h
        exact Or.inl ⟨_, _, rfl, rfl⟩
      · cases h

theorem read_suffix_aux (stop : Position) (bound : Nat) :
    (∀ {tokens left : List Token} {e : TypeExpr},
        read stop bound tokens = .ok (e, left) → left <:+ tokens) ∧
      ∀ {tokens left : List Token} {es : List TypeExpr},
        readArguments stop bound tokens = .ok (es, left) → left <:+ tokens := by
  induction bound with
  | zero =>
      constructor
      · intro _ _ _ h
        cases h
      · intro _ _ _ h
        cases h
  | succ depth ih =>
      obtain ⟨ihType, ihArguments⟩ := ih
      constructor
      · intro tokens left e h
        obtain ⟨_, name, position, rest, hbound, rfl, hcases⟩ := read_ok h
        cases hbound
        suffices hrest : left <:+ rest from hrest.trans (List.suffix_cons _ _)
        rcases hcases with ⟨-, hmark⟩ | ⟨wrapper, text, place, -, hinside⟩
        · exact readMark_suffix hmark
        · rcases hinside with ⟨closing, at_, rest', rfl, hwrapped⟩ |
            ⟨inside, first, middle, others, after, rfl, hfirst, hothers, hwrapped⟩
          · obtain ⟨base, -, hmark⟩ := readWrapped_ok hwrapped
            exact (readMark_suffix hmark).trans
              ((List.suffix_cons _ _).trans (List.suffix_cons _ _))
          · obtain ⟨base, -, hmark⟩ := readWrapped_ok hwrapped
            exact (readMark_suffix hmark).trans ((ihArguments hothers).trans
              ((ihType hfirst).trans (List.suffix_cons _ _)))
      · intro tokens left es h
        obtain ⟨_, hbound, hcases⟩ := readArguments_ok h
        cases hbound
        rcases hcases with ⟨text, position, rfl, -⟩ |
          ⟨text, position, rest, argument, middle, others, rfl, hargument, hothers, -⟩
        · exact List.suffix_cons _ _
        · exact (ihArguments hothers).trans
            ((ihType hargument).trans (List.suffix_cons _ _))

theorem read_suffix {e : TypeExpr} (h : read stop bound tokens = .ok (e, left)) :
    left <:+ tokens :=
  (read_suffix_aux stop bound).1 h

theorem readArguments_suffix {es : List TypeExpr}
    (h : readArguments stop bound tokens = .ok (es, left)) : left <:+ tokens :=
  (read_suffix_aux stop bound).2 h

/-! ### What is read has a derivation -/

theorem not_beginsMarked_of_kind (h : (currentToken stop tokens).kind ≠ .question) :
    ¬ beginsMarked (tokens.map Token.lexeme) := by
  cases tokens with
  | nil => exact not_beginsMarked_nil
  | cons t rest => exact not_beginsMarked_cons h

theorem kind_of_not_beginsMarked (h : ¬ beginsMarked (tokens.map Token.lexeme)) :
    (currentToken stop tokens).kind ≠ .question := by
  cases tokens with
  | nil => exact fun hkind => nomatch hkind
  | cons t rest =>
      intro hkind
      obtain ⟨kind, text, position⟩ := t
      cases (show kind = .question from hkind)
      exact h ⟨text, _, rfl⟩

theorem readMark_of_not_beginsMarked {e : TypeExpr}
    (h : ¬ beginsMarked (tokens.map Token.lexeme)) :
    readMark stop e tokens = .ok (e, tokens) := by
  unfold readMark
  split
  · exact absurd ⟨_, _, rfl⟩ h
  · rfl

theorem readMark_question {e : TypeExpr} {text : String} {position : Position}
    (he : e.isOptional = false) (h : ¬ beginsMarked (tokens.map Token.lexeme)) :
    readMark stop e (⟨.question, text, position⟩ :: tokens) = .ok (.optional e, tokens) := by
  simp [readMark, he, kind_of_not_beginsMarked h]

/-- A base and what is read after it make up a type. -/
theorem readMark_sound {o : Bool} (base : BaseDerivation o) {e : TypeExpr}
    (htokens : SpelledTokens tokens) (h : readMark stop base.type tokens = .ok (e, left)) :
    ∃ d : Sigma TypeDerivation, d.2.type = e ∧
      base.lexemes ++ tokens.map Token.lexeme = d.2.lexemes ++ left.map Token.lexeme ∧
      ¬ beginsMarked (left.map Token.lexeme) := by
  unfold readMark at h
  split at h
  · rename_i text position rest
    rw [base.type_isOptional] at h
    cases o with
    | true => cases h
    | false =>
        simp only [Bool.false_eq_true, if_false] at h
        split at h
        · cases h
        · rename_i hkind
          cases h
          have htext : text = "?" := htokens ⟨.question, text, position⟩ List.mem_cons_self
          refine ⟨⟨true, .marked base⟩, rfl, ?_, not_beginsMarked_of_kind hkind⟩
          simp [TypeDerivation.lexemes, Token.lexeme, htext]
  · rename_i hmark
    cases h
    refine ⟨⟨o, .base base⟩, rfl, rfl, ?_⟩
    cases tokens with
    | nil => exact not_beginsMarked_nil
    | cons t rest =>
        apply not_beginsMarked_cons
        intro hkind
        obtain ⟨kind, text, position⟩ := t
        cases (show kind = .question from hkind)
        exact hmark text position rest rfl

/-- The lexemes of type arguments after the first one. -/
def furtherLexemes (arguments : List (Sigma TypeDerivation)) : List Lexeme :=
  arguments.flatMap fun d => (.comma, ",") :: d.2.lexemes

theorem exists_scalar_of_isScalar (d : Sigma TypeDerivation) (h : d.2.type.isScalar = true) :
    ∃ scalar : ScalarName, d = ⟨false, .base (.name scalar)⟩ := by
  obtain ⟨o, d⟩ := d
  cases d with
  | marked base => cases h
  | base base =>
      cases base with
      | name scalar => exact ⟨scalar, rfl⟩
      | list => cases h
      | set => cases h
      | map => cases h
      | optional => cases h

/-- A wrapper that accepts its arguments derives a base from their derivations. -/
theorem apply_sound {wrapper : Wrapper} (first : Sigma TypeDerivation)
    (others : List (Sigma TypeDerivation)) {e : TypeExpr}
    (h : wrapper.apply (first.2.type :: others.map fun d => d.2.type) = .ok e) :
    ∃ base : Sigma BaseDerivation, base.2.type = e ∧
      base.2.lexemes = wrapper.around (first.2.lexemes ++ furtherLexemes others) := by
  cases others with
  | nil =>
      rw [furtherLexemes, List.flatMap_nil, List.append_nil]
      cases wrapper with
      | list => cases h; exact ⟨⟨false, .list first.2⟩, rfl, rfl⟩
      | set => cases h; exact ⟨⟨false, .set first.2⟩, rfl, rfl⟩
      | map => cases h
      | optional =>
          obtain ⟨o, d⟩ := first
          simp only [List.map_nil, Wrapper.apply, d.type_isOptional] at h
          cases o with
          | true => cases h
          | false => cases h; exact ⟨⟨true, .optional d⟩, rfl, rfl⟩
  | cons second rest =>
      cases wrapper with
      | list => cases h
      | set => cases h
      | optional => cases h
      | map =>
          cases rest with
          | cons => cases h
          | nil =>
              simp only [List.map_cons, List.map_nil, Wrapper.apply] at h
              cases hkey : first.2.type.isScalar with
              | false => rw [hkey] at h; cases h
              | true =>
                  rw [hkey, if_pos rfl] at h
                  obtain ⟨key, rfl⟩ := exists_scalar_of_isScalar first hkey
                  cases h
                  refine ⟨⟨false, .map key second.2⟩, rfl, ?_⟩
                  simp [furtherLexemes, BaseDerivation.lexemes, TypeDerivation.lexemes]

theorem apply_nil (wrapper : Wrapper) : ∃ fault, wrapper.apply [] = .error fault := by
  cases wrapper <;> exact ⟨_, rfl⟩

/-- What is read at the head of some tokens, with its derivation. -/
def ReadsType (tokens : List Token) (e : TypeExpr) (left : List Token) : Prop :=
  ∃ d : Sigma TypeDerivation, d.2.type = e ∧
    tokens.map Token.lexeme = d.2.lexemes ++ left.map Token.lexeme ∧
    ¬ beginsMarked (left.map Token.lexeme)

/-- The type arguments that are read up to a closing bracket, with their derivations. -/
def ReadsArguments (tokens : List Token) (es : List TypeExpr) (left : List Token) : Prop :=
  ∃ ds : List (Sigma TypeDerivation), (ds.map fun d => d.2.type) = es ∧
    tokens.map Token.lexeme =
      furtherLexemes ds ++ (.rightAngle, ">") :: left.map Token.lexeme

theorem readWrapped_sound {wrapper : Wrapper} {name text : String} {position place : Position}
    {inside middle after : List Token} {first e : TypeExpr} {others : List TypeExpr}
    (hname : Wrapper.ofName? name = some wrapper) (hopening : text = "<")
    (hafter : SpelledTokens after)
    (hfirst : ReadsType inside first middle) (hothers : ReadsArguments middle others after)
    (h : readWrapped stop wrapper (first :: others) after = .ok (e, left)) :
    ReadsType (⟨.identifier, name, position⟩ :: ⟨.leftAngle, text, place⟩ :: inside) e left := by
  obtain ⟨d, rfl, hinside, -⟩ := hfirst
  obtain ⟨ds, rfl, hmiddle⟩ := hothers
  obtain ⟨base, happly, hmark⟩ := readWrapped_ok h
  obtain ⟨derivation, rfl, hlexemes⟩ := apply_sound d ds happly
  obtain ⟨result, htype, hresult, hleft⟩ := readMark_sound derivation.2 hafter hmark
  refine ⟨result, htype, ?_, hleft⟩
  have hwritten : wrapper.name = name := by
    simpa using List.find?_some hname
  rw [← hresult, hlexemes, Wrapper.around_append, List.append_assoc, ← hmiddle, ← hinside,
    hwritten, hopening]
  rfl

theorem read_sound_aux (stop : Position) (bound : Nat) :
    (∀ {tokens left : List Token} {e : TypeExpr}, SpelledTokens tokens →
        read stop bound tokens = .ok (e, left) → ReadsType tokens e left) ∧
      ∀ {tokens left : List Token} {es : List TypeExpr}, SpelledTokens tokens →
        readArguments stop bound tokens = .ok (es, left) → ReadsArguments tokens es left := by
  induction bound with
  | zero =>
      constructor
      · intro _ _ _ _ h
        cases h
      · intro _ _ _ _ h
        cases h
  | succ depth ih =>
      obtain ⟨ihType, ihArguments⟩ := ih
      constructor
      · intro tokens left e htokens h
        obtain ⟨_, name, position, rest, hbound, rfl, hcases⟩ := read_ok h
        cases hbound
        have hrest : SpelledTokens rest := htokens.of_suffix (List.suffix_cons _ _)
        rcases hcases with ⟨hname, hmark⟩ | ⟨wrapper, text, place, hname, hinside⟩
        · obtain ⟨scalar, rfl⟩ := ScalarName.exists_of_not_wrapper hname
          rw [scalar.ofName_text] at hmark
          obtain ⟨d, htype, hlexemes, hleft⟩ :=
            readMark_sound (.name scalar) hrest hmark
          exact ⟨d, htype, hlexemes, hleft⟩
        · rcases hinside with ⟨closing, at_, rest', rfl, hwrapped⟩ |
            ⟨inside, first, middle, others, after, rfl, hfirst, hothers, hwrapped⟩
          · obtain ⟨base, happly, -⟩ := readWrapped_ok hwrapped
            obtain ⟨fault, hfault⟩ := apply_nil wrapper
            rw [hfault] at happly
            cases happly
          · have hopening : text = "<" := hrest ⟨.leftAngle, text, place⟩ List.mem_cons_self
            have hinside : SpelledTokens inside := hrest.of_suffix (List.suffix_cons _ _)
            have hmiddle := hinside.of_suffix (read_suffix hfirst)
            have hafter := hmiddle.of_suffix (readArguments_suffix hothers)
            exact readWrapped_sound hname hopening hafter (ihType hinside hfirst)
              (ihArguments hmiddle hothers) hwrapped
      · intro tokens left es htokens h
        obtain ⟨_, hbound, hcases⟩ := readArguments_ok h
        cases hbound
        rcases hcases with ⟨text, position, rfl, rfl⟩ |
          ⟨text, position, rest, argument, middle, others, rfl, hargument, hothers, rfl⟩
        · have htext : text = ">" := htokens ⟨.rightAngle, text, position⟩ List.mem_cons_self
          exact ⟨[], rfl, by rw [htext]; rfl⟩
        · have htext : text = "," := htokens ⟨.comma, text, position⟩ List.mem_cons_self
          have hrest : SpelledTokens rest := htokens.of_suffix (List.suffix_cons _ _)
          obtain ⟨d, rfl, hd, -⟩ := ihType hrest hargument
          obtain ⟨ds, rfl, hds⟩ := ihArguments (hrest.of_suffix (read_suffix hargument)) hothers
          refine ⟨d :: ds, rfl, ?_⟩
          simp [furtherLexemes, Token.lexeme, htext, hd, hds]

theorem read_sound {e : TypeExpr} (htokens : SpelledTokens tokens)
    (h : read stop bound tokens = .ok (e, left)) : ReadsType tokens e left :=
  (read_sound_aux stop bound).1 htokens h

theorem readArguments_sound {es : List TypeExpr} (htokens : SpelledTokens tokens)
    (h : readArguments stop bound tokens = .ok (es, left)) : ReadsArguments tokens es left :=
  (read_sound_aux stop bound).2 htokens h

/-! ### What has a derivation is read -/

theorem exists_token_of_lexeme {rest : List Lexeme} {kind : TokenKind} {text : String}
    (h : tokens.map Token.lexeme = (kind, text) :: rest) :
    ∃ position tail, tokens = ⟨kind, text, position⟩ :: tail ∧ tail.map Token.lexeme = rest := by
  obtain ⟨t, tail, rfl, ht, htail⟩ := List.map_eq_cons_iff.1 h
  exact ⟨t.position, tail, by rw [← Token.eq_mk ht], htail⟩

theorem exists_tokens_around {wrapper : Wrapper} {inside : List Lexeme}
    (h : tokens.map Token.lexeme = wrapper.around inside) :
    ∃ p q r inner, tokens = ⟨.identifier, wrapper.name, p⟩ :: ⟨.leftAngle, "<", q⟩ ::
        (inner ++ [⟨.rightAngle, ">", r⟩]) ∧ inner.map Token.lexeme = inside := by
  obtain ⟨p, tail, rfl, htail⟩ := exists_token_of_lexeme h
  obtain ⟨q, body, rfl, hbody⟩ := exists_token_of_lexeme htail
  obtain ⟨inner, closing, rfl, hinner, hclosing⟩ := List.map_eq_append_iff.1 hbody
  obtain ⟨r, last, rfl, hlast⟩ := exists_token_of_lexeme hclosing
  cases List.map_eq_nil_iff.1 hlast
  exact ⟨p, q, r, inner, rfl, hinner⟩

theorem readArguments_close {text : String} {position : Position} :
    readArguments stop (bound + 1) (⟨.rightAngle, text, position⟩ :: left) = .ok ([], left) := by
  rw [readArguments]

theorem readArguments_comma {text : String} {position : Position} {rest middle : List Token}
    {argument : TypeExpr} {others : List TypeExpr}
    (hargument : read stop bound rest = .ok (argument, middle))
    (hothers : readArguments stop bound middle = .ok (others, left)) :
    readArguments stop (bound + 1) (⟨.comma, text, position⟩ :: rest) =
      .ok (argument :: others, left) := by
  rw [readArguments]
  simp only [hargument, hothers]

theorem read_name {scalar : ScalarName} {position : Position} :
    read stop (bound + 1) (⟨.identifier, scalar.text, position⟩ :: left) =
      readMark stop scalar.type left := by
  rw [read]
  simp only [scalar.not_wrapper, scalar.ofName_text]

theorem read_wrapper {wrapper : Wrapper} {text name : String} {p q at_ : Position}
    {inside middle : List Token} {first : TypeExpr} {others : List TypeExpr}
    (hfirst : read stop bound (⟨.identifier, name, at_⟩ :: inside) = .ok (first, middle))
    (hothers : readArguments stop bound middle = .ok (others, left)) :
    read stop (bound + 1) (⟨.identifier, wrapper.name, p⟩ :: ⟨.leftAngle, text, q⟩ ::
        ⟨.identifier, name, at_⟩ :: inside) =
      readWrapped stop wrapper (first :: others) left := by
  rw [read]
  simp only [Wrapper.ofName?_name, hfirst, hothers]

/-- A wrapper of one argument is read if its argument is. -/
theorem read_single {wrapper : Wrapper} {o : Bool} (argument : TypeDerivation o)
    (hlexemes : tokens.map Token.lexeme = wrapper.around argument.lexemes)
    (hbound : tokens.length ≤ bound)
    (hread : ∀ {depth : Nat} {inner : List Token} {r : Position},
      inner.map Token.lexeme = argument.lexemes → inner.length ≤ depth →
        read stop depth (inner ++ ⟨.rightAngle, ">", r⟩ :: left) =
          .ok (argument.type, ⟨.rightAngle, ">", r⟩ :: left)) :
    read stop bound (tokens ++ left) = readWrapped stop wrapper [argument.type] left := by
  obtain ⟨p, q, r, inner, rfl, hinner⟩ := exists_tokens_around hlexemes
  simp only [List.length_cons, List.length_append, List.length_nil] at hbound
  obtain ⟨depth, rfl⟩ : ∃ depth, bound = depth + 2 := ⟨bound - 2, by omega⟩
  have hargument : read stop (depth + 1) (inner ++ ⟨.rightAngle, ">", r⟩ :: left) = _ :=
    hread hinner (by omega)
  obtain ⟨name, rest, hhead⟩ := argument.lexemes_eq_cons
  rw [hhead] at hinner
  obtain ⟨at_, tail, rfl, -⟩ := exists_token_of_lexeme hinner
  simpa using read_wrapper hargument readArguments_close

/-- A map is read if its value is. -/
theorem read_pair {o : Bool} (key : ScalarName) (value : TypeDerivation o)
    (hlexemes : tokens.map Token.lexeme =
      Wrapper.around .map ((.identifier, key.text) :: (.comma, ",") :: value.lexemes))
    (hbound : tokens.length ≤ bound)
    (hread : ∀ {depth : Nat} {inner : List Token} {r : Position},
      inner.map Token.lexeme = value.lexemes → inner.length ≤ depth →
        read stop depth (inner ++ ⟨.rightAngle, ">", r⟩ :: left) =
          .ok (value.type, ⟨.rightAngle, ">", r⟩ :: left)) :
    read stop bound (tokens ++ left) = readWrapped stop .map [key.type, value.type] left := by
  obtain ⟨p, q, r, inside, rfl, hinside⟩ := exists_tokens_around hlexemes
  obtain ⟨s, tail, rfl, htail⟩ := exists_token_of_lexeme hinside
  obtain ⟨t, inner, rfl, hinner⟩ := exists_token_of_lexeme htail
  simp only [List.length_cons, List.length_append, List.length_nil] at hbound
  obtain ⟨depth, rfl⟩ : ∃ depth, bound = depth + 3 := ⟨bound - 3, by omega⟩
  have hvalue : read stop (depth + 1) (inner ++ ⟨.rightAngle, ">", r⟩ :: left) = _ :=
    hread hinner (by omega)
  have hkey : ∀ rest, read stop (depth + 2)
      (⟨.identifier, key.text, s⟩ :: ⟨.comma, ",", t⟩ :: rest) =
        .ok (key.type, ⟨.comma, ",", t⟩ :: rest) := by
    intro rest
    rw [read_name]
    rfl
  simpa using read_wrapper (hkey _) (readArguments_comma hvalue readArguments_close)

end TypeExpr

open TypeExpr

mutual

/-- A base is read, and then the mark after it if there is one. -/
theorem BaseDerivation.read_append {stop : Position} {bound : Nat} {tokens left : List Token}
    {o : Bool} (base : BaseDerivation o)
    (hlexemes : tokens.map Token.lexeme = base.lexemes) (hbound : tokens.length ≤ bound) :
    read stop bound (tokens ++ left) = readMark stop base.type left := by
  have close : ∀ r, ¬ beginsMarked
      (((⟨.rightAngle, ">", r⟩ : Token) :: left).map Token.lexeme) :=
    fun r => not_beginsMarked_cons (fun h => nomatch h)
  match o, base with
  | _, .name scalar =>
      obtain ⟨p, tail, rfl, htail⟩ := exists_token_of_lexeme hlexemes
      cases List.map_eq_nil_iff.1 htail
      obtain ⟨depth, rfl⟩ : ∃ depth, bound = depth + 1 := ⟨bound - 1, by simp at hbound; omega⟩
      exact read_name
  | _, .list argument =>
      exact read_single argument hlexemes hbound fun hinner hdepth =>
        argument.read_append hinner hdepth (close _)
  | _, .set argument =>
      exact read_single argument hlexemes hbound fun hinner hdepth =>
        argument.read_append hinner hdepth (close _)
  | _, .optional argument =>
      have hwrapped : readWrapped stop .optional [argument.type] left =
          readMark stop (.optional argument.type) left := by
        simp [readWrapped, Wrapper.apply, argument.type_isOptional]
      rw [BaseDerivation.type, ← hwrapped]
      exact read_single argument hlexemes hbound fun hinner hdepth =>
        argument.read_append hinner hdepth (close _)
  | _, .map key value =>
      have hwrapped : readWrapped stop .map [key.type, value.type] left =
          readMark stop (.map key.type value.type) left := by
        simp [readWrapped, Wrapper.apply, key.type_isScalar]
      rw [BaseDerivation.type, ← hwrapped]
      exact read_pair key value hlexemes hbound fun hinner hdepth =>
        value.read_append hinner hdepth (close _)

/-- A type is read where no mark follows it. -/
theorem TypeDerivation.read_append {stop : Position} {bound : Nat} {tokens left : List Token}
    {o : Bool} (d : TypeDerivation o)
    (hlexemes : tokens.map Token.lexeme = d.lexemes) (hbound : tokens.length ≤ bound)
    (hleft : ¬ beginsMarked (left.map Token.lexeme)) :
    read stop bound (tokens ++ left) = .ok (d.type, left) := by
  match o, d with
  | _, .base base =>
      rw [base.read_append hlexemes hbound, TypeDerivation.type]
      exact readMark_of_not_beginsMarked hleft
  | _, .marked base =>
      obtain ⟨inner, mark, rfl, hinner, hmark⟩ := List.map_eq_append_iff.1 hlexemes
      obtain ⟨p, tail, rfl, htail⟩ := exists_token_of_lexeme hmark
      cases List.map_eq_nil_iff.1 htail
      rw [List.length_append] at hbound
      rw [List.append_assoc, base.read_append hinner (by omega)]
      exact readMark_question base.type_isOptional hleft

end

/-! ### Where faults are reported -/

/-- A fault is reported in the column of a token that is left, or of the end of the text. -/
def ReportedIn (stop : Position) (tokens : List Token) (error : TypeFault × Nat) : Prop :=
  ∃ t ∈ tokens ++ [TokenStream.eofAt stop], error.2 = t.position.column

theorem ReportedIn.of_suffix {error : TypeFault × Nat} (h : ReportedIn stop left error)
    (hleft : left <:+ tokens) : ReportedIn stop tokens error := by
  obtain ⟨t, ht, hcolumn⟩ := h
  refine ⟨t, ?_, hcolumn⟩
  rcases List.mem_append.1 ht with hmem | hend
  · exact List.mem_append_left _ (hleft.subset hmem)
  · exact List.mem_append_right _ hend

theorem reportedIn_faultAt (stop : Position) (tokens : List Token) (fault : TypeFault) :
    ReportedIn stop tokens (faultAt stop tokens fault) := by
  refine ⟨currentToken stop tokens, ?_, rfl⟩
  cases tokens with
  | nil => exact List.mem_singleton_self _
  | cons t rest => exact List.mem_cons_self

theorem readMark_reportedIn {e : TypeExpr} {error : TypeFault × Nat}
    (h : readMark stop e tokens = .error error) : ReportedIn stop tokens error := by
  unfold readMark at h
  split at h
  · split at h
    · cases h
      exact reportedIn_faultAt _ _ _
    · split at h
      · cases h
        exact (reportedIn_faultAt _ _ _).of_suffix (List.suffix_cons _ _)
      · cases h
  · cases h

theorem readWrapped_reportedIn {wrapper : Wrapper} {arguments : List TypeExpr}
    {error : TypeFault × Nat} (h : readWrapped stop wrapper arguments tokens = .error error) :
    ReportedIn stop tokens error := by
  unfold readWrapped at h
  split at h
  · cases h
    exact reportedIn_faultAt _ _ _
  · exact readMark_reportedIn h

theorem read_reportedIn_aux (stop : Position) (bound : Nat) :
    (∀ {tokens : List Token} {error : TypeFault × Nat},
        read stop bound tokens = .error error → ReportedIn stop tokens error) ∧
      ∀ {tokens : List Token} {error : TypeFault × Nat},
        readArguments stop bound tokens = .error error → ReportedIn stop tokens error := by
  induction bound with
  | zero =>
      constructor
      · intro tokens error h
        cases h
        exact reportedIn_faultAt _ _ _
      · intro tokens error h
        cases h
        exact reportedIn_faultAt _ _ _
  | succ depth ih =>
      obtain ⟨ihType, ihArguments⟩ := ih
      constructor
      · intro tokens error h
        unfold TypeExpr.read at h
        split at h
        · rename_i name position rest
          suffices hrest : ReportedIn stop rest error from hrest.of_suffix (List.suffix_cons _ _)
          split at h
          · exact readMark_reportedIn h
          · split at h
            · exact (readWrapped_reportedIn h).of_suffix
                ((List.suffix_cons _ _).trans (List.suffix_cons _ _))
            · rename_i text place inside _
              suffices hinside : ReportedIn stop inside error from
                hinside.of_suffix (List.suffix_cons _ _)
              split at h
              · rename_i hfirst
                cases h
                exact ihType hfirst
              · rename_i hfirst
                split at h
                · rename_i hothers
                  cases h
                  exact (ihArguments hothers).of_suffix (read_suffix hfirst)
                · rename_i hothers
                  exact (readWrapped_reportedIn h).of_suffix
                    ((readArguments_suffix hothers).trans (read_suffix hfirst))
            · cases h
              exact reportedIn_faultAt _ _ _
        · cases h
          exact reportedIn_faultAt _ _ _
      · intro tokens error h
        unfold readArguments at h
        split at h
        · rename_i text position rest
          suffices hrest : ReportedIn stop rest error from hrest.of_suffix (List.suffix_cons _ _)
          split at h
          · rename_i hargument
            cases h
            exact ihType hargument
          · rename_i hargument
            split at h
            · rename_i hothers
              cases h
              exact (ihArguments hothers).of_suffix (read_suffix hargument)
            · cases h
        · cases h
        · cases h
          exact reportedIn_faultAt _ _ _

/-! ### Texts -/

theorem spelledTokens_of_scan {text : String} {stream : TokenStream}
    (hscan : Token.scan text = .ok stream) : SpelledTokens stream.tokens := by
  have htext := hasLexemes_iff_scan.2 ⟨stream, hscan, rfl⟩
  intro t ht
  exact htext.spelled _ (List.mem_map_of_mem ht)

/-- A text is read as a type expression exactly if its lexemes denote it. -/
theorem TypeExpr.parse_eq_ok_iff {text : String} {e : TypeExpr} :
    parse text = .ok e ↔ ∃ stream, Token.scan text = .ok stream ∧ Denotes stream.lexemes e := by
  constructor
  · intro h
    unfold parse at h
    cases hscan : Token.scan text with
    | error cause => rw [hscan] at h; cases h
    | ok stream =>
        rw [hscan] at h
        simp only at h
        split at h
        · cases h
        split at h
        · cases h
        · rename_i hread
          cases h
          obtain ⟨d, htype, hlexemes, -⟩ := read_sound (spelledTokens_of_scan hscan) hread
          rw [List.map_nil, List.append_nil] at hlexemes
          exact ⟨stream, rfl, d, hlexemes.symm, htype⟩
        · cases h
  · rintro ⟨stream, hscan, d, hlexemes, rfl⟩
    have hread : TypeExpr.read stream.stop stream.tokens.length (stream.tokens ++ []) = _ :=
      d.2.read_append hlexemes.symm (Nat.le_refl _) not_beginsMarked_nil
    rw [List.append_nil] at hread
    have hnonempty : stream.tokens.isEmpty = false := by
      obtain ⟨name, rest, hhead⟩ := d.2.lexemes_eq_cons
      rw [hhead] at hlexemes
      obtain ⟨_, tail, htokens, -⟩ := exists_token_of_lexeme hlexemes.symm
      rw [htokens]
      rfl
    simp [parse, hscan, hnonempty, hread]

/-- A text that is refused is named by the error, and a fault in it is reported in the column of
one of its tokens, the one for its end included. -/
theorem TypeExpr.parse_error {text : String} {error : TypeTextError}
    (h : parse text = .error error) :
    error.text = text ∧ ∀ stream, Token.scan text = .ok stream →
      error = .empty text ∨ ∃ fault, ∃ t ∈ stream.toList,
        error = .malformed text fault t.position.column := by
  unfold parse at h
  cases hscan : Token.scan text with
  | error cause =>
      rw [hscan] at h
      cases h
      exact ⟨rfl, fun _ hstream => nomatch hstream⟩
  | ok stream =>
      rw [hscan] at h
      simp only at h
      split at h
      · cases h
        exact ⟨rfl, fun _ _ => Or.inl rfl⟩
      split at h
      · rename_i hread
        cases h
        obtain ⟨t, ht, hcolumn⟩ := (read_reportedIn_aux _ _).1 hread
        refine ⟨rfl, fun _ hstream => ?_⟩
        cases hstream
        exact Or.inr ⟨_, t, ht, by rw [← hcolumn]⟩
      · cases h
      · rename_i found rest hread
        cases h
        refine ⟨rfl, fun _ hstream => ?_⟩
        cases hstream
        have hfound : found ∈ stream.tokens := (read_suffix hread).subset List.mem_cons_self
        exact Or.inr ⟨_, found, List.mem_append_left _ hfound, rfl⟩

/-- Reading a declared type is exact.  It gives what the grammar derives from the text, there is one
derivation at most, and every other text is refused by an error that names it. -/
theorem TypeExpr.parse_exact (text : String) :
    (∀ e, parse text = .ok e ↔
        ∃ stream, Token.scan text = .ok stream ∧ Denotes stream.lexemes e) ∧
      (∀ stream, Token.scan text = .ok stream → ∀ d d' : Sigma TypeDerivation,
        d.2.lexemes = stream.lexemes → d'.2.lexemes = stream.lexemes → d = d') ∧
      ((∀ e stream, Token.scan text = .ok stream → ¬ Denotes stream.lexemes e) →
        ∃ error, parse text = .error error ∧ error.text = text ∧
          ∀ stream, Token.scan text = .ok stream →
            error = .empty text ∨ ∃ fault, ∃ t ∈ stream.toList,
              error = .malformed text fault t.position.column) := by
  refine ⟨fun e => parse_eq_ok_iff, ?_, ?_⟩
  · intro stream _ d d' hd hd'
    exact TypeDerivation.lexemes_injective (hd.trans hd'.symm)
  · intro hnone
    cases hparse : parse text with
    | ok e =>
        obtain ⟨stream, hscan, hdenotes⟩ := parse_eq_ok_iff.1 hparse
        exact absurd hdenotes (hnone e stream hscan)
    | error error => exact ⟨error, rfl, parse_error hparse⟩

end RecordMirror
