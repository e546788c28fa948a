import RecordMirror.Proofs.Schema.Reading
/-!
Declared types part by part: a name, a group of parts in which all brackets are closed, and question
marks.  A text that is put together so is cut into the lexemes of its parts, and tokens with these
lexemes are derived by a type that is kept as the text.
-/

namespace RecordMirror

/-- A name that is scanned as an identifier. -/
def IsIdentifier (name : String) : Prop :=
  isWord name.toList = true ∧ TokenKind.ofWord name = .identifier

instance (name : String) : Decidable (IsIdentifier name) :=
  inferInstanceAs (Decidable (_ ∧ _))

/-- A part of the text of a declared type. -/
inductive TypePart
  | name (word : String)
  | comma
  | mark
  | opening
  | closing
deriving DecidableEq, Repr

namespace TypePart

/-- How a part is written. -/
def text : TypePart → String
  | name word => word
  | comma => ", "
  | mark => "?"
  | opening => "<"
  | closing => ">"

/-- What a part is scanned as. -/
def lexeme : TypePart → Lexeme
  | name word => (.identifier, word)
  | comma => (.comma, ",")
  | mark => (.question, "?")
  | opening => (.leftAngle, "<")
  | closing => (.rightAngle, ">")

def isName : TypePart → Bool
  | name _ => true
  | _ => false

/-- The text of some parts. -/
def textOf (parts : List TypePart) : String :=
  String.join (parts.map text)

/-- Every bracket is closed by the one that belongs to it. -/
inductive Balanced : List TypePart → Prop
  | nil : Balanced []
  | plain {part : TypePart} {rest : List TypePart} (hopening : part ≠ .opening)
      (hclosing : part ≠ .closing) (hrest : Balanced rest) : Balanced (part :: rest)
  | nest {inside rest : List TypePart} (hinside : Balanced inside) (hrest : Balanced rest) :
      Balanced (.opening :: (inside ++ .closing :: rest))

/-- No two names are neighbours. -/
def NamesApart (parts : List TypePart) : Prop :=
  parts.IsChain fun left right => ¬(left.isName = true ∧ right.isName = true)

instance (parts : List TypePart) : Decidable (NamesApart parts) :=
  inferInstanceAs (Decidable (List.IsChain _ _))

end TypePart

/-- A declared type: a name, the parts of a group between brackets if it has one, and a number of
question marks. -/
structure DeclaredType where
  name : String
  group : Option (List TypePart) := none
  marks : Nat := 0
deriving DecidableEq, Repr

namespace DeclaredType

/-- The parts of the group, with its brackets. -/
def groupParts (type : DeclaredType) : List TypePart :=
  type.group.elim [] fun inside => .opening :: (inside ++ [.closing])

def parts (type : DeclaredType) : List TypePart :=
  .name type.name :: (type.groupParts ++ List.replicate type.marks .mark)

/-- How a declared type is written. -/
def text (type : DeclaredType) : String :=
  TypePart.textOf type.parts

/-- The names are identifiers that are kept apart, and the brackets of the group are balanced. -/
structure Proper (type : DeclaredType) : Prop where
  names : ∀ word, .name word ∈ type.parts → IsIdentifier word
  apart : TypePart.NamesApart type.parts
  balanced : ∀ inside ∈ type.group, TypePart.Balanced inside

end DeclaredType

/-! ### Scanning -/

namespace TypePart

variable {part : TypePart} {parts : List TypePart}

theorem textOf_cons :
    (textOf (part :: parts)).toList = part.text.toList ++ (textOf parts).toList := by
  simp [textOf, String.toList_join]

/-- What is no name begins with a sign, which goes on no word. -/
theorem head?_text (hpart : part.isName = false) (rest : List Char) :
    ∀ c ∈ (part.text.toList ++ rest).head?, isWordPart c = false := by
  intro c hc
  cases part with
  | name word => cases hpart
  | comma => cases hc; decide
  | mark => cases hc; decide
  | opening => cases hc; decide
  | closing => cases hc; decide

/-- Parts are scanned one by one, whatever follows that goes on no word. -/
theorem hasLexemes_textOf (hnames : ∀ word, .name word ∈ parts → IsIdentifier word)
    (hapart : NamesApart parts) {rest : List Char} {left : List Lexeme}
    (hend : ∀ c ∈ rest.head?, isWordPart c = false) (hrest : HasLexemes rest left) :
    HasLexemes ((textOf parts).toList ++ rest) (parts.map lexeme ++ left) := by
  induction parts with
  | nil => exact hrest
  | cons part parts ih =>
      have hparts := ih (fun word hword => hnames word (List.mem_cons_of_mem _ hword))
        hapart.tail
      rw [textOf_cons, List.append_assoc, List.map_cons, List.cons_append]
      cases part with
      | name word =>
          obtain ⟨hword, hkind⟩ := hnames word List.mem_cons_self
          rw [lexeme, ← hkind]
          refine .word hword ?_ hparts
          cases parts with
          | nil => exact hend
          | cons next parts =>
              rw [textOf_cons, List.append_assoc]
              apply head?_text
              exact Bool.eq_false_iff.2 fun hnext => hapart.rel ⟨rfl, hnext⟩
      | comma =>
          have hsign : TokenKind.ofSign? ',' = some .comma := rfl
          exact .sign hsign hparts.space
      | mark =>
          have hsign : TokenKind.ofSign? '?' = some .question := rfl
          exact .sign hsign hparts
      | opening =>
          have hsign : TokenKind.ofSign? '<' = some .leftAngle := rfl
          exact .sign hsign hparts
      | closing =>
          have hsign : TokenKind.ofSign? '>' = some .rightAngle := rfl
          exact .sign hsign hparts

end TypePart

/-! ### Reading -/

namespace Schema

open TypePart

variable {tokens tail : List Token} {parts : List TypePart}

theorem kind_of_lexeme {t : Token} {l : Lexeme} (h : t.lexeme = l) : t.kind = l.1 :=
  congrArg Prod.fst h

theorem lexeme_mem_typeKinds (part : TypePart) : part.lexeme.1 ∈ typeKinds := by
  cases part <;> simp [TypePart.lexeme, typeKinds]

/-- Balanced parts leave as many brackets open as there were. -/
theorem closesAfter_of_balanced (h : Balanced parts)
    (htokens : tokens.map Token.lexeme = parts.map TypePart.lexeme) {depth : Nat}
    (htail : ClosesAfter depth tail) : ClosesAfter depth (tokens ++ tail) := by
  induction h generalizing tokens tail depth with
  | nil =>
      rw [List.map_eq_nil_iff.1 htokens]
      exact htail
  | @plain part rest hopening hclosing _ ih =>
      obtain ⟨t, tokens, rfl, ht, htokens⟩ := List.map_eq_cons_iff.1 htokens
      have hkind := kind_of_lexeme ht
      refine .cons (hkind ▸ lexeme_mem_typeKinds part) ?_ (ih htokens htail)
      cases part with
      | opening => exact absurd rfl hopening
      | closing => exact absurd rfl hclosing
      | name word => simp [bracketTurn, hkind, TypePart.lexeme]
      | comma => simp [bracketTurn, hkind, TypePart.lexeme]
      | mark => simp [bracketTurn, hkind, TypePart.lexeme]
  | nest _ _ ihInside ihRest =>
      obtain ⟨opening, tokens, rfl, hopening, htokens⟩ := List.map_eq_cons_iff.1 htokens
      rw [List.map_append, List.map_cons] at htokens
      obtain ⟨inside, others, rfl, hinside, hothers⟩ := List.map_eq_append_iff.1 htokens
      obtain ⟨closing, rest, rfl, hclosing, hrest⟩ := List.map_eq_cons_iff.1 hothers
      have hopen := kind_of_lexeme hopening
      have hclose := kind_of_lexeme hclosing
      have hafter : ClosesAfter (depth + 1) (closing :: (rest ++ tail)) := by
        refine .cons (hclose ▸ lexeme_mem_typeKinds .closing) ?_ (ihRest hrest htail)
        simp only [bracketTurn, hclose, TypePart.lexeme]
        omega
      have hwithin := ihInside hinside hafter
      rw [List.cons_append, List.append_assoc]
      refine .cons (hopen ▸ lexeme_mem_typeKinds .opening) ?_ hwithin
      simp only [bracketTurn, hopen, TypePart.lexeme]
      omega

theorem exists_group_of_balanced (h : Balanced parts)
    (htokens : tokens.map Token.lexeme =
      (TypePart.opening :: (parts ++ [.closing])).map TypePart.lexeme) :
    ∃ group : BracketGroup, group.tokens = tokens := by
  obtain ⟨opening, others, rfl, hopening, hothers⟩ := List.map_eq_cons_iff.1 htokens
  rw [List.map_append] at hothers
  obtain ⟨inside, last, rfl, hinside, hlast⟩ := List.map_eq_append_iff.1 hothers
  obtain ⟨closing, rfl, hclosing⟩ := List.map_eq_singleton_iff.1 hlast
  exact exists_bracketGroup (kind_of_lexeme hopening)
    (closesAfter_of_balanced h hinside (closesAfter_singleton (kind_of_lexeme hclosing)))

/-- Tokens are kept as the text that their parts are written as. -/
theorem typeText_of_parts (htokens : tokens.map Token.lexeme = parts.map TypePart.lexeme) :
    typeText tokens = textOf parts := by
  induction parts generalizing tokens with
  | nil =>
      rw [List.map_eq_nil_iff.1 htokens]
      rfl
  | cons part parts ih =>
      obtain ⟨t, tokens, rfl, ht, htokens⟩ := List.map_eq_cons_iff.1 htokens
      apply String.toList_injective
      rw [typeText_cons, textOf_cons, ih htokens]
      obtain ⟨kind, text, position⟩ := t
      cases part <;> cases ht <;> rfl

/-- Tokens with the lexemes of a declared type are derived by a type that is kept as its text. -/
theorem exists_writtenType {type : DeclaredType} (h : type.Proper)
    (htokens : tokens.map Token.lexeme = type.parts.map TypePart.lexeme) :
    ∃ written : WrittenType, written.tokens = tokens ∧ typeText tokens = type.text := by
  have htext := typeText_of_parts htokens
  rw [DeclaredType.parts, List.map_cons, List.map_append] at htokens
  obtain ⟨name, others, rfl, hname, hothers⟩ := List.map_eq_cons_iff.1 htokens
  obtain ⟨inside, last, rfl, hinside, hlast⟩ := List.map_eq_append_iff.1 hothers
  have hmarks : ∀ t ∈ last, t.kind ∈ [TokenKind.question] := by
    intro t ht
    have hlexeme := List.mem_map_of_mem (f := Token.lexeme) ht
    rw [hlast, List.map_replicate] at hlexeme
    rw [kind_of_lexeme (List.eq_of_mem_replicate hlexeme)]
    exact List.mem_singleton_self _
  obtain ⟨marks, hmarks⟩ := exists_tokens_val hmarks
  have hgroup : ∃ group : Option BracketGroup, group.elim [] BracketGroup.tokens = inside := by
    cases hparts : type.group with
    | none =>
        simp only [DeclaredType.groupParts, hparts, Option.elim_none, List.map_nil,
          List.map_eq_nil_iff] at hinside
        exact ⟨none, hinside.symm⟩
    | some parts =>
        simp only [DeclaredType.groupParts, hparts, Option.elim_some] at hinside
        obtain ⟨group, hgroup⟩ := exists_group_of_balanced (h.balanced parts hparts) hinside
        exact ⟨some group, hgroup⟩
  obtain ⟨group, hgroup⟩ := hgroup
  refine ⟨⟨⟨name, ?_⟩, group, marks⟩, ?_, htext⟩
  · rw [kind_of_lexeme hname]
    exact List.mem_singleton_self _
  · simp only [WrittenType.tokens, WrittenType.groupTokens, hgroup, hmarks]

end Schema

end RecordMirror
