import RecordMirror.Proofs.Token.Lexeme
import RecordMirror.TypeExpr.Reader
/-!
The grammar of declared types, as trees.  A tree derives a list of lexemes and denotes a type
expression; the same lexemes are derived by one tree at most.

* type := base | base `?`
* base := name | `List<` type `>` | `MutableSet<` type `>` | `Optional<` type `>`
  | `Map<` name `,` type `>`

The index of a tree says whether it denotes an optional.  What is marked, and what `Optional`
wraps, is none.
-/

namespace RecordMirror

/-- The name of a record: an identifier that names neither a wrapper nor a primitive. -/
structure RecordName where
  text : String
  not_wrapper : Wrapper.ofName? text = none
  not_primitive : Primitive.ofName? text = none

/-- A name that denotes a scalar. -/
inductive ScalarName
  | primitive (type : Primitive)
  | record (name : RecordName)

namespace ScalarName

/-- The identifier a scalar is written as. -/
def text : ScalarName → String
  | primitive type => type.name
  | record name => name.text

/-- The scalar a name denotes. -/
def type : ScalarName → TypeExpr
  | primitive type => .primitive type
  | record name => .reference name.text

theorem not_wrapper (scalar : ScalarName) : Wrapper.ofName? scalar.text = none := by
  cases scalar with
  | primitive type => cases type <;> decide
  | record name => exact name.not_wrapper

theorem text_injective {first second : ScalarName} (htext : first.text = second.text) :
    first = second := by
  cases first with
  | primitive type =>
      cases second with
      | primitive other => rw [Primitive.name_injective htext]
      | record name =>
          have hname := name.not_primitive
          rw [← show type.name = name.text from htext, Primitive.ofName?_name] at hname
          cases hname
  | record name =>
      cases second with
      | primitive other =>
          have hname := name.not_primitive
          rw [show name.text = other.name from htext, Primitive.ofName?_name] at hname
          cases hname
      | record other =>
          obtain ⟨text, _, _⟩ := name
          obtain ⟨otherText, _, _⟩ := other
          cases (show text = otherText from htext)
          rfl

theorem ofName_text (scalar : ScalarName) : TypeExpr.ofName scalar.text = scalar.type := by
  cases scalar with
  | primitive type => simp [TypeExpr.ofName, text, ScalarName.type, Primitive.ofName?_name]
  | record name => simp [TypeExpr.ofName, text, ScalarName.type, name.not_primitive]

/-- Every identifier but the names of wrappers denotes a scalar. -/
theorem exists_of_not_wrapper {name : String} (hname : Wrapper.ofName? name = none) :
    ∃ scalar : ScalarName, scalar.text = name := by
  cases hprimitive : Primitive.ofName? name with
  | some type => exact ⟨.primitive type, Primitive.name_of_ofName? hprimitive⟩
  | none => exact ⟨.record ⟨name, hname, hprimitive⟩, rfl⟩

theorem type_isOptional (scalar : ScalarName) : scalar.type.isOptional = false := by
  cases scalar <;> rfl

theorem type_isScalar (scalar : ScalarName) : scalar.type.isScalar = true := by
  cases scalar <;> rfl

end ScalarName

mutual

/-- The derivations of a base. -/
inductive BaseDerivation : Bool → Type
  | name (scalar : ScalarName) : BaseDerivation false
  | list {o : Bool} (argument : TypeDerivation o) : BaseDerivation false
  | set {o : Bool} (argument : TypeDerivation o) : BaseDerivation false
  | map {o : Bool} (key : ScalarName) (value : TypeDerivation o) : BaseDerivation false
  | optional (argument : TypeDerivation false) : BaseDerivation true

/-- The derivations of a type. -/
inductive TypeDerivation : Bool → Type
  | base {o : Bool} (base : BaseDerivation o) : TypeDerivation o
  | marked (base : BaseDerivation false) : TypeDerivation true

end

/-- The lexemes of a wrapper and of what stands between its brackets. -/
def Wrapper.around (wrapper : Wrapper) (inside : List Lexeme) : List Lexeme :=
  (.identifier, wrapper.name) :: (.leftAngle, "<") :: (inside ++ [(.rightAngle, ">")])

mutual

/-- The lexemes a base is derived from. -/
def BaseDerivation.lexemes : {o : Bool} → BaseDerivation o → List Lexeme
  | _, .name scalar => [(.identifier, scalar.text)]
  | _, .list argument => Wrapper.around .list argument.lexemes
  | _, .set argument => Wrapper.around .set argument.lexemes
  | _, .map key value =>
    Wrapper.around .map ((.identifier, key.text) :: (.comma, ",") :: value.lexemes)
  | _, .optional argument => Wrapper.around .optional argument.lexemes

/-- The lexemes a type is derived from. -/
def TypeDerivation.lexemes : {o : Bool} → TypeDerivation o → List Lexeme
  | _, .base base => base.lexemes
  | _, .marked base => base.lexemes ++ [(.question, "?")]

end

mutual

/-- The type expression a base denotes. -/
def BaseDerivation.type : {o : Bool} → BaseDerivation o → TypeExpr
  | _, .name scalar => scalar.type
  | _, .list argument => .list argument.type
  | _, .set argument => .set argument.type
  | _, .map key value => .map key.type value.type
  | _, .optional argument => .optional argument.type

/-- The type expression a type denotes. -/
def TypeDerivation.type : {o : Bool} → TypeDerivation o → TypeExpr
  | _, .base base => base.type
  | _, .marked base => .optional base.type

end

theorem BaseDerivation.type_isOptional {o : Bool} (base : BaseDerivation o) :
    base.type.isOptional = o := by
  cases base with
  | name scalar => exact scalar.type_isOptional
  | list => rfl
  | set => rfl
  | map => rfl
  | optional => rfl

theorem TypeDerivation.type_isOptional {o : Bool} (d : TypeDerivation o) :
    d.type.isOptional = o := by
  cases d with
  | base base => exact base.type_isOptional
  | marked => rfl

theorem BaseDerivation.lexemes_eq_cons {o : Bool} (base : BaseDerivation o) :
    ∃ text rest, base.lexemes = (.identifier, text) :: rest := by
  cases base <;> exact ⟨_, _, rfl⟩

theorem TypeDerivation.lexemes_eq_cons {o : Bool} (d : TypeDerivation o) :
    ∃ text rest, d.lexemes = (.identifier, text) :: rest := by
  cases d with
  | base base => exact base.lexemes_eq_cons
  | marked base =>
      obtain ⟨text, rest, h⟩ := base.lexemes_eq_cons
      exact ⟨text, rest ++ [(.question, "?")], by simp [TypeDerivation.lexemes, h]⟩

/-- Whether some lexemes begin with a question mark. -/
def beginsMarked (lexemes : List Lexeme) : Prop :=
  ∃ text rest, lexemes = (.question, text) :: rest

theorem not_beginsMarked_nil : ¬ beginsMarked [] := by
  rintro ⟨text, rest, h⟩
  cases h

theorem not_beginsMarked_cons {kind : TokenKind} {text : String} {rest : List Lexeme}
    (hkind : kind ≠ .question) : ¬ beginsMarked ((kind, text) :: rest) := by
  rintro ⟨mark, tail, h⟩
  cases h
  exact hkind rfl

theorem Wrapper.around_append (wrapper : Wrapper) (inside left : List Lexeme) :
    wrapper.around inside ++ left =
      (.identifier, wrapper.name) :: (.leftAngle, "<") ::
        (inside ++ (.rightAngle, ">") :: left) := by
  simp [Wrapper.around]

theorem Wrapper.name_injective {first second : Wrapper} (hname : first.name = second.name) :
    first = second := by
  cases first <;> cases second <;> first | rfl | exact absurd hname (by decide)

theorem Wrapper.ofName?_name (wrapper : Wrapper) : Wrapper.ofName? wrapper.name = some wrapper := by
  cases wrapper <;> decide

theorem Wrapper.ofName?_eq_none_iff {name : String} :
    Wrapper.ofName? name = none ↔ ∀ w : Wrapper, w.name ≠ name := by
  constructor
  · rintro hnone w rfl
    rw [Wrapper.ofName?_name] at hnone
    cases hnone
  · intro hne
    rw [Wrapper.ofName?, List.find?_eq_none]
    intro w _ hw
    exact hne w (beq_iff_eq.1 hw)

theorem Primitive.ofName?_eq_none_iff {name : String} :
    Primitive.ofName? name = none ↔ ∀ p : Primitive, p.name ≠ name := by
  constructor
  · rintro hnone p rfl
    rw [Primitive.ofName?_name] at hnone
    cases hnone
  · intro hne
    rw [Primitive.ofName?, List.find?_eq_none]
    intro p _ hp
    exact hne p (beq_iff_eq.1 hp)

theorem Wrapper.around_append_inj {wrapper other : Wrapper}
    {inside left otherInside otherLeft : List Lexeme}
    (h : wrapper.around inside ++ left = other.around otherInside ++ otherLeft) :
    wrapper = other ∧
      inside ++ (.rightAngle, ">") :: left = otherInside ++ (.rightAngle, ">") :: otherLeft := by
  rw [Wrapper.around_append, Wrapper.around_append] at h
  simp only [List.cons.injEq, Prod.mk.injEq, true_and] at h
  exact ⟨Wrapper.name_injective h.1, h.2⟩

/-- A scalar name and a wrapper begin differently. -/
theorem Wrapper.around_ne_name {wrapper : Wrapper} {scalar : ScalarName}
    {inside left otherLeft : List Lexeme} :
    wrapper.around inside ++ left ≠ (.identifier, scalar.text) :: otherLeft := by
  intro h
  rw [Wrapper.around_append] at h
  simp only [List.cons.injEq, Prod.mk.injEq, true_and] at h
  have hscalar := scalar.not_wrapper
  rw [← h.1, Wrapper.ofName?_name] at hscalar
  cases hscalar

mutual

/-- A base ends where its lexemes end, and they determine it. -/
theorem BaseDerivation.lexemes_append_inj {o o' : Bool} (base : BaseDerivation o)
    (base' : BaseDerivation o') {left left' : List Lexeme}
    (h : base.lexemes ++ left = base'.lexemes ++ left') :
    (⟨o, base⟩ : Sigma BaseDerivation) = ⟨o', base'⟩ ∧ left = left' := by
  have close : ∀ l : List Lexeme, ¬ beginsMarked ((.rightAngle, ">") :: l) :=
    fun l => not_beginsMarked_cons (by decide)
  match o, base, o', base' with
  | _, .name scalar, _, .name scalar' =>
      simp only [BaseDerivation.lexemes, List.cons_append, List.nil_append, List.cons.injEq,
        Prod.mk.injEq, true_and] at h
      cases ScalarName.text_injective h.1
      exact ⟨rfl, h.2⟩
  | _, .list argument, _, .list argument' =>
      obtain ⟨-, h⟩ := Wrapper.around_append_inj h
      obtain ⟨hargument, hleft⟩ := argument.lexemes_append_inj argument' h (close _) (close _)
      cases hargument
      cases hleft
      exact ⟨rfl, rfl⟩
  | _, .set argument, _, .set argument' =>
      obtain ⟨-, h⟩ := Wrapper.around_append_inj h
      obtain ⟨hargument, hleft⟩ := argument.lexemes_append_inj argument' h (close _) (close _)
      cases hargument
      cases hleft
      exact ⟨rfl, rfl⟩
  | _, .map key value, _, .map key' value' =>
      obtain ⟨-, h⟩ := Wrapper.around_append_inj h
      simp only [List.cons_append, List.cons.injEq, Prod.mk.injEq, true_and] at h
      cases ScalarName.text_injective h.1
      obtain ⟨hvalue, hleft⟩ := value.lexemes_append_inj value' h.2 (close _) (close _)
      cases hvalue
      cases hleft
      exact ⟨rfl, rfl⟩
  | _, .optional argument, _, .optional argument' =>
      obtain ⟨-, h⟩ := Wrapper.around_append_inj h
      obtain ⟨hargument, hleft⟩ := argument.lexemes_append_inj argument' h (close _) (close _)
      cases hargument
      cases hleft
      exact ⟨rfl, rfl⟩
  | _, .name _, _, .list _ | _, .name _, _, .set _ | _, .name _, _, .map _ _
  | _, .name _, _, .optional _ => exact absurd h.symm Wrapper.around_ne_name
  | _, .list _, _, .name _ | _, .set _, _, .name _ | _, .map _ _, _, .name _
  | _, .optional _, _, .name _ => exact absurd h Wrapper.around_ne_name
  | _, .list _, _, .set _ | _, .list _, _, .map _ _ | _, .list _, _, .optional _
  | _, .set _, _, .list _ | _, .set _, _, .map _ _ | _, .set _, _, .optional _
  | _, .map _ _, _, .list _ | _, .map _ _, _, .set _ | _, .map _ _, _, .optional _
  | _, .optional _, _, .list _ | _, .optional _, _, .set _ | _, .optional _, _, .map _ _ =>
      exact absurd (Wrapper.around_append_inj h).1 (by decide)

/-- A type ends where no question mark follows its lexemes, and they determine it. -/
theorem TypeDerivation.lexemes_append_inj {o o' : Bool} (d : TypeDerivation o)
    (d' : TypeDerivation o') {left left' : List Lexeme}
    (h : d.lexemes ++ left = d'.lexemes ++ left') (hleft : ¬ beginsMarked left)
    (hleft' : ¬ beginsMarked left') :
    (⟨o, d⟩ : Sigma TypeDerivation) = ⟨o', d'⟩ ∧ left = left' := by
  match o, d, o', d' with
  | _, .base base, _, .base base' =>
      obtain ⟨hbase, hrest⟩ := base.lexemes_append_inj base' h
      cases hbase
      exact ⟨rfl, hrest⟩
  | _, .base base, _, .marked base' =>
      simp only [TypeDerivation.lexemes, List.append_assoc] at h
      exact absurd ⟨_, _, (base.lexemes_append_inj base' h).2⟩ hleft
  | _, .marked base, _, .base base' =>
      simp only [TypeDerivation.lexemes, List.append_assoc] at h
      exact absurd ⟨_, _, (base.lexemes_append_inj base' h).2.symm⟩ hleft'
  | _, .marked base, _, .marked base' =>
      simp only [TypeDerivation.lexemes, List.append_assoc] at h
      obtain ⟨hbase, hrest⟩ := base.lexemes_append_inj base' h
      cases hbase
      exact ⟨rfl, (List.cons.inj hrest).2⟩

end

/-- The derivation of a list of lexemes is unique. -/
theorem TypeDerivation.lexemes_injective {d d' : Sigma TypeDerivation}
    (h : d.2.lexemes = d'.2.lexemes) : d = d' := by
  have happend : d.2.lexemes ++ [] = d'.2.lexemes ++ [] := by rw [h]
  exact (d.2.lexemes_append_inj d'.2 happend not_beginsMarked_nil not_beginsMarked_nil).1

/-- Some lexemes denote a type expression. -/
def Denotes (lexemes : List Lexeme) (e : TypeExpr) : Prop :=
  ∃ d : Sigma TypeDerivation, d.2.lexemes = lexemes ∧ d.2.type = e

end RecordMirror
