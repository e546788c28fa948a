import RecordMirror.Proofs.Token.Lexeme
import RecordMirror.Code.Expr
/-!
Which trees stand for what their text says.  Each container is of the kind its place asks for, and a
conditional expression stands only where it needs no parentheses: as an argument, or as the value of
a comprehension.  What names have to be depends on who reads them.
-/

namespace RecordMirror

/-- Containers that keep the order of their items. -/
def Container.isSequence : Container → Bool
  | tuple | list => true
  | _ => false

/-- Containers that hold no item twice. -/
def Container.isSet : Container → Bool
  | frozenset | set => true
  | _ => false

/-- Containers of pairs. -/
def Container.isMapping : Container → Bool
  | immutabledict | dict => true
  | _ => false

namespace Code

section

variable (P : String → Prop)

/-- An annotation of containers, each of its kind, whose names all have a property. -/
def TypeHint.WellNamed : TypeHint → Prop
  | name text => P text
  | optional inner => inner.WellNamed
  | sequence container element => container.isSequence = true ∧ element.WellNamed
  | set container element => container.isSet = true ∧ element.WellNamed
  | mapping container key value =>
    container.isMapping = true ∧ key.WellNamed ∧ value.WellNamed

namespace Expr

/-- Whether an expression is a conditional one. -/
def isConditional : Expr → Bool
  | ifPresent _ _ => true
  | _ => false

/-- An expression whose names all have a property and whose text is read as its tree, if they can
be read as names. -/
def WellNamed : Expr → Prop
  | name text => P text
  | member object field => object.WellNamed ∧ object.isConditional = false ∧ P field
  | fromPersisted mirror record => P mirror ∧ record.WellNamed
  | buildPersisted mirror => mirror.WellNamed ∧ mirror.isConditional = false
  | construct _ source => source.WellNamed
  | constructEach container value item source =>
    container.isMapping = false ∧ value.WellNamed ∧ P item ∧ source.WellNamed ∧
      source.isConditional = false
  | displayEach _ value item source =>
    value.WellNamed ∧ P item ∧ source.WellNamed ∧ source.isConditional = false
  | pairs key item value source =>
    P key ∧ P item ∧ key ≠ item ∧ value.WellNamed ∧ source.WellNamed ∧
      source.isConditional = false
  | ifPresent value subject =>
    value.WellNamed ∧ value.isConditional = false ∧ subject.WellNamed ∧
      subject.isConditional = false

/-- An expression that can be assigned to: an attribute of an object. -/
def IsTarget (target : Expr) : Prop :=
  ∃ object field, target = member object field ∧ target.WellNamed P

end Expr

/-- A statement whose names all have a property and whose text is read as its tree, if they can be
read as names. -/
def Statement.WellNamed : Statement → Prop
  | assign target value => target.IsTarget P ∧ value.WellNamed P
  | fill target _ source => target.IsTarget P ∧ source.WellNamed P
  | fillEach target _ value item source =>
    target.IsTarget P ∧ value.WellNamed P ∧ P item ∧ source.WellNamed P ∧
      source.isConditional = false

end

/-- An annotation whose names are words. -/
def TypeHint.WellFormed (hint : TypeHint) : Prop :=
  hint.WellNamed fun name => isWord name.toList = true

/-- An expression whose names are words. -/
def Expr.WellFormed (e : Expr) : Prop :=
  e.WellNamed fun name => isWord name.toList = true

/-- A statement whose names are words. -/
def Statement.WellFormed (store : Statement) : Prop :=
  store.WellNamed fun name => isWord name.toList = true

end Code

end RecordMirror
