import RecordMirror.Conversion
import RecordMirror.Schema
import RecordMirror.TypeExpr.Reader
/-!
Field mappings: how one persisted field is declared and converted in a mirror.
-/

namespace RecordMirror

/-- The mapping of a field onto the field of a mirror, as text of the generated code. -/
structure FieldMapping where
  name : String
  declaredType : String
  shape : Shape
  /-- The declaration of the mirror's field. -/
  declaration : String
  /-- The expression of the mirror value. -/
  forward : String
  /-- The statement that stores the mirror value into a fresh record. -/
  backward : String
  /-- The import lines that the declaration needs. -/
  imports : List String := []
deriving DecidableEq, Repr, Inhabited

/-- Why a field has no mapping. -/
inductive FieldFault
  | unreadableType (cause : TypeTextError)
  | enumeration (name : String)
  | unresolved (record mirror : String)
  | key (cause : KeyError)
deriving DecidableEq, Repr

/-- The wording of a fault. -/
def FieldFault.message : FieldFault → String
  | unreadableType cause => cause.message
  | enumeration name =>
    "Enum " ++ quoted name ++ " cannot be mirrored; only records and built-in types can"
  | unresolved record mirror =>
    "Referenced record " ++ quoted record ++ " has no mirror " ++ quoted mirror
  | key cause => cause.message

/-- What a mapping may refer to.  `mirrors` holds the names of the mirrors that will exist, or is
absent if references are trusted. -/
structure Scope where
  mirrors : Option (List String) := none
  enums : List String := []
deriving DecidableEq, Repr

/-- The first reference of a type that a scope does not allow.  Enumerations have no mirrors;
they are looked for before the mirrors of other names are. -/
def Scope.refusal? (scope : Scope) (mode : Mode) (type : TypeExpr) : Option FieldFault :=
  match type.references.find? (scope.enums.contains ·) with
  | some name => some (.enumeration name)
  | none =>
    match scope.mirrors with
    | none => none
    | some mirrors =>
      (type.references.find? fun name => !mirrors.contains (mode.mirrorName name)).map fun name =>
        .unresolved name (mode.mirrorName name)

namespace FieldMapping

/-- The mapping of a field whose type is known. -/
def ofType (mode : Mode) (field : Field) (type : TypeExpr) : Except KeyError FieldMapping := do
  let hint ← Conversion.typeHint mode type
  let value := Code.Expr.member (.name persistedObject) field.name
  return {
    name := field.name
    declaredType := field.declaredType
    shape := type.shape
    declaration := field.name ++ ": " ++ hint.render
    forward := (Conversion.forward mode type value 0).render
    backward := (Conversion.statement type field.name).render
    imports := Conversion.imports mode type }

/-- The mapping of a field. -/
def ofField (scope : Scope) (mode : Mode) (field : Field) : Except FieldFault FieldMapping :=
  match TypeExpr.parse field.declaredType with
  | .error cause => .error (.unreadableType cause)
  | .ok type =>
    match scope.refusal? mode type with
    | some fault => .error fault
    | none => (ofType mode field type).mapError .key

end FieldMapping

end RecordMirror
