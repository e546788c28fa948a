import RecordMirror.Code.Expr
import RecordMirror.Text.Sorted
import RecordMirror.TypeExpr
/-!
Conversions between the values of a record's fields and those of its mirror.  They follow the
type expression, so nested containers and optional elements need no rules of their own.
-/

namespace RecordMirror

open Code (TypeHint Expr Statement)

/-- A map key that is neither a primitive nor the name of a record. -/
structure KeyError where
  key : TypeExpr
deriving DecidableEq, Repr

/-- The wording of the error. -/
def KeyError.message (e : KeyError) : String :=
  "Expected a primitive type, got " ++ quoted e.key.shape.name

/-- The type of the values of a primitive in the generated code. -/
def Primitive.hintText : Primitive → String
  | string | character | url => "str"
  | int | int8 | int16 | int32 | int64 | uint | uint8 | uint16 | uint32 | uint64 => "int"
  | float | double => "float"
  | bool => "bool"
  | date => "datetime"
  | data => "bytes"
  | uuid => "UUID"

/-- The import line that the annotation of a primitive needs. -/
def Primitive.importLine? : Primitive → Option String
  | date => some "from datetime import datetime"
  | uuid => some "from uuid import UUID"
  | _ => none

/-- The name of the record under conversion in the generated code. -/
def persistedObject : String := "persisted_object"

namespace Conversion

/-- A loop variable.  Each nesting level has its own. -/
def loopVariable (stem : String) (depth : Nat) : String :=
  if depth = 0 then stem else s!"{stem}_{depth}"

/-- The annotation of a map key.  Keys pass unchanged, so a record keeps its own name here. -/
def keyHint : TypeExpr → Except KeyError TypeHint
  | .primitive type => .ok (.name type.hintText)
  | .reference record => .ok (.name record)
  | key => .error ⟨key⟩

/-- The annotation of the mirror values of a type. -/
def typeHint (mode : Mode) : TypeExpr → Except KeyError TypeHint
  | .primitive type => .ok (.name type.hintText)
  | .reference record => .ok (.name (mode.mirrorName record))
  | .optional inner => (typeHint mode inner).map .optional
  | .list element => (typeHint mode element).map (.sequence mode.style.sequence)
  | .set element => (typeHint mode element).map (.set mode.style.set)
  | .map key value => do
    let key ← keyHint key
    let value ← typeHint mode value
    return .mapping mode.style.mapping key value

/-- The mirror value of the value of `source`.  `depth` counts the loops around it. -/
def forward (mode : Mode) : TypeExpr → Expr → Nat → Expr
  | .primitive _, source, _ => source
  | .reference record, source, _ => .fromPersisted (mode.mirrorName record) source
  | .optional inner, source, depth =>
    if inner.isCopied then source else .ifPresent (forward mode inner source depth) source
  | .list element, source, depth =>
    if element.isCopied then .construct mode.style.sequence source
    else
      let item := loopVariable "item" depth
      .constructEach mode.style.sequence (forward mode element (.name item) (depth + 1)) item source
  | .set element, source, depth =>
    if element.isCopied then .construct mode.style.set source
    else
      let item := loopVariable "item" depth
      .constructEach mode.style.set (forward mode element (.name item) (depth + 1)) item source
  | .map _ value, source, depth =>
    if value.isCopied then .construct mode.style.mapping source
    else
      let key := loopVariable "key" depth
      let item := loopVariable "value" depth
      let pairs := .pairs key item (forward mode value (.name item) (depth + 1)) source
      if mode.style.mapping = .dict then pairs else .construct mode.style.mapping pairs

/-- The new record value of the mirror value of `source`.  It does not depend on the mode. -/
def backward : TypeExpr → Expr → Nat → Expr
  | .primitive _, source, _ => source
  | .reference _, source, _ => .buildPersisted source
  | .optional inner, source, depth =>
    if inner.isCopied then source else .ifPresent (backward inner source depth) source
  | .list element, source, depth =>
    if element.isCopied then .construct .list source
    else
      let item := loopVariable "item" depth
      .displayEach .list (backward element (.name item) (depth + 1)) item source
  | .set element, source, depth =>
    if element.isCopied then .construct .set source
    else
      let item := loopVariable "item" depth
      .displayEach .set (backward element (.name item) (depth + 1)) item source
  | .map _ value, source, depth =>
    if value.isCopied then .construct .dict source
    else
      let key := loopVariable "key" depth
      let item := loopVariable "value" depth
      .pairs key item (backward value (.name item) (depth + 1)) source

/-- Fills a collection of the fresh record with the converted items of a collection. -/
def fillItems (target : Expr) (filling : Code.Filling) (element : TypeExpr) (source : Expr) :
    Statement :=
  if element.isCopied then .fill target filling source
  else
    let item := loopVariable "item" 0
    .fillEach target filling (backward element (.name item) 1) item source

/-- The statement that stores the mirror's value of a field into the fresh record.  Containers
of the record are filled in place. -/
def statement (type : TypeExpr) (field : String) : Statement :=
  let target := Expr.member (.name persistedObject) field
  let source := Expr.member (.name "self") field
  match type with
  | .list element => fillItems target .extend element source
  | .set element => fillItems target .update element source
  | .map key value =>
    if value.isCopied then .fill target .update source
    else .fill target .update (backward (.map key value) source 0)
  | type => .assign target (backward type source 0)

/-- The import lines that the annotation of a type needs, in no particular order. -/
def importLines (mode : Mode) : TypeExpr → List String
  | .primitive type => type.importLine?.toList
  | .reference _ => []
  | .optional inner => importLines mode inner
  | .list element => importLines mode element
  | .set element => importLines mode element
  | .map key value =>
    mode.style.mappingImport.toList ++ (importLines mode value ++ importLines mode key)

/-- The import lines that the annotation of a type needs, each once and ordered. -/
def imports (mode : Mode) (type : TypeExpr) : List String :=
  sortedDistinct (importLines mode type)

end Conversion

end RecordMirror
