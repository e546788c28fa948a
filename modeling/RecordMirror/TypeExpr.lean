/-!
Type expressions: what a declared field type denotes, and the canonical text of each.
-/

namespace RecordMirror

/-- The scalar types that pass unchanged between a record and its mirrors. -/
inductive Primitive
  | string
  | character
  | int
  | int8
  | int16
  | int32
  | int64
  | uint
  | uint8
  | uint16
  | uint32
  | uint64
  | float
  | double
  | bool
  | date
  | data
  | url
  | uuid
deriving DecidableEq, Repr, Inhabited

namespace Primitive

/-- The name of a primitive in declared types. -/
def name : Primitive → String
  | string => "String"
  | character => "Character"
  | int => "Int"
  | int8 => "Int8"
  | int16 => "Int16"
  | int32 => "Int32"
  | int64 => "Int64"
  | uint => "UInt"
  | uint8 => "UInt8"
  | uint16 => "UInt16"
  | uint32 => "UInt32"
  | uint64 => "UInt64"
  | float => "Float"
  | double => "Double"
  | bool => "Bool"
  | date => "Date"
  | data => "Data"
  | url => "URL"
  | uuid => "UUID"

/-- Every primitive, in the order of the documentation. -/
def all : List Primitive :=
  [string, character, int, int8, int16, int32, int64, uint, uint8, uint16, uint32, uint64,
    float, double, bool, date, data, url, uuid]

/-- The primitive of a name. -/
def ofName? (text : String) : Option Primitive :=
  all.find? (·.name == text)

theorem name_of_ofName? {text : String} {p : Primitive} (h : ofName? text = some p) :
    p.name = text := by
  simpa using List.find?_some h

theorem ofName?_name (p : Primitive) : ofName? p.name = some p := by
  cases p <;> decide

theorem name_injective {p q : Primitive} (h : p.name = q.name) : p = q := by
  simpa [ofName?_name] using congrArg ofName? h

end Primitive

/-- The six shapes of a type expression. -/
inductive Shape
  | primitive
  | optional
  | list
  | set
  | map
  | reference
deriving DecidableEq, Repr, Inhabited

namespace Shape

/-- The name of a shape. -/
def name : Shape → String
  | primitive => "primitive"
  | optional => "optional"
  | list => "list"
  | set => "set"
  | map => "map"
  | reference => "reference"

/-- Every shape. -/
def all : List Shape :=
  [primitive, optional, list, set, map, reference]

/-- The shape of a name. -/
def ofName? (text : String) : Option Shape :=
  all.find? (·.name == text)

theorem ofName?_name (s : Shape) : ofName? s.name = some s := by
  cases s <;> decide

end Shape

/-- A type expression.  A reference names a record that has mirrors of its own. -/
inductive TypeExpr
  | primitive (type : Primitive)
  | optional (inner : TypeExpr)
  | list (element : TypeExpr)
  | set (element : TypeExpr)
  | map (key value : TypeExpr)
  | reference (record : String)
deriving DecidableEq, Repr, Inhabited

namespace TypeExpr

/-- The shape of a type expression is its outermost former. -/
def shape : TypeExpr → Shape
  | primitive _ => .primitive
  | optional _ => .optional
  | list _ => .list
  | set _ => .set
  | map _ _ => .map
  | reference _ => .reference

/-- The canonical text of a type expression. -/
def render : TypeExpr → String
  | primitive type => type.name
  | optional inner => inner.render ++ "?"
  | list element => "List<" ++ element.render ++ ">"
  | set element => "MutableSet<" ++ element.render ++ ">"
  | map key value => "Map<" ++ key.render ++ ", " ++ value.render ++ ">"
  | reference record => record

/-- The wrapped type of an optional, or the element type of a list or set. -/
def inner? : TypeExpr → Option TypeExpr
  | optional inner => some inner
  | list element => some element
  | set element => some element
  | _ => none

/-- The key type of a map. -/
def key? : TypeExpr → Option TypeExpr
  | map key _ => some key
  | _ => none

/-- The value type of a map. -/
def value? : TypeExpr → Option TypeExpr
  | map _ value => some value
  | _ => none

/-- The name of a primitive or of a referenced record. -/
def name? : TypeExpr → Option String
  | primitive type => some type.name
  | reference record => some record
  | _ => none

/-- Scalars are the types a map key may have. -/
def isScalar : TypeExpr → Bool
  | primitive _ => true
  | reference _ => true
  | _ => false

/-- Whether a type is an optional. -/
def isOptional : TypeExpr → Bool
  | optional _ => true
  | _ => false

/-- Whether a type is a primitive. -/
def isPrimitive : TypeExpr → Bool
  | primitive _ => true
  | _ => false

/-- Whether values of a type pass unchanged in both directions: primitives, and optionals over
them. -/
def isCopied : TypeExpr → Bool
  | primitive _ => true
  | optional inner => inner.isCopied
  | _ => false

/-- The records in value position, from left to right, with repetitions.  Map keys are not in
value position. -/
def references : TypeExpr → List String
  | primitive _ => []
  | optional inner => inner.references
  | list element => element.references
  | set element => element.references
  | map _ value => value.references
  | reference record => [record]

end TypeExpr

end RecordMirror
