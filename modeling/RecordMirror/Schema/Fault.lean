import RecordMirror.Text.Quoted
import RecordMirror.Token
/-!
What can be wrong in a schema whose tokens can be read, and how it is worded.
-/

namespace RecordMirror

/-- What can be wrong in a schema whose tokens can be read. -/
inductive SchemaFault
  | expected (kinds : List TokenKind) (found : String)
  | expectedFieldName (found : String)
  | reservedField (name : String)
  | methodField (name : String)
  | notARecord (found : Token)
  | notADeclaration (found : String)
  | unknownRequest (name : String)
  | unknownFieldAttribute (name : String)
  | reservedType (name : String)
  | importedType (name : String)
  | builtinType (name : String)
  | duplicateType (name : String)
  | duplicateField (name record : String)
  | openTypeArguments (found : String)
deriving DecidableEq, Repr

/-- The wording of a fault. -/
def SchemaFault.message : SchemaFault → String
  | expected kinds found =>
    "Expected " ++ ", ".intercalate (kinds.map fun kind => quoted kind.label) ++ ", got " ++
      quoted found
  | expectedFieldName found => "Expected field name, got " ++ quoted found
  | reservedField name => "Field name " ++ quoted name ++ " is a Python keyword"
  | methodField name => "Field name " ++ quoted name ++ " clashes with a generated mirror method"
  | notARecord found =>
    "'@mirror' can only be attached to a record declaration, got " ++
      if found.kind = .eof then "end of file" else quoted found.text
  | notADeclaration found => "Unexpected token " ++ quoted found ++ " at top level"
  | unknownRequest name => "Unknown declaration attribute '@" ++ name ++ "'"
  | unknownFieldAttribute name => "Unknown field attribute '@" ++ name ++ "'"
  | reservedType name => quoted name ++ " is a Python keyword and cannot name a type"
  | importedType name =>
    quoted name ++ " is imported by generated modules and cannot name a type"
  | builtinType name => quoted name ++ " is a built-in type name and cannot be redeclared"
  | duplicateType name => "Duplicate declaration of " ++ quoted name
  | duplicateField name record =>
    "Duplicate field " ++ quoted name ++ " in record " ++ quoted record
  | openTypeArguments found => "Unterminated type arguments, got " ++ quoted found

/-- A fault and the place it is reported at. -/
structure SchemaError where
  fault : SchemaFault
  position : Position
deriving DecidableEq, Repr

namespace SchemaError

/-- The wording of an error: its place, then its fault. -/
def message (e : SchemaError) : String :=
  e.position.describe ++ ": " ++ e.fault.message

/-- Whether the error says that something else than a record is to be mirrored. -/
def isNotARecord (e : SchemaError) : Bool :=
  match e.fault with
  | .notARecord _ => true
  | _ => false

end SchemaError

end RecordMirror
