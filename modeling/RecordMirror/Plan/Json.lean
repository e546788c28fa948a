import RecordMirror.Json.Decode
import RecordMirror.Json.Reader
import RecordMirror.Json.Writer
import RecordMirror.Plan
/-!
Plans as JSON documents.  A document names the version of its format, so that a change of the
format can be noticed.
-/

namespace RecordMirror

/-- The object of a field mapping. -/
def FieldMapping.toJson (m : FieldMapping) : Json :=
  .object [("name", .string m.name), ("declared_type", .string m.declaredType),
    ("shape", .string m.shape.name), ("mirror_field_decl", .string m.declaration),
    ("forward_expr", .string m.forward), ("backward_expr", .string m.backward),
    ("imports", .array (m.imports.map .string))]

/-- Decodes a field mapping. -/
def FieldMapping.ofJson : Json → Decoded FieldMapping
  | .object members =>
    FieldMapping.mk <$> Json.required members "name" Json.toText <*>
      Json.required members "declared_type" Json.toText <*>
      Json.required members "shape" (Json.toChoice Shape.ofName?) <*>
      Json.required members "mirror_field_decl" Json.toText <*>
      Json.required members "forward_expr" Json.toText <*>
      Json.required members "backward_expr" Json.toText <*>
      Json.optional members "imports" [] (Json.toTupleOf Json.toText)
  | _ => .fail .notAnObject

namespace Plan

/-- The object of a plan. -/
def toJson (p : Plan) : Json :=
  .object [("record_name", .string p.record), ("mirror_name", .string p.mirror),
    ("mode", .string p.mode.name), ("fields", .array (p.fields.map FieldMapping.toJson))]

/-- Decodes a plan. -/
def ofJson : Json → Decoded Plan
  | .object members =>
    Plan.mk <$> Json.required members "record_name" Json.toText <*>
      Json.required members "mirror_name" Json.toText <*>
      Json.required members "mode" (Json.toChoice Mode.ofName?) <*>
      Json.optional members "fields" [] (Json.toTupleOf FieldMapping.ofJson)
  | _ => .fail .notAnObject

/-- The version of the document format. -/
def formatVersion : String := "1"

/-- The text of the document of some plans. -/
def serialize (plans : List Plan) : String :=
  Json.render (.object [("v", .string formatVersion), ("records", .array (plans.map toJson))])

end Plan

/-- Why a text is no document of plans. -/
inductive DocumentError
  | unreadable (cause : JsonError)
  | notAnObject (found : Json)
  | version (found : Json)
  | noRecords (found : Json)
  | invalid (issues : List Issue)
deriving Repr

namespace DocumentError

/-- The wording of the errors that have one; the issues of an invalid record are listed
instead. -/
def message : DocumentError → String
  | unreadable cause => cause.message
  | notAnObject found => quoted found.typeName ++ " object has no attribute 'get'"
  | version found => "Unsupported plan format version: " ++ found.describe
  | noRecords found => quoted found.typeName ++ " object is not iterable"
  | invalid _ => ""

end DocumentError

namespace Plan

/-- The items that the records of a document are taken from: an array's items, an object's names,
or a text's characters. -/
def recordItems : Json → Except DocumentError (List Json)
  | .array items => .ok items
  | .object members => .ok (members.map fun m => .string m.1)
  | .string s => .ok (s.toList.map fun c => .string (String.singleton c))
  | found => .error (.noRecords found)

/-- The plans of a list of items.  The first one that does not fit decides. -/
def ofItems : List Json → Except DocumentError (List Plan)
  | [] => .ok []
  | item :: rest => do
    let plan ← (ofJson item).toExcept.mapError .invalid
    let plans ← ofItems rest
    return plan :: plans

/-- The plans of a JSON value. -/
def ofDocument : Json → Except DocumentError (List Plan)
  | .object members =>
    let version := (Json.member? members "v").getD .null
    match version with
    | .string text =>
      if text = formatVersion then do
        let items ← recordItems ((Json.member? members "records").getD (.array []))
        ofItems items
      else .error (.version version)
    | found => .error (.version found)
  | found => .error (.notAnObject found)

/-- The plans of the text of a document. -/
def deserialize (text : String) : Except DocumentError (List Plan) :=
  match Json.parse text with
  | .error cause => .error (.unreadable cause)
  | .ok value => ofDocument value

end Plan

end RecordMirror
