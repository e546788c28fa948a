import RecordMirror.Json.Decode
import RecordMirror.Schema
/-!
Schemas as JSON objects.
-/

namespace RecordMirror

/-- Decodes a field. -/
def Field.ofJson : Json → Decoded Field
  | .object members =>
    Field.mk <$> Json.required members "name" Json.toText <*>
      Json.required members "declared_type" Json.toText <*>
      Json.optional members "persisted" true Json.toBoolean
  | _ => .fail .notAnObject

/-- Decodes a mirror request. -/
def MirrorRequest.ofJson : Json → Decoded MirrorRequest
  | .object members =>
    MirrorRequest.mk <$> Json.optional members "mode" none Json.toText? <*>
      Json.optional members "line" 0 Json.toInteger
  | _ => .fail .notAnObject

/-- Decodes a record. -/
def Record.ofJson : Json → Decoded Record
  | .object members =>
    Record.mk <$> Json.required members "name" Json.toText <*>
      Json.optional members "fields" [] (Json.toListOf Field.ofJson) <*>
      Json.optional members "mirrors" [] (Json.toListOf MirrorRequest.ofJson)
  | _ => .fail .notAnObject

/-- Decodes an enumeration. -/
def Enumeration.ofJson : Json → Decoded Enumeration
  | .object members =>
    Enumeration.mk <$> Json.required members "name" Json.toText <*>
      Json.optional members "values" [] (Json.toListOf Json.toText)
  | _ => .fail .notAnObject

/-- Decodes a schema. -/
def Schema.ofJson : Json → Decoded Schema
  | .object members =>
    Schema.mk <$> Json.optional members "records" [] (Json.toListOf Record.ofJson) <*>
      Json.optional members "enums" [] (Json.toListOf Enumeration.ofJson)
  | _ => .fail .notAnObject

/-- The object of a field. -/
def Field.toJson (f : Field) : Json :=
  .object [("name", .string f.name), ("declared_type", .string f.declaredType),
    ("persisted", .bool f.persisted)]

/-- The object of a mirror request. -/
def MirrorRequest.toJson (r : MirrorRequest) : Json :=
  .object [("mode", match r.mode with
    | some mode => .string mode
    | none => .null), ("line", .integer r.line)]

/-- The object of a record. -/
def Record.toJson (r : Record) : Json :=
  .object [("name", .string r.name), ("fields", .array (r.fields.map Field.toJson)),
    ("mirrors", .array (r.mirrors.map MirrorRequest.toJson))]

/-- The object of an enumeration. -/
def Enumeration.toJson (e : Enumeration) : Json :=
  .object [("name", .string e.name), ("values", .array (e.values.map .string))]

/-- The object of a schema. -/
def Schema.toJson (s : Schema) : Json :=
  .object [("records", .array (s.records.map Record.toJson)),
    ("enums", .array (s.enums.map Enumeration.toJson))]

end RecordMirror
