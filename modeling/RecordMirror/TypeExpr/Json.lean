import RecordMirror.Json.Decode
import RecordMirror.TypeExpr
/-!
Type expressions as JSON objects, told apart by their `kind`.
-/

namespace RecordMirror.TypeExpr

/-- The value of a member, with a proof that it is smaller than the members it comes from. -/
def smallerMember? (name : String) : (members : List (String × Json)) →
    Option { value : Json // sizeOf value < sizeOf members }
  | [] => none
  | (other, value) :: rest =>
    if other = name then
      some ⟨value, by simp only [List.cons.sizeOf_spec, Prod.mk.sizeOf_spec]; omega⟩
    else (smallerMember? name rest).map fun found =>
      ⟨found.val, by have := found.property; simp only [List.cons.sizeOf_spec]; omega⟩

/-- Decodes a type expression.  Paths name the kind before the member. -/
def ofJson : Json → Decoded TypeExpr
  | .object members =>
    let part (name : String) : Decoded TypeExpr :=
      match smallerMember? name members with
      | some ⟨value, _⟩ => (ofJson value).within (.name name)
      | none => .bad [⟨.missing, [.name name]⟩]
    match Json.member? members "kind" with
    | none => .fail .untaggedType
    | some (.string kind) =>
      match Shape.ofName? kind with
      | none => .fail .unknownTypeTag
      | some shape =>
        Decoded.within (.name kind) <|
          match shape with
          | .primitive =>
            primitive <$> Json.required members "primitive" (Json.toChoice Primitive.ofName?)
          | .optional => optional <$> part "inner_type"
          | .list => list <$> part "element_type"
          | .set => set <$> part "element_type"
          | .map => map <$> part "key_type" <*> part "value_type"
          | .reference => reference <$> Json.required members "name" Json.toText
    | some _ => .fail .unknownTypeTag
  | _ => .fail .notAType
termination_by value => sizeOf value

/-- The object of a type expression. -/
def toJson : TypeExpr → Json
  | primitive type => .object [("kind", .string "primitive"), ("primitive", .string type.name)]
  | optional inner => .object [("kind", .string "optional"), ("inner_type", toJson inner)]
  | list element => .object [("kind", .string "list"), ("element_type", toJson element)]
  | set element => .object [("kind", .string "set"), ("element_type", toJson element)]
  | map key value =>
    .object [("kind", .string "map"), ("key_type", toJson key), ("value_type", toJson value)]
  | reference record => .object [("kind", .string "reference"), ("name", .string record)]

/-- The wording of the refusal to classify a value that is no type expression. -/
def refusal (value : Json) : String :=
  "Not a type expression: " ++ value.describe

end RecordMirror.TypeExpr
