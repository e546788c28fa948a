import RecordMirror.Number.Shortest
import RecordMirror.Text.Quoted
/-!
JSON values, and how messages show them.
-/

namespace RecordMirror

/-- A JSON value.  Integers are exact; the members of an object have distinct names and keep the
order in which the names first came. -/
inductive Json
  | null
  | bool (b : Bool)
  | integer (n : Int)
  | float (x : Double)
  | string (s : String)
  | array (items : List Json)
  | object (members : List (String × Json))
deriving Repr, Inhabited

namespace Json

/-- The value of a member. -/
def member? (members : List (String × Json)) (name : String) : Option Json :=
  (members.find? (·.1 == name)).map (·.2)

/-- Sets the value of a member; a new name goes to the end. -/
def setMember (name : String) (value : Json) : List (String × Json) → List (String × Json)
  | [] => [(name, value)]
  | (other, old) :: rest =>
    if other = name then (name, value) :: rest else (other, old) :: setMember name value rest

/-- The object of a list of members.  The last value of a repeated name wins. -/
def ofMembers (members : List (String × Json)) : Json :=
  .object (members.foldl (fun object m => setMember m.1 m.2 object) [])

/-- The name of the kind of a value. -/
def typeName : Json → String
  | null => "NoneType"
  | bool _ => "bool"
  | integer _ => "int"
  | float _ => "float"
  | string _ => "str"
  | array _ => "list"
  | object _ => "dict"

/-- A value as messages show it. -/
def describe : Json → String
  | null => "None"
  | bool b => if b then "True" else "False"
  | integer n => toString n
  | float x => x.text
  | string s => quoted s
  | array items => "[" ++ ", ".intercalate (describeItems items) ++ "]"
  | object members => "\x7b" ++ ", ".intercalate (describeMembers members) ++ "\x7d"
where
  describeItems : List Json → List String
    | [] => []
    | item :: rest => describe item :: describeItems rest
  describeMembers : List (String × Json) → List String
    | [] => []
    | (name, value) :: rest => (quoted name ++ ": " ++ describe value) :: describeMembers rest

end Json

end RecordMirror
